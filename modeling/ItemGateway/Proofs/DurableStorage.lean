import ItemGateway.Proofs.LinkMoves

/-!
Databases that outlive the connections to them: it makes no difference to a statement whether its connection
was reopened, and a server that could be opened once can be opened again.
-/

namespace ItemGateway

variable {σ α : Type}

/-- How a state looks if connections are left out of account. -/
structure Storage (σ : Type) where
  connected : Ref → σ → Prop
  same : Setoid σ
  /-- Moreover the statements that were prepared last on the link are the same, and have come equally far. -/
  level : Ref → σ → σ → Prop

structure Driver.Durable (d : Driver σ) (V : Storage σ) : Prop where
  answer : ∀ r s v w, (d.connect r s v).1 = (d.connect r s w).1
  same : ∀ r s w, V.same.r (d.connect r s w).2 w
  connected : ∀ {r s w}, (d.connect r s w).1 = .ok () → V.connected r (d.connect r s w).2
  others : ∀ {r t}, t ≠ r → ∀ {s w}, V.connected t w → V.connected t (d.connect r s w).2

structure Engine.Durable (e : Engine σ) (V : Storage σ) : Prop where
  same_of_level : ∀ {r v w}, V.level r v w → V.same.r v w
  close_same : ∀ r w, V.same.r (e.close r w) w
  close_others : ∀ {r t}, t ≠ r → ∀ {w}, V.connected t w → V.connected t (e.close r w)
  prepare : ∀ r sql, Congruent (fun v w => V.same.r v w ∧ V.connected r v ∧ V.connected r w) (V.level r)
    (e.prepare r sql)
  step : ∀ r, Congruent (V.level r) (V.level r) (e.step r)
  execute : ∀ r bound, Congruent (V.level r) (V.level r) (e.execute r bound)
  prepare_keeps : ∀ {t w}, V.connected t w → ∀ r sql, V.connected t (e.prepare r sql w).2
  step_keeps : ∀ {t w}, V.connected t w → ∀ r, V.connected t (e.step r w).2
  execute_keeps : ∀ {t w}, V.connected t w → ∀ r bound, V.connected t (e.execute r bound w).2

variable {V : Storage σ} {e : Engine σ}

/-- Whoever is lent a connection may run statements on it, and leaves every connection open. -/
structure Storage.Spares (V : Storage σ) (g : World σ → World σ) : Prop where
  works : ∀ w : World σ, w.Works (g w)
  keeps : ∀ t w, V.connected t w.state → V.connected t (g w).state

namespace Engine.Durable

theorem readFirst_spares (h : e.Durable V) (r : Ref) (sql : String) :
    V.Spares fun w => (Query.readFirst e r sql w).2 where
  works w := (Query.readFirst_asks e r sql w).works
  keeps t w := by
    let there (v : World σ) : Prop := V.connected t v.state
    exact Query.readFirst_keeps (I := there) (J := there) (fun _ hv => h.prepare_keeps hv r sql)
      fun _ hv => h.step_keeps hv r

theorem execute_spares (h : e.Durable V) (r : Ref) (s : Statement) :
    V.Spares fun w => (Query.execute e r s w).2 where
  works w := (Query.execute_asks e r s w).works
  keeps t w := by
    let there (v : World σ) : Prop := V.connected t v.state
    exact Query.execute_keeps (I := there) (J := there) (K := there)
      (fun _ hv => h.prepare_keeps hv r s.sql) (fun _ hv => h.execute_keeps hv r _) fun _ => id

end Engine.Durable

def Storage.Answers (V : Storage σ) (r : Ref) (f : World σ → α × World σ) : Prop :=
  Congruent (fun v w => V.same.r v.state w.state ∧ V.connected r v.state ∧ V.connected r w.state)
    (fun v w => V.same.r v.state w.state) f

namespace Engine.Durable

theorem readFirst_answers (h : e.Durable V) (r : Ref) (sql : String) :
    V.Answers r (Query.readFirst e r sql) := by
  let level (v w : World σ) : Prop := V.level r v.state w.state
  have hp := Query.readFirst_congruent (B := level) (fun v w => h.prepare r sql v.state w.state)
    fun v w => h.step r v.state w.state
  exact hp.weaken fun _ _ => h.same_of_level

theorem execute_answers (h : e.Durable V) (r : Ref) (s : Statement) : V.Answers r (Query.execute e r s) := by
  let level (v w : World σ) : Prop := V.level r v.state w.state
  have hp := Query.execute_congruent (B := level) (C := level) (fun v w => h.prepare r s.sql v.state w.state)
    (fun v w => h.execute r (Query.boundValue s) v.state w.state) fun _ _ => id
  exact hp.weaken fun _ _ => h.same_of_level

end Engine.Durable

theorem World.connect_eq {d : Driver σ} {r : Ref} {s : Server} {w w' : World σ} {a : Except Fault Unit}
    (h : w.connect d r s = (a, w')) : (d.connect r s w.state).1 = a ∧ (d.connect r s w.state).2 = w'.state := by
  simp only [World.connect, Prod.mk.injEq] at h
  exact ⟨h.1, by rw [← h.2]⟩

namespace Link

variable {r : Ref} {l l' l'' : Link σ} {w w' w'' : World σ}

def Durable (l : Link σ) (V : Storage σ) : Prop :=
  ∀ d, l.driver = some d → d.Durable V

def Lit (V : Storage σ) (r : Ref) (l : Link σ) (w : World σ) : Prop :=
  l.live = true → V.connected r w.state ∧ l.server.isComplete = true ∧
    ∃ d, l.driver = some d ∧ ∀ v, (d.connect r l.server v).1 = .ok ()

structure Tends (V : Storage σ) (r : Ref) (l l' : Link σ) (w w' : World σ) : Prop where
  lit : l.Lit V r w → l'.Lit V r w'
  others : ∀ t ≠ r, V.connected t w.state → V.connected t w'.state

namespace Tends

theorem refl (r : Ref) (l : Link σ) (w : World σ) : Tends V r l l w w :=
  ⟨id, fun _ _ => id⟩

theorem trans (h : Tends V r l l' w w') (h' : Tends V r l' l'' w' w'') : Tends V r l l'' w w'' :=
  ⟨h'.lit ∘ h.lit, fun t ht => h'.others t ht ∘ h.others t ht⟩

theorem spares {g : World σ → World σ} (hg : V.Spares g) (l : Link σ) (w : World σ) :
    Tends V r l l w (g w) :=
  ⟨fun hl hv => (hl hv).imp_left (hg.keeps r w), fun t _ => hg.keeps t w⟩

theorem lock (broken : Bool) : Tends V r l { l with broken } w w :=
  ⟨id, fun _ _ => id⟩

theorem dark (hl : l'.live = false) (ho : ∀ t ≠ r, V.connected t w.state → V.connected t w'.state) :
    Tends V r l l' w w' := by
  refine ⟨?_, ho⟩
  intro _ hv
  rw [hl] at hv
  cases hv

end Tends

theorem acquire_tends (hd : l.Durable V) (r : Ref) (w : World σ) :
    Tends V r l (l.acquire r w).2.1 w (l.acquire r w).2.2 := by
  have h := acquired r l w
  generalize (l.acquire r w).1 = a, (l.acquire r w).2.1 = l', (l.acquire r w).2.2 = w' at h
  cases h with
  | broken | live | incomplete | driverless => exact .refl r l w
  | @refused d f _ hb hl hc hd' hw =>
    apply Tends.dark hl
    intro t ht hv
    rw [← (World.connect_eq hw).2]
    exact (hd d hd').others ht hv
  | @opened d _ hb hl hc hd' hw =>
    obtain ⟨ha, hs⟩ := World.connect_eq hw
    constructor
    · intro _ _
      rw [← hs]
      refine ⟨(hd d hd').connected ha, hc, d, hd', ?_⟩
      intro v
      rw [(hd d hd').answer r l.server v w.state, ha]
    · intro t ht hv
      rw [← hs]
      exact (hd d hd').others ht hv

theorem release_tends (he : e.Durable V) (r : Ref) (l : Link σ) (w : World σ) :
    Tends V r l (l.release e r w).2.1 w (l.release e r w).2.2 := by
  have h := released e r l w
  generalize (l.release e r w).1 = a, (l.release e r w).2.1 = l', (l.release e r w).2.2 = w' at h
  cases h with
  | broken | idle => exact .refl r l w
  | refused | closed => exact .dark rfl fun t ht hv => he.close_others ht hv

theorem Operation.tends {f : Link σ → World σ → α × Link σ × World σ} (he : e.Durable V) (hd : l.Durable V)
    (h : Operation e V.Spares r f) (w : World σ) : Tends V r l (f l w).2.1 w (f l w).2.2 := by
  have ha := acquire_tends hd r w
  cases h with
  | acquire => exact ha
  | release => exact release_tends he r l w
  | turn =>
    unfold Link.turn
    split
    · exact .refl r l w
    split <;> next hq =>
      rw [hq] at ha
      exact ha
  | use hf =>
    unfold Link.use
    split
    · next hq => rw [hq] at ha; exact ha
    · next hq => rw [hq] at ha; exact ha.trans (.spares hf _ _)
  | abandon hf =>
    unfold Link.abandon
    split
    · next hq => rw [hq] at ha; exact ha
    · next hq => rw [hq] at ha; exact (ha.trans (.lock true)).trans (.spares hf _ _)

def unlit (l : Link σ) : Link σ :=
  { l with live := false }

theorem Operation.rests {f : Link σ → World σ → α × Link σ × World σ} (he : e.Durable V) (hd : l.Durable V)
    (h : Operation e (fun _ => False) r f) (w : World σ) :
    (f l w).2.1.unlit = l.unlit ∧ V.same.r (f l w).2.2.state w.state := by
  have ha : (l.acquire r w).2.1.unlit = l.unlit ∧ V.same.r (l.acquire r w).2.2.state w.state := by
    have h := acquired r l w
    generalize (l.acquire r w).1 = a, (l.acquire r w).2.1 = l', (l.acquire r w).2.2 = w' at h
    cases h with
    | broken | live | incomplete | driverless => exact ⟨rfl, V.same.refl _⟩
    | @refused d f _ hb hl hc hd' hw | @opened d _ hb hl hc hd' hw =>
      rw [← (World.connect_eq hw).2]
      exact ⟨rfl, (hd d hd').same r l.server w.state⟩
  cases h with
  | acquire => exact ha
  | turn =>
    unfold Link.turn
    split
    · exact ⟨rfl, V.same.refl _⟩
    split <;> next hq =>
      rw [hq] at ha
      exact ha
  | release =>
    have h := released e r l w
    generalize (l.release e r w).1 = a, (l.release e r w).2.1 = l', (l.release e r w).2.2 = w' at h
    cases h with
    | broken | idle => exact ⟨rfl, V.same.refl _⟩
    | refused | closed => exact ⟨rfl, he.close_same r w.state⟩
  | use hf | abandon hf => exact hf.elim

theorem acquire_unlit (hd : l.Durable V) (hl : l.Lit V r w) (v : World σ) :
    (l.acquire r w).1 = (l.unlit.acquire r v).1 := by
  obtain ⟨server, driver, live, broken⟩ := l
  cases live with
  | true =>
    -- The driver is not asked, but it would have said yes.
    cases broken with
    | true => rfl
    | false =>
      obtain ⟨-, hc, d, rfl, ho⟩ := hl rfl
      obtain ⟨v', hv⟩ : ∃ v', v.connect d r server = (.ok (), v') := ⟨_, Prod.ext (ho v.state) rfl⟩
      simp only [unlit, acquire, hc, hv]
      rfl
  | false =>
    rcases Link.acquire_asks ⟨server, driver, false, broken⟩ with ⟨a, ha⟩ | ⟨d, rfl, ha⟩
    · rw [unlit, ha, ha]
    · have hv : (w.connect d r server).1 = (v.connect d r server).1 := (hd d rfl).answer r server w.state v.state
      rw [unlit, ha, ha]
      rcases hw : w.connect d r server with ⟨a, w'⟩
      rcases hv' : v.connect d r server with ⟨a', v'⟩
      rw [hw, hv'] at hv
      obtain rfl : a = a' := hv
      cases a <;> rfl

end Link

end ItemGateway
