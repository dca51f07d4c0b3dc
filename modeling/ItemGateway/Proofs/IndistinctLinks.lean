import ItemGateway.Proofs.CompleteServers
import ItemGateway.Proofs.Congruence
import ItemGateway.Proofs.LinkMoves

namespace ItemGateway

variable {σ α : Type} {same : σ → σ → Prop}

structure Server.Indistinct (s t : Server) : Prop where
  id : s.id = t.id
  url : s.url = t.url
  user : s.user = t.user
  driver : s.driver = t.driver
  blank : Text.trimmed s.password = "" ↔ Text.trimmed t.password = ""

namespace Server.Indistinct

variable {s t : Server}

theorem refl (s : Server) : s.Indistinct s :=
  ⟨rfl, rfl, rfl, rfl, Iff.rfl⟩

theorem missing (h : s.Indistinct t) : s.missing = t.missing := by
  have hb : Text.allBlank s.password = Text.allBlank t.password := by
    rw [Bool.eq_iff_iff, ← Text.trimmed_eq_empty_iff, ← Text.trimmed_eq_empty_iff]
    exact h.blank
  simp only [Server.missing, List.filter_cons, h.url, h.user, hb]
  split <;> split <;> split <;> rfl

theorem isComplete (h : s.Indistinct t) : s.isComplete = t.isComplete := by
  rw [Server.isComplete, Server.isComplete, h.missing]

theorem display (h : s.Indistinct t) : s.display = t.display := by
  unfold Server.display
  rw [h.id, h.url, h.user, h.driver]

theorem debug (h : s.Indistinct t) : s.debug = t.debug := by
  unfold Server.debug
  rw [h.id, h.url, h.user, h.driver]

end Server.Indistinct

structure Engine.Respects (e : Engine σ) (same : σ → σ → Prop) : Prop where
  openDatabase : ∀ r path, Congruent same same (e.openDatabase r path)
  enforceForeignKeys : ∀ r, Congruent same same (e.enforceForeignKeys r)
  close : ∀ r, Congruent same same fun w => (e.closeRefusal? r w, e.close r w)
  prepare : ∀ r sql, Congruent same same (e.prepare r sql)
  step : ∀ r, Congruent same same (e.step r)
  execute : ∀ r bound, Congruent same same (e.execute r bound)

/-- Whatever the password, the driver gives the same answer and leaves a state that is the `same`. -/
def Driver.Blind (d : Driver σ) (same : σ → σ → Prop) : Prop :=
  ∀ r s t, s.Indistinct t → ∀ v w, same v w →
    (d.connect r s v).1 = (d.connect r t w).1 ∧ same (d.connect r s v).2 (d.connect r t w).2

theorem Engine.Respects.driver {e : Engine σ} (h : e.Respects same) : e.driver.Blind same := by
  intro r s t hst v w hs
  obtain ⟨a, v₁, w₁, hv, hw, hs⟩ := (h.openDatabase r (Server.databasePath s.url)).answer hs
  simp only [Engine.driver, ← hst.url, ← hst.id, hv, hw]
  rcases a with cause | _
  · exact ⟨rfl, hs⟩
  obtain ⟨a, v₂, w₂, hv, hw, hs⟩ := (h.enforceForeignKeys r).answer hs
  simp only [hv, hw]
  rcases a with cause | _ <;> exact ⟨rfl, hs⟩

namespace World

structure Indistinct (same : σ → σ → Prop) (v w : World σ) : Prop where
  state : same v.state w.state
  trail : v.trail = w.trail

variable {e : Engine σ} {r : Ref}

theorem ask_congruent {f : σ → α × σ} (hf : Congruent same same f) (event : Event) :
    Congruent (Indistinct same) (Indistinct same) fun w : World σ =>
      ((f w.state).1, (⟨(f w.state).2, event :: w.trail⟩ : World σ)) :=
  fun _ _ h => ⟨(hf _ _ h.state).1, (hf _ _ h.state).2, congrArg (event :: ·) h.trail⟩

theorem close_congruent (he : e.Respects same) : Congruent (Indistinct same) (Indistinct same) (close e r) :=
  ask_congruent (he.close r) (.closed r)

theorem readFirst_congruent (he : e.Respects same) (sql : String) :
    Congruent (Indistinct same) (Indistinct same) (Query.readFirst e r sql) :=
  Query.readFirst_congruent (ask_congruent (he.prepare r sql) (.prepared r sql))
    (ask_congruent (he.step r) (.stepped r))

theorem execute_congruent (he : e.Respects same) (s : Statement) :
    Congruent (Indistinct same) (Indistinct same) (Query.execute e r s) :=
  Query.execute_congruent (ask_congruent (he.prepare r s.sql) (.prepared r s.sql))
    (ask_congruent (he.execute r (Query.boundValue s)) (.executed r (Query.boundValue s))) fun _ _ h => h

theorem connect_indistinct {d : Driver σ} (hd : d.Blind same) {s t : Server} (hs : s.Indistinct t)
    {v w : World σ} (h : v.Indistinct same w) :
    ∃ a v' w', v.connect d r s = (a, v') ∧ w.connect d r t = (a, w') ∧ v'.Indistinct same w' := by
  obtain ⟨ha, hstate⟩ := hd r s t hs v.state w.state h.state
  refine ⟨_, _, _, rfl, Prod.ext ha.symm rfl, hstate, ?_⟩
  simp only [connect, ha, h.trail]

end World

namespace Link

inductive Indistinct (same : σ → σ → Prop) (l : Link σ) : Link σ → Prop
  | intro (t : Server) (hs : l.server.Indistinct t) (hd : ∀ d, l.driver = some d → d.Blind same) :
      Indistinct same l { l with server := t }

namespace Indistinct

variable {l k : Link σ}

theorem server (h : l.Indistinct same k) : l.server.Indistinct k.server := by
  obtain ⟨t, hs, -⟩ := h
  exact hs

theorem isOpen (h : l.Indistinct same k) : l.isOpen = k.isOpen := by
  obtain ⟨t, -, -⟩ := h
  rfl

theorem debug (h : l.Indistinct same k) : l.debug = k.debug := by
  obtain ⟨t, hs, -⟩ := h
  unfold Link.debug
  rw [hs.debug]

end Indistinct

def Blind (same : σ → σ → Prop) (f : Link σ → World σ → α × Link σ × World σ) : Prop :=
  ∀ l k v w, l.Indistinct same k → World.Indistinct same v w →
    ∃ a l' k' v' w', f l v = (a, l', v') ∧ f k w = (a, k', w') ∧ l'.Indistinct same k' ∧
      World.Indistinct same v' w'

variable {r : Ref}

theorem acquire_blind : Blind same (acquire (σ := σ) r) := by
  rintro l _ v w ⟨t, hs, hd⟩ hw
  simp only [acquire, ← hs.isComplete, ← hs.missing, ← hs.id, ← hs.driver]
  split
  · exact ⟨_, _, _, _, _, rfl, rfl, .intro t hs hd, hw⟩
  split
  · exact ⟨_, _, _, _, _, rfl, rfl, .intro t hs hd, hw⟩
  split
  · exact ⟨_, _, _, _, _, rfl, rfl, .intro t hs hd, hw⟩
  split
  · exact ⟨_, _, _, _, _, rfl, rfl, .intro t hs hd, hw⟩
  -- So far both links took one path. Here the driver sees the two passwords.
  next d hl =>
  obtain ⟨a, v', w', hv, hk, hw'⟩ := World.connect_indistinct (r := r) (hd d hl) hs hw
  simp only [hv, hk]
  rcases a with f | _
  · exact ⟨_, _, _, _, _, rfl, rfl, .intro t hs hd, hw'⟩
  · exact ⟨_, _, _, _, _, rfl, rfl, .intro t hs hd, hw'⟩

theorem acquireLog_eq {l k : Link σ} (h : l.Indistinct same k) {v w : World σ} (hw : v.Indistinct same w)
    (r : Ref) : l.acquireLog r v = k.acquireLog r w := by
  obtain ⟨a, _, _, _, _, hv, hk, -, -⟩ := acquire_blind (r := r) l k v w h hw
  obtain ⟨t, hs, -⟩ := h
  simp only [acquireLog, hv, hk, hs.display]

theorem turn_blind : Blind same (turn (σ := σ) r) := by
  intro l k v w hl hw
  obtain ⟨a, l', k', v', w', hv, hk, hl', hw'⟩ := acquire_blind (r := r) l k v w hl hw
  obtain ⟨t, hs, hd⟩ := hl
  simp only [turn, ← hs.isComplete, ← hs.id, hv, hk]
  split
  · exact ⟨_, _, _, _, _, rfl, rfl, .intro t hs hd, hw⟩
  · rcases a with f | _ <;> exact ⟨_, _, _, _, _, rfl, rfl, hl', hw'⟩

theorem use_blind {f : World σ → Except Fault α × World σ}
    (hf : Congruent (World.Indistinct same) (World.Indistinct same) f) : Blind same (use r f) := by
  intro l k v w hl hw
  obtain ⟨a, l', k', v', w', hv, hk, hl', hw'⟩ := acquire_blind (r := r) l k v w hl hw
  simp only [use, hv, hk]
  rcases a with e | _
  · exact ⟨_, _, _, _, _, rfl, rfl, hl', hw'⟩
  · obtain ⟨a, v₁, w₁, hv₁, hw₁, h⟩ := hf.answer hw'
    simp only [hv₁, hw₁]
    exact ⟨_, _, _, _, _, rfl, rfl, hl', h⟩

theorem abandon_blind {f : World σ → World σ}
    (hf : ∀ v w, World.Indistinct same v w → World.Indistinct same (f v) (f w)) :
    Blind same (abandon r f) := by
  intro l k v w hl hw
  obtain ⟨a, l', k', v', w', hv, hk, hl', hw'⟩ := acquire_blind (r := r) l k v w hl hw
  simp only [abandon, hv, hk]
  rcases a with e | _
  · exact ⟨_, _, _, _, _, rfl, rfl, hl', hw'⟩
  · obtain ⟨t, hs, hd⟩ := hl'
    exact ⟨_, _, _, _, _, rfl, rfl, .intro t hs hd, hf _ _ hw'⟩

theorem release_blind {e : Engine σ} (he : e.Respects same) : Blind same (release e r) := by
  rintro l _ v w ⟨t, hs, hd⟩ hw
  simp only [release, ← hs.id]
  split
  · exact ⟨_, _, _, _, _, rfl, rfl, .intro t hs hd, hw⟩
  split
  · obtain ⟨a, v', w', hv, hk, hw'⟩ := (World.close_congruent (r := r) he).answer hw
    simp only [hv, hk]
    rcases a with _ | cause <;> exact ⟨_, _, _, _, _, rfl, rfl, .intro t hs hd, hw'⟩
  · exact ⟨_, _, _, _, _, rfl, rfl, .intro t hs hd, hw⟩

end Link

end ItemGateway
