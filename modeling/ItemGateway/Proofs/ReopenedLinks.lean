import ItemGateway.Proofs.DispatchFrame
import ItemGateway.Proofs.DurableStorage
import ItemGateway.Proofs.PoolInvariant

namespace ItemGateway

variable {σ α : Type} {V : Storage σ} {e : Engine σ}

inductive Answer
  | selected (a : Except Fault Selection)
  | wrote (a : Except Fault ℕ)

namespace Action

def isRequest : Action σ → Bool
  | select _ | update .. | insert .. => true
  | _ => false

def isUpkeep : Action σ → Bool
  | acquire _ | release _ | connectAll _ | closeAll _ => true
  | _ => false

def Spares (V : Storage σ) : Action σ → Prop
  | use _ task => ∀ t w, V.connected t w.state → V.connected t (task.run w).2.state
  | abandon _ task => ∀ t w, V.connected t w.state → V.connected t (task.run w).2.state
  | _ => True

theorem Lends.spares {a : Action σ} {g : World σ → World σ} (h : a.Lends e g) (he : e.Durable V)
    (ha : a.Spares V) : V.Spares g := by
  refine ⟨h.works, ?_⟩
  cases h with
  | use r task | abandon r task => exact ha
  | select address r sql => exact (he.readFirst_spares r sql).keeps
  | update address payload r s | insert address payload r s => exact (he.execute_spares r s).keeps

end Action

namespace Pool

variable {p q : Pool σ}

def answer? (p : Pool σ) : Action σ → Option Answer
  | .select address => some (.selected (p.select address).1)
  | .update address payload => some (.wrote (p.update address payload).1)
  | .insert address payload => some (.wrote (p.insert address payload).1)
  | _ => none

def answers : List (Action σ) → Pool σ → List Answer
  | [], _ => []
  | a :: actions, p => (p.answer? a).toList ++ answers actions (p.perform a)

structure Tended (V : Storage σ) (e : Engine σ) (p : Pool σ) : Prop where
  engine : p.engine = e
  stock : ∀ (id : String) (d : Driver σ), p.drivers[id]? = some d → d.Durable V
  links : ∀ r, (p.link r).Durable V
  lit : ∀ r, (p.link r).Lit V r p.world

theorem new_tended {drivers : List (Driver σ)} (hd : ∀ d ∈ e.driver :: drivers, d.Durable V) (state : σ) :
    (new e drivers state).Tended V e := by
  have hv (r : Ref) : (new e drivers state).link r = .vacant := link_of_size_le _ (by simp [new])
  refine ⟨rfl, ?_, ?_, ?_⟩
  · intro id d h
    rcases mem_of_foldl_insert h with hm | hm
    · exact hd d hm
    · simp at hm
  · intro r d h
    rw [hv] at h
    cases h
  · intro r h
    rw [hv] at h
    cases h

namespace Tended

theorem on (h : p.Tended V e) (he : e.Durable V) {r : Ref} {f : Link σ → World σ → α × Link σ × World σ}
    (ho : Link.Operation e V.Spares r f) : (p.on r f).2.Tended V e := by
  have hk := p.keeps_on (ho.move (fun _ hg => hg.works) (p.link r) p.world)
  have ht := ho.tends he (h.links r) p.world
  refine ⟨h.engine, h.stock, ?_, ?_⟩
  · intro s
    rw [Link.Durable, (hk s).driver]
    exact h.links s
  · intro s
    by_cases hs : s = r
    · subst hs
      rcases Nat.lt_or_ge s p.links.size with hlt | hge
      · rw [p.link_on_of_lt hlt]
        exact ht.lit (h.lit s)
      · intro hl
        rw [link_of_size_le _ (by rw [size_on]; exact hge)] at hl
        cases hl
    · rw [p.link_on_of_ne hs]
      exact fun hl => (h.lit s hl).imp_left (ht.others s hs)

theorem enroll (h : p.Tended V e) (s : Server) : (p.enroll s).Tended V e := by
  refine ⟨h.engine, h.stock, ?_, ?_⟩
  · intro r d hd
    rw [link_enroll] at hd
    split at hd
    · exact h.stock _ d hd
    · exact h.links r d hd
  · intro r hl
    rw [link_enroll] at hl ⊢
    split at hl
    · cases hl
    · next hne =>
      rw [if_neg hne]
      exact h.lit r hl

theorem perform (h : p.Tended V e) (he : e.Durable V) {a : Action σ} (ha : a.Spares V) :
    (p.perform a).Tended V e := by
  apply perform_induction h
  · intro _ q r f _ ho hq
    rw [hq.engine] at ho
    exact hq.on he (ho.mono fun g hg => hg.spares he ha)
  · exact fun q s hq => hq.enroll s
  · exact ⟨h.engine, h.stock, h.links, h.lit⟩

theorem run (h : p.Tended V e) (he : e.Durable V) {actions : List (Action σ)}
    (ha : ∀ a ∈ actions, a.Spares V) : (p.run actions).Tended V e :=
  List.foldlRecOn actions Pool.perform h fun _ hq a hm => hq.perform he (ha a hm)

end Tended

structure Reopened (V : Storage σ) (e : Engine σ) (p q : Pool σ) : Prop where
  left : p.Tended V e
  right : q.Tended V e
  names : p.names = q.names
  size : p.links.size = q.links.size
  link : ∀ r, (p.link r).unlit = (q.link r).unlit
  same : V.same.r p.world.state q.world.state

namespace Reopened

theorem refl (h : p.Tended V e) : Reopened V e p p :=
  ⟨h, h, rfl, rfl, fun _ => rfl, V.same.refl _⟩

theorem symm (h : Reopened V e p q) : Reopened V e q p :=
  ⟨h.right, h.left, h.names.symm, h.size.symm, fun r => (h.link r).symm, V.same.symm h.same⟩

theorem on (h : Reopened V e p q) (he : e.Durable V) {r : Ref} {f : Link σ → World σ → α × Link σ × World σ}
    (ho : Link.Operation e (fun _ => False) r f) : Reopened V e (p.on r f).2 q := by
  obtain ⟨hu, hs⟩ := ho.rests he (h.left.links r) p.world
  refine ⟨h.left.on he (ho.mono fun _ hf => hf.elim), h.right, h.names, ?_, ?_, V.same.trans hs h.same⟩
  · rw [size_on, h.size]
  · intro s
    rw [← h.link s, link_on]
    split
    · next hr =>
      obtain ⟨rfl, -⟩ := hr
      exact hu
    · rfl

theorem upkeep (h : Reopened V e p q) (he : e.Durable V) {a : Action σ} (ha : a.isUpkeep = true) :
    Reopened V e (p.perform a) q := by
  cases a with
  | acquire r => exact h.on he .acquire
  | release r =>
    apply h.on he
    rw [h.left.engine]
    exact .release
  | connectAll tour =>
    apply connectEach_induction (motive := fun k => Reopened V e k q) h
    exact fun k r _ hk => hk.on he .turn
  | closeAll tour =>
    apply closeEach_induction (motive := fun k => Reopened V e k q) h
    intro k r _ hk
    apply hk.on he
    rw [hk.left.engine]
    exact .release
  | register | replaceAll | use | abandon | select | update | insert => cases ha

theorem acquire (h : Reopened V e p q) (he : e.Durable V) (r : Ref) :
    (p.acquire r).1 = (q.acquire r).1 ∧ Reopened V e (p.acquire r).2 (q.acquire r).2 := by
  constructor
  · change ((p.link r).acquire r p.world).1 = ((q.link r).acquire r q.world).1
    rw [Link.acquire_unlit (h.left.links r) (h.left.lit r) p.world,
      Link.acquire_unlit (h.right.links r) (h.right.lit r) p.world, h.link r]
  · exact ((h.on he .acquire).symm.on he .acquire).symm

theorem use (h : Reopened V e p q) (he : e.Durable V) {r : Ref} {f : World σ → Except Fault α × World σ}
    (hs : V.Spares fun w => (f w).2) (ha : V.Answers r f) :
    (p.use r f).1 = (q.use r f).1 ∧ Reopened V e (p.use r f).2 (q.use r f).2 := by
  obtain ⟨hx, hr⟩ := h.acquire he r
  have hp : (p.use r f).2.Tended V e := h.left.on he (.use hs)
  have hq : (q.use r f).2.Tended V e := h.right.on he (.use hs)
  rcases ho : (p.acquire r).1 with fault | ⟨⟩
  · rw [use_of_error ho, use_of_error (hx.symm.trans ho)]
    exact ⟨rfl, hr⟩
  · have ho' := hx.symm.trans ho
    rw [use_of_ok ho] at hp ⊢
    rw [use_of_ok ho'] at hq ⊢
    obtain ⟨hanswer, hsame⟩ :=
      ha _ _ ⟨hr.same, (hr.left.lit r (live_of_acquire ho)).1, (hr.right.lit r (live_of_acquire ho')).1⟩
    exact ⟨hanswer, hp, hq, hr.names, hr.size, hr.link, hsame⟩

theorem dispatch (h : Reopened V e p q) (he : e.Durable V) (address : String)
    {f : Ref → String → World σ → Except Fault α × World σ}
    (hs : ∀ r template, V.Spares fun w => (f r template w).2)
    (ha : ∀ r template, V.Answers r (f r template)) :
    (p.dispatch address f).1 = (q.dispatch address f).1 ∧
      Reopened V e (p.dispatch address f).2 (q.dispatch address f).2 := by
  have hg : p.get? (Address.parse address).target = q.get? (Address.parse address).target := by
    rw [get?, get?, h.names]
  cases hr : q.get? (Address.parse address).target with
  | none =>
    rw [dispatch_of_unknown hr, dispatch_of_unknown (hg.trans hr)]
    exact ⟨rfl, h⟩
  | some r =>
    rw [dispatch_of_known hr, dispatch_of_known (hg.trans hr)]
    exact h.use he (hs r _) (ha r _)

theorem request (h : Reopened V e p q) (he : e.Durable V) {a : Action σ} (ha : a.isRequest = true) :
    p.answer? a = q.answer? a ∧ Reopened V e (p.perform a) (q.perform a) := by
  have hp := h.left.engine
  have hq := h.right.engine
  cases a with
  | select address =>
    simp only [answer?, perform, Pool.select, hp, hq]
    exact (h.dispatch he address he.readFirst_spares he.readFirst_answers).imp_left fun hx => by rw [hx]
  | update address payload =>
    simp only [answer?, perform, Pool.update, hp, hq]
    exact (h.dispatch he address (fun r _ => he.execute_spares r _) fun r _ => he.execute_answers r _).imp_left
      fun hx => by rw [hx]
  | insert address payload =>
    simp only [answer?, perform, Pool.insert, hp, hq]
    exact (h.dispatch he address (fun r _ => he.execute_spares r _) fun r _ => he.execute_answers r _).imp_left
      fun hx => by rw [hx]
  | register | replaceAll | acquire | use | abandon | release | connectAll | closeAll => cases ha

theorem answers (h : Reopened V e p q) (he : e.Durable V) {mixed : List (Action σ)}
    (hm : ∀ a ∈ mixed, a.isRequest = true ∨ a.isUpkeep = true) :
    answers mixed p = answers (mixed.filter Action.isRequest) q := by
  -- A request moves both pools on, everything else only the left one.
  induction mixed generalizing p q with
  | nil => rfl
  | cons a mixed ih =>
    have hrest : ∀ b ∈ mixed, b.isRequest = true ∨ b.isUpkeep = true :=
      fun b hb => hm b (List.mem_cons_of_mem a hb)
    by_cases hq : a.isRequest = true
    · obtain ⟨hanswer, hr⟩ := h.request he hq
      rw [List.filter_cons_of_pos hq, Pool.answers, Pool.answers, hanswer, ih hr hrest]
    · have hu := (hm a List.mem_cons_self).resolve_left hq
      have hn : p.answer? a = none := by cases a <;> first | rfl | exact absurd rfl hq
      rw [List.filter_cons_of_neg hq, Pool.answers, hn, Option.toList_none, List.nil_append]
      exact ih (h.upkeep he hu) hrest

end Reopened

/-- If the databases outlive their connections, nobody can tell when connections are opened and closed. -/
theorem upkeep_unseen {drivers : List (Driver σ)} (he : e.Durable V)
    (hd : ∀ d ∈ e.driver :: drivers, d.Durable V) (state : σ) {past : List (Action σ)}
    (hp : ∀ a ∈ past, a.Spares V) {mixed : List (Action σ)}
    (hm : ∀ a ∈ mixed, a.isRequest = true ∨ a.isUpkeep = true) :
    let p := (new e drivers state).run past
    answers mixed p = answers (mixed.filter Action.isRequest) p :=
  (Reopened.refl ((new_tended hd state).run he hp)).answers he hm

end Pool

structure TableFile where
  rows : ℕ
  opened : Ref → Bool := fun _ => false
  fresh : Ref → Bool := fun _ => false

def Engine.tableFile : Engine TableFile where
  openDatabase r _ s := (.ok (), { s with opened := Function.update s.opened r true })
  enforceForeignKeys _ s := (.ok (), s)
  close r s := { s with opened := Function.update s.opened r false }
  prepare r sql s :=
    if s.opened r then
      (.ok ⟨sql.toList.count '?', "SELECT".toList.isPrefixOf sql.toList, ["n"]⟩,
        { s with fresh := Function.update s.fresh r true })
    else (.error "no connection", s)
  step r s :=
    (.ok (if s.fresh r then some [.integer s.rows] else none),
      { s with fresh := Function.update s.fresh r false })
  execute _ _ s := (.ok 1, { s with rows := s.rows + 1 })

def TableFile.storage : Storage TableFile where
  connected r s := s.opened r = true
  same := ⟨fun v w => v.rows = w.rows, fun _ => rfl, fun h => h.symm, fun h h' => h.trans h'⟩
  level r v w := v.rows = w.rows ∧ v.fresh r = w.fresh r

theorem Engine.tableFile_durable : Engine.tableFile.Durable TableFile.storage where
  same_of_level h := h.1
  close_same _ _ := rfl
  close_others ht _ hw := (Function.update_of_ne ht _ _).trans hw
  prepare r sql := by
    rintro v w ⟨hs, hv, hw⟩
    replace hv : v.opened r = true := hv
    replace hw : w.opened r = true := hw
    simp only [tableFile, hv, hw, if_true]
    exact ⟨trivial, hs, by simp⟩
  step r := by
    rintro v w ⟨hs, hf⟩
    simp only [tableFile, hs, hf]
    exact ⟨trivial, rfl, by simp⟩
  execute r bound := by
    rintro v w ⟨hs, hf⟩
    exact ⟨rfl, congrArg (· + 1) hs, hf⟩
  prepare_keeps hw r sql := by
    simp only [tableFile]
    split <;> exact hw
  step_keeps hw _ := hw
  execute_keeps hw _ _ := hw

theorem Engine.tableFile_driver_durable : Engine.tableFile.driver.Durable TableFile.storage where
  answer _ _ _ _ := rfl
  same _ _ _ := rfl
  connected _ := Function.update_self _ _ _
  others ht _ _ hw := (Function.update_of_ne ht _ _).trans hw

namespace Pool

def fileServer : Server where
  id := defaultServer
  url := "t.db"
  user := "u"
  password := "p"

def fileCalls : List (Action TableFile) :=
  [.acquire 0, .insert "INSERT INTO t VALUES (?)" "7", .release 0, .connectAll .byId, .closeAll .byId,
    .select "SELECT count(*) FROM t"]

theorem reopened_file_read :
    let p := (new .tableFile [] ⟨0, fun _ => false, fun _ => false⟩).run [.register fileServer]
    answers fileCalls p = answers (fileCalls.filter Action.isRequest) p ∧
      answers fileCalls p = [.wrote (.ok 1), .selected (.ok ⟨.scalar "1", false⟩)] := by
  have hd : ∀ d ∈ [Engine.tableFile.driver], d.Durable TableFile.storage := by
    simp [Engine.tableFile_driver_durable]
  have hp : ∀ a ∈ [Action.register fileServer], a.Spares TableFile.storage := by
    simp [Action.Spares]
  have hm : ∀ a ∈ fileCalls, a.isRequest = true ∨ a.isUpkeep = true := by
    simp [fileCalls, Action.isRequest, Action.isUpkeep]
  exact ⟨upkeep_unseen Engine.tableFile_durable hd _ hp hm, rfl⟩

end Pool

end ItemGateway
