import ItemGateway.Proofs.TwinGateways

namespace ItemGateway

variable {σ : Type} {x : Ref} {same : Setoid σ} {id : String}

inductive Step
  | select (address : String)
  | update (address payload : String)
  | insert (address payload : String)
  | acquire (r : Ref)
  | release (r : Ref)
  | read (r : Ref) (sql : String)
  | execute (r : Ref) (s : Statement)
  | refreshItem (item : String)
  | command (item text : String)
  | refresh
  | connectAll (tour : Tour)
  | closeAll (tour : Tour)

inductive Reply
  | row (a : Except Fault Selection)
  | rows (a : Except Fault ℕ)
  | acquired (a : Except Fault Unit)
  | released (a : Except Fault Bool)
  | change (a : Except Fault (Option Change))
  | outcome (a : Except Fault Outcome)
  | changes (cs : List Change)
  | report (r : Report)
  | closing (a : Except Fault Unit)

namespace Gateway

def step (g : Gateway σ) : Step → Reply × Gateway σ
  | .select address => (.row (g.pool.select address).1, { g with pool := (g.pool.select address).2 })
  | .update address payload =>
    (.rows (g.pool.update address payload).1, { g with pool := (g.pool.update address payload).2 })
  | .insert address payload =>
    (.rows (g.pool.insert address payload).1, { g with pool := (g.pool.insert address payload).2 })
  | .acquire r => (.acquired (g.pool.acquire r).1, { g with pool := (g.pool.acquire r).2 })
  | .release r => (.released (g.pool.release r).1, { g with pool := (g.pool.release r).2 })
  | .read r sql =>
    let a := g.pool.use r (Query.readFirst g.pool.engine r sql)
    (.row a.1, { g with pool := a.2 })
  | .execute r s =>
    let a := g.pool.use r (Query.execute g.pool.engine r s)
    (.rows a.1, { g with pool := a.2 })
  | .refreshItem item => (.change (g.refreshItem item).1, (g.refreshItem item).2)
  | .command item text => (.outcome (g.command item text).1, (g.command item text).2)
  | .refresh => (.changes g.refresh.1, g.refresh.2)
  | .connectAll tour =>
    let a := Pool.connectEach (tour.order g.pool.refs) g.pool
    (.report a.1, { g with pool := a.2 })
  | .closeAll tour =>
    let a := Pool.closeIn (tour.order g.pool.refs) g.pool
    (.closing a.1, { g with pool := a.2 })

def stepEach (g : Gateway σ) : List Step → List (Reply × Gateway σ)
  | [] => []
  | s :: steps => g.step s :: stepEach (g.step s).2 steps

end Gateway

def Step.Besides (items : Std.TreeMap String Binding) (id : String) (x : Ref) : Step → Prop
  | .select address | .update address _ | .insert address _ => (Address.parse address).target ≠ id
  | .acquire r | .release r | .read r _ | .execute r _ => r ≠ x
  | .refreshItem item | .command item _ => spares items id item = true
  | .refresh | .connectAll _ | .closeAll _ => True

def Reply.Alike (items : Std.TreeMap String Binding) (id : String) : Reply → Reply → Prop
  | .changes cs, .changes ds =>
    cs.filter (fun c => spares items id c.item) = ds.filter fun c => spares items id c.item
  | .report r, .report s =>
    r.opened.filter (· ≠ id) = s.opened.filter (· ≠ id) ∧
      r.skipped.filter (· ≠ id) = s.skipped.filter (· ≠ id) ∧
      r.failed.filter (·.1 ≠ id) = s.failed.filter (·.1 ≠ id)
  | .closing _, .closing _ => True
  | a, b => a = b

namespace Report

theorem filter_filterMap {β : Type} (f : String × Standing → Option β) (key : β → String)
    (h : ∀ a b, f a = some b → key b = a.1) (r : Report) (id : String) :
    (r.filterMap f).filter (key · ≠ id) = (r.filter (·.1 ≠ id)).filterMap f := by
  induction r with
  | nil => rfl
  | cons a r ih =>
    cases hf : f a with
    | none =>
      rw [List.filterMap_cons_none hf, ih, List.filter_cons]
      split
      · rw [List.filterMap_cons_none hf]
      · rfl
    | some b =>
      rw [List.filterMap_cons_some hf, List.filter_cons, List.filter_cons, h a b hf, ih]
      split
      · rw [List.filterMap_cons_some hf]
      · rfl

theorem alike {r s : Report} (h : r.filter (·.1 ≠ id) = s.filter (·.1 ≠ id))
    (items : Std.TreeMap String Binding) : Reply.Alike items id (.report r) (.report s) := by
  have opened (t : Report) : t.opened.filter (· ≠ id) = Report.opened (t.filter (·.1 ≠ id)) := by
    apply filter_filterMap _ fun name => name
    rintro ⟨name, standing⟩ b hb
    grind
  have skipped (t : Report) : t.skipped.filter (· ≠ id) = Report.skipped (t.filter (·.1 ≠ id)) := by
    apply filter_filterMap _ fun name => name
    rintro ⟨name, standing⟩ b hb
    grind
  have failed (t : Report) : t.failed.filter (·.1 ≠ id) = Report.failed (t.filter (·.1 ≠ id)) := by
    apply filter_filterMap _ Prod.fst
    rintro ⟨name, standing⟩ b hb
    grind
  refine ⟨?_, ?_, ?_⟩
  · rw [opened, opened, h]
  · rw [skipped, skipped, h]
  · rw [failed, failed, h]

end Report

theorem Gateway.items_step (g : Gateway σ) (s : Step) : (g.step s).2.items = g.items := by
  cases s with
  | select | update | insert | acquire | release | read | execute | connectAll | closeAll => rfl
  | refreshItem item => exact (g.refreshItem_keeps item).1
  | command item text => exact g.items_command item text
  | refresh => exact items_refreshEach g.names g

namespace Gateway.Twins

variable {g k : Gateway σ}

theorem refs (h : g.Twins id x same k) : k.pool.refs = g.pool.refs := by
  rw [Pool.refs, Pool.refs, h.pool.names]

theorem step (h : g.Twins id x same k) {s : Step} (hs : s.Besides g.items id x) :
    (g.step s).1.Alike g.items id (k.step s).1 ∧ (g.step s).2.Twins id x same (k.step s).2 := by
  cases s with
  | select address =>
    obtain ⟨ht, ha⟩ := h.pool.select address
    exact ⟨congrArg Reply.row (ha hs), h.with_pool ht⟩
  | update address payload =>
    obtain ⟨ht, ha⟩ := h.pool.update address payload
    exact ⟨congrArg Reply.rows (ha hs), h.with_pool ht⟩
  | insert address payload =>
    obtain ⟨ht, ha⟩ := h.pool.insert address payload
    exact ⟨congrArg Reply.rows (ha hs), h.with_pool ht⟩
  | acquire r =>
    obtain ⟨ht, ha⟩ := h.pool.acquire r
    exact ⟨congrArg Reply.acquired (ha hs), h.with_pool ht⟩
  | release r =>
    obtain ⟨ht, ha⟩ := h.pool.release r
    exact ⟨congrArg Reply.released (ha hs), h.with_pool ht⟩
  | read r sql =>
    obtain ⟨ht, ha⟩ := h.pool.read r sql
    exact ⟨congrArg Reply.row (ha hs), h.with_pool ht⟩
  | execute r s =>
    obtain ⟨ht, ha⟩ := h.pool.execute r s
    exact ⟨congrArg Reply.rows (ha hs), h.with_pool ht⟩
  | refreshItem item =>
    exact ⟨congrArg Reply.change (h.refreshItem_of_spares hs).1, h.refreshItem item⟩
  | command item text =>
    obtain ⟨ht, ha⟩ := h.command hs text
    exact ⟨congrArg Reply.outcome ha, ht⟩
  | refresh =>
    have hn : k.names = g.names := by rw [names, names, h.items]
    obtain ⟨ht, hc⟩ := h.refreshEach g.names
    simp only [Gateway.step, refresh, hn]
    exact ⟨hc, ht⟩
  | connectAll tour =>
    obtain ⟨ht, hr⟩ := h.pool.connectEach (tour.order g.pool.refs)
    simp only [Gateway.step, h.refs]
    exact ⟨Report.alike hr g.items, h.with_pool ht⟩
  | closeAll tour =>
    have ht := h.pool.closeEach (tour.order g.pool.refs)
    simp only [Gateway.step, h.refs, Pool.closeIn_snd]
    exact ⟨trivial, h.with_pool ht⟩

end Gateway.Twins

/-- However one server fails, all others give the same answers. -/
theorem failing_server_blocks_no_other {g k : Gateway σ} (h : g.Twins id x same k) {steps : List Step}
    (hs : ∀ s ∈ steps, s.Besides g.items id x) :
    List.Forall₂ (fun a b => a.1.Alike g.items id b.1 ∧ a.2.Twins id x same b.2) (g.stepEach steps)
      (k.stepEach steps) := by
  induction steps generalizing g k with
  | nil => exact .nil
  | cons s steps ih =>
    obtain ⟨ha, ht⟩ := h.step (hs s List.mem_cons_self)
    have hi := ih ht fun t hm => by
      rw [g.items_step]
      exact hs t (List.mem_cons_of_mem s hm)
    rw [g.items_step] at hi
    exact .cons ⟨ha, ht⟩ hi

def tally : Engine (Option ℕ) where
  openDatabase _ _ n := (.ok (), n)
  enforceForeignKeys _ n := (.ok (), n)
  close _ n := n
  prepare _ sql n := (.ok ⟨sql.toList.count '?', "SELECT".toList.isPrefixOf sql.toList, ["n"]⟩, n)
  step _ n := (n.elim (.error "out of reach") fun n => .ok (some [.integer n]), n)
  execute _ _ n := (n.elim (.error "out of reach") fun _ => .ok 1, n.map (· + 1))

def twoItems : Std.TreeMap String Binding :=
  (∅ : Std.TreeMap String Binding)
    |>.insert "meter" { select := some "b:SELECT n", insert := some "b:INSERT INTO t VALUES (?, ?)" }
    |>.insert "valve" { select := some "a:SELECT n" }

def brokenGateway : Gateway (Ref → Option ℕ) where
  pool := (Pool.new tally.separate [] fun _ => some 3).run
    [.register { id := "a", url := ":memory:", user := "u", password := "p" },
      .register { id := "b", url := ":memory:", user := "u", password := "p" },
      .abandon 0 ⟨fun w => (.ok (), w), fun _ => ⟨[], rfl, by simp⟩⟩]
  items := twoItems
  last := (∅ : Std.TreeMap String (Option String)).insert "valve" (some "3")

def blankGateway : Gateway (Ref → Option ℕ) where
  pool := (Pool.new tally.separate [] fun r => if r = 0 then none else some 3).run
    [.register { id := "a", url := "a.db", user := "u", driver := "other" },
      .register { id := "b", url := ":memory:", user := "u", password := "p" }]
  items := twoItems

theorem broken_and_blank_twins :
    brokenGateway.Twins "a" 0 (elsewhere (Option ℕ) 0) blankGateway where
  pool := by
    have he := tally.separate_keepsApart 0
    have hbroken := Pool.run_secludes (p := brokenGateway.pool) he (List.forall_mem_nil _) rfl
    have hblank := Pool.run_secludes (p := blankGateway.pool) he (List.forall_mem_nil _) rfl
    refine ⟨hbroken, hblank, rfl, rfl, rfl, rfl, ?_, ?_, rfl⟩
    · intro r hr
      rcases r with _ | _ | r
      · exact absurd rfl hr
      · rfl
      · have hsize : 2 ≤ r + 2 := Nat.le_add_left 2 r
        rw [Pool.link_of_size_le _ hsize, Pool.link_of_size_le _ hsize]
    · intro r hr
      have hb : brokenGateway.pool.world.state r = some 3 :=
        (Function.update_of_ne hr _ _).trans (Function.update_of_ne hr _ _)
      rw [hb]
      exact (if_neg hr).symm
  items := rfl
  interval := rfl
  last := by
    intro item hs
    have hv : spares twoItems "a" "valve" = false := by rfl
    have hne : item ≠ "valve" := by
      rintro rfl
      rw [show brokenGateway.items = twoItems from rfl, hv] at hs
      cases hs
    simp [brokenGateway, blankGateway, Gateway.lastValue?, Ne.symm hne]

def mixedSteps : List Step :=
  [.connectAll .byId, .command "meter" "5", .refresh, .closeAll .byId]

theorem broken_and_blank_alike :
    (∀ s ∈ mixedSteps, s.Besides brokenGateway.items "a" 0) ∧
      List.Forall₂ (fun a b => a.1.Alike brokenGateway.items "a" b.1 ∧
          a.2.Twins "a" 0 (elsewhere (Option ℕ) 0) b.2)
        (brokenGateway.stepEach mixedSteps) (blankGateway.stepEach mixedSteps) ∧
      (brokenGateway.stepEach mixedSteps).map Prod.fst =
        [.report [("a", .failed (.brokenLock "a")), ("b", .opened)], .outcome (.ok (.inserted 1)),
          .changes [⟨"meter", some "4"⟩], .closing (.error (.notClosed [.brokenLock "a"]))] ∧
      (blankGateway.stepEach mixedSteps).map Prod.fst =
        [.report [("a", .skipped), ("b", .opened)], .outcome (.ok (.inserted 1)),
          .changes [⟨"meter", some "4"⟩], .closing (.ok ())] := by
  have hs : ∀ s ∈ mixedSteps, s.Besides brokenGateway.items "a" 0 := by
    intro s hs
    simp only [mixedSteps, List.mem_cons, List.not_mem_nil, or_false] at hs
    rcases hs with rfl | rfl | rfl | rfl
    · trivial
    · rfl
    · trivial
    · trivial
  exact ⟨hs, failing_server_blocks_no_other broken_and_blank_twins hs, by rfl, by rfl⟩

end ItemGateway
