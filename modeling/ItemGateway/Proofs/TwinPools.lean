import ItemGateway.Proofs.ApartLinks
import ItemGateway.Proofs.RegisteredLinks
import ItemGateway.Proofs.ClosedLinks
import ItemGateway.Proofs.DispatchFrame

namespace ItemGateway

variable {σ α : Type} {x : Ref} {same : Setoid σ} {id : String} {p q : Pool σ}

namespace Pool

/-- The server `id` has the link `x` to itself, and nothing lets the other links feel what is asked of it. -/
structure Secludes (id : String) (x : Ref) (same : Setoid σ) (p : Pool σ) : Prop where
  engine : p.engine.KeepsApart x same
  links : ∀ r, (p.link r).KeepsApart x same
  server : (p.link x).server.id = id
  named : ∀ name, p.get? name = some x → name = id

theorem Secludes.on (h : p.Secludes id x same) (r : Ref)
    {f : Ref → Link σ → World σ → α × Link σ × World σ} (hf : Link.Local x same f) :
    (p.on r (f r)).2.Secludes id x same := by
  have hk := p.keeps_on (hf.move r (p.link r) p.world)
  refine ⟨h.engine, ?_, ?_, h.named⟩
  · intro s
    rw [Link.KeepsApart, (hk s).driver]
    exact h.links s
  · rw [(hk x).server]
    exact h.server

theorem run_secludes {engine : Engine σ} {drivers : List (Driver σ)} (he : engine.KeepsApart x same)
    (hd : ∀ d ∈ drivers, d.KeepsApart x same) {state : σ} {actions : List (Action σ)}
    (hp : p = (new engine drivers state).run actions) : p.Secludes (p.link x).server.id x same := by
  have hs : Sound (new engine drivers state).drivers p := by
    rw [hp]
    exact (new_sound engine drivers state).run actions
  refine ⟨?_, ?_, rfl, ?_⟩
  · rw [hp, engine_run]
    exact he
  · intro r d hr
    rcases List.mem_cons.mp (hs.driver_mem hr) with rfl | hm
    · exact he.driver
    · exact hd d hm
  · intro name hn
    exact (hs.named name x hn).2.symm

structure Twins (id : String) (x : Ref) (same : Setoid σ) (p q : Pool σ) : Prop where
  left : p.Secludes id x same
  right : q.Secludes id x same
  engine : p.engine = q.engine
  drivers : p.drivers = q.drivers
  names : p.names = q.names
  size : p.links.size = q.links.size
  link : ∀ r ≠ x, p.link r = q.link r
  world : (World.alike x same).r p.world q.world

namespace Twins

theorem on (h : p.Twins id x same q) (r : Ref) {f : Ref → Link σ → World σ → α × Link σ × World σ}
    (hf : Link.Local x same f) :
    (p.on r (f r)).2.Twins id x same (q.on r (f r)).2 ∧
      (r ≠ x → (p.on r (f r)).1 = (q.on r (f r)).1) := by
  have hsize : (p.on r (f r)).2.links.size = (q.on r (f r)).2.links.size := by
    rw [size_on, size_on, h.size]
  by_cases hr : r = x
  · subst hr
    refine ⟨⟨h.left.on r hf, h.right.on r hf, h.engine, h.drivers, h.names, hsize, ?_, ?_⟩, ?_⟩
    · intro s hs
      rw [link_on_of_ne _ hs, link_on_of_ne _ hs, h.link s hs]
    · -- The two answers at `x` may differ, but neither world feels what was asked there.
      have hp := hf.unfelt (h.left.links r) p.world
      have hq := hf.unfelt (h.right.links r) q.world
      exact (World.alike r same).trans hp ((World.alike r same).trans h.world ((World.alike r same).symm hq))
    · exact fun hn => absurd rfl hn
  · obtain ⟨a, l, v, w, hv, hw, hs⟩ := hf.others (h.left.links r) hr h.world
    have hv' : f r (p.link r) p.world = (a, l, v) := hv
    have hw' : f r (q.link r) q.world = (a, l, w) := by rw [← h.link r hr, hw]
    refine ⟨⟨h.left.on r hf, h.right.on r hf, h.engine, h.drivers, h.names, hsize, ?_, ?_⟩, ?_⟩
    · intro s hs
      rw [link_on, link_on, h.size]
      split
      · next he =>
        obtain ⟨rfl, -⟩ := he
        rw [hv', hw']
      · exact h.link s hs
    · simpa only [Pool.on, hv', hw'] using hs
    · intro _
      simp only [Pool.on, hv', hw']

theorem acquire (h : p.Twins id x same q) (r : Ref) :
    (p.acquire r).2.Twins id x same (q.acquire r).2 ∧ (r ≠ x → (p.acquire r).1 = (q.acquire r).1) :=
  h.on r Link.acquire_local

theorem release (h : p.Twins id x same q) (r : Ref) :
    (p.release r).2.Twins id x same (q.release r).2 ∧ (r ≠ x → (p.release r).1 = (q.release r).1) := by
  have ht := h.on r (Link.release_local h.left.engine)
  rwa [Pool.release, Pool.release, ← h.engine]

theorem use (h : p.Twins id x same q) (r : Ref) {f : Ref → World σ → Except Fault α × World σ}
    (hf : Apart x (World.alike x same) f) (hw : ∀ r, ∀ w : World σ, w.Works (f r w).2) :
    (p.use r (f r)).2.Twins id x same (q.use r (f r)).2 ∧
      (r ≠ x → (p.use r (f r)).1 = (q.use r (f r)).1) :=
  h.on r (Link.use_local hf hw)

theorem read (h : p.Twins id x same q) (r : Ref) (sql : String) :
    (p.use r (Query.readFirst p.engine r sql)).2.Twins id x same (q.use r (Query.readFirst q.engine r sql)).2 ∧
      (r ≠ x → (p.use r (Query.readFirst p.engine r sql)).1 = (q.use r (Query.readFirst q.engine r sql)).1) := by
  rw [← h.engine]
  exact h.use r (Query.readFirst_apart h.left.engine sql) fun r w => (Query.readFirst_asks _ r sql w).works

theorem execute (h : p.Twins id x same q) (r : Ref) (s : Statement) :
    (p.use r (Query.execute p.engine r s)).2.Twins id x same (q.use r (Query.execute q.engine r s)).2 ∧
      (r ≠ x → (p.use r (Query.execute p.engine r s)).1 = (q.use r (Query.execute q.engine r s)).1) := by
  rw [← h.engine]
  exact h.use r (Query.execute_apart h.left.engine s) fun r w => (Query.execute_asks _ r s w).works

theorem dispatch (h : p.Twins id x same q) (address : String)
    {f : Ref → String → World σ → Except Fault α × World σ}
    (hf : ∀ template, Apart x (World.alike x same) fun r => f r template)
    (hw : ∀ r template, ∀ w : World σ, w.Works (f r template w).2) :
    (p.dispatch address f).2.Twins id x same (q.dispatch address f).2 ∧
      ((Address.parse address).target ≠ id → (p.dispatch address f).1 = (q.dispatch address f).1) := by
  have hq : q.get? (Address.parse address).target = p.get? (Address.parse address).target := by
    rw [get?, get?, h.names]
  cases hr : p.get? (Address.parse address).target with
  | none =>
    rw [hr] at hq
    rw [dispatch_of_unknown hr, dispatch_of_unknown hq]
    exact ⟨h, fun _ => rfl⟩
  | some r =>
    rw [hr] at hq
    rw [dispatch_of_known hr, dispatch_of_known hq]
    obtain ⟨ht, ha⟩ := h.use r (hf (Address.parse address).template) fun r => hw r _
    refine ⟨ht, ?_⟩
    intro hid
    apply ha
    rintro rfl
    exact hid (h.left.named _ hr)

theorem select (h : p.Twins id x same q) (address : String) :
    (p.select address).2.Twins id x same (q.select address).2 ∧
      ((Address.parse address).target ≠ id → (p.select address).1 = (q.select address).1) := by
  rw [Pool.select, Pool.select, ← h.engine]
  exact h.dispatch address (Query.readFirst_apart h.left.engine)
    fun r template w => (Query.readFirst_asks _ r template w).works

theorem update (h : p.Twins id x same q) (address payload : String) :
    (p.update address payload).2.Twins id x same (q.update address payload).2 ∧
      ((Address.parse address).target ≠ id → (p.update address payload).1 = (q.update address payload).1) := by
  rw [Pool.update, Pool.update, ← h.engine]
  exact h.dispatch address (fun template => Query.execute_apart h.left.engine (.ofUpdate template _))
    fun r _ w => (Query.execute_asks _ r _ w).works

theorem insert (h : p.Twins id x same q) (address payload : String) :
    (p.insert address payload).2.Twins id x same (q.insert address payload).2 ∧
      ((Address.parse address).target ≠ id → (p.insert address payload).1 = (q.insert address payload).1) := by
  rw [Pool.insert, Pool.insert, ← h.engine]
  exact h.dispatch address (fun template => Query.execute_apart h.left.engine (.ofInsert template _))
    fun r _ w => (Query.execute_asks _ r _ w).works

theorem connectEach (h : p.Twins id x same q) (order : List Ref) :
    (connectEach order p).2.Twins id x same (connectEach order q).2 ∧
      (connectEach order p).1.filter (·.1 ≠ id) = (connectEach order q).1.filter (·.1 ≠ id) := by
  induction order generalizing p q with
  | nil => exact ⟨h, rfl⟩
  | cons r order ih =>
    obtain ⟨ht, ha⟩ := h.on r Link.turn_local
    rw [← connectOne_eq_on, ← connectOne_eq_on] at ht ha
    obtain ⟨ht', hreport⟩ := ih ht
    refine ⟨ht', ?_⟩
    simp only [Pool.connectEach]
    rw [List.filter_cons, List.filter_cons, hreport]
    by_cases hr : r = x
    · subst hr
      have hp : (p.connectOne r).1.1 = id := by
        rw [connectOne_eq_on]
        exact (Link.turn_fst r _ _).trans h.left.server
      have hq : (q.connectOne r).1.1 = id := by
        rw [connectOne_eq_on]
        exact (Link.turn_fst r _ _).trans h.right.server
      simp [hp, hq]
    · rw [ha hr]

theorem closeEach (h : p.Twins id x same q) (order : List Ref) :
    (closeEach order p).2.Twins id x same (closeEach order q).2 := by
  induction order generalizing p q with
  | nil => exact h
  | cons r order ih => exact ih (h.release r).1

end Twins

end Pool

end ItemGateway
