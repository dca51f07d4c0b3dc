import ItemGateway.Proofs.Entries
import ItemGateway.Proofs.LinkMoves

/-!
Runs of a pool: any operations, on registered links and on links that are held on to after they were
replaced, in any order.
-/

namespace ItemGateway

variable {σ α : Type}

def Engine.idle : Engine Unit where
  openDatabase _ _ w := (.ok (), w)
  enforceForeignKeys _ w := (.ok (), w)
  close _ w := w
  prepare _ _ w := (.ok ⟨0, true, []⟩, w)
  step _ w := (.ok none, w)
  execute _ _ w := (.ok 0, w)

/-- A task can run statements, but neither close the connection nor open another one. -/
structure Task (σ α : Type) where
  run : World σ → Except Fault α × World σ
  works : ∀ w : World σ, w.Works (run w).2

structure Tour where
  order : List Ref → List Ref
  perm : ∀ refs, (order refs).Perm refs

def Tour.byId : Tour := ⟨id, fun _ => .refl _⟩

inductive Action (σ : Type) : Type 1
  | register (s : Server)
  | replaceAll (tour : Tour) (servers : List Server)
  | acquire (r : Ref)
  | use {α : Type} (r : Ref) (task : Task σ α)
  | abandon {α : Type} (r : Ref) (task : Task σ α)
  | release (r : Ref)
  | connectAll (tour : Tour)
  | closeAll (tour : Tour)
  | select (address : String)
  | update (address payload : String)
  | insert (address payload : String)

inductive Action.Lends (e : Engine σ) : Action σ → (World σ → World σ) → Prop
  | use {α : Type} (r : Ref) (task : Task σ α) : Lends e (.use r task) fun w => (task.run w).2
  | abandon {α : Type} (r : Ref) (task : Task σ α) : Lends e (.abandon r task) fun w => (task.run w).2
  | select (address : String) (r : Ref) (sql : String) :
      Lends e (.select address) fun w => (Query.readFirst e r sql w).2
  | update (address payload : String) (r : Ref) (s : Statement) :
      Lends e (.update address payload) fun w => (Query.execute e r s w).2
  | insert (address payload : String) (r : Ref) (s : Statement) :
      Lends e (.insert address payload) fun w => (Query.execute e r s w).2

theorem Action.Lends.works {e : Engine σ} {a : Action σ} {f : World σ → World σ} (h : a.Lends e f)
    (w : World σ) : w.Works (f w) := by
  cases h with
  | use r task | abandon r task => exact task.works w
  | select address r sql => exact (Query.readFirst_asks e r sql w).works
  | update address payload r s | insert address payload r s => exact (Query.execute_asks e r s w).works

def Action.link? : Action σ → Option Ref
  | .acquire r | .use r _ | .abandon r _ | .release r => some r
  | _ => none

namespace Pool

def perform (p : Pool σ) : Action σ → Pool σ
  | .register s => p.register s
  | .replaceAll tour servers => p.replaceIn (tour.order p.refs) servers
  | .acquire r => (p.acquire r).2
  | .use r task => (p.use r task.run).2
  | .abandon r task => (p.abandon r fun w => (task.run w).2).2
  | .release r => (p.release r).2
  | .connectAll tour => (connectEach (tour.order p.refs) p).2
  | .closeAll tour => (closeEach (tour.order p.refs) p).2
  | .select address => (p.select address).2
  | .update address payload => (p.update address payload).2
  | .insert address payload => (p.insert address payload).2

def run (p : Pool σ) (actions : List (Action σ)) : Pool σ :=
  actions.foldl perform p

theorem link_on (p : Pool σ) (r s : Ref) (f : Link σ → World σ → α × Link σ × World σ) :
    (p.on r f).2.link s = if s = r ∧ s < p.links.size then (f (p.link s) p.world).2.1 else p.link s := by
  by_cases hs : s = r
  · subst hs
    by_cases hlt : s < p.links.size <;> simp [on, link, Array.getD_eq_getD_getElem?, hlt]
  · simp [on, link, Array.getD_eq_getD_getElem?, hs, Ne.symm hs]

theorem link_on_of_ne (p : Pool σ) {r s : Ref} (h : s ≠ r)
    (f : Link σ → World σ → α × Link σ × World σ) : (p.on r f).2.link s = p.link s := by
  rw [link_on, if_neg fun hs => h hs.1]

theorem link_on_of_lt (p : Pool σ) {r : Ref} (h : r < p.links.size)
    (f : Link σ → World σ → α × Link σ × World σ) :
    (p.on r f).2.link r = (f (p.link r) p.world).2.1 := by
  rw [link_on, if_pos ⟨rfl, h⟩]

theorem link_of_size_le (p : Pool σ) {r : Ref} (h : p.links.size ≤ r) : p.link r = .vacant := by
  simp [link, Array.getD_eq_getD_getElem?, Array.getElem?_eq_none h]

theorem size_on (p : Pool σ) (r : Ref) (f : Link σ → World σ → α × Link σ × World σ) :
    (p.on r f).2.links.size = p.links.size := by
  simp [on]

theorem link_enroll (p : Pool σ) (s : Server) (r : Ref) :
    (p.enroll s).link r =
      if r = p.links.size then { server := s, driver := p.drivers[s.driver]? } else p.link r := by
  simp only [enroll, link, Array.getD_eq_getD_getElem?, Array.getElem?_push]
  split <;> rfl

theorem set_link (p : Pool σ) (r : Ref) : p.links.setIfInBounds r (p.link r) = p.links := by
  apply Array.ext
  · simp
  · intro i hi hi'
    rw [Array.getElem_setIfInBounds]
    split
    · next he =>
      subst he
      simp [link, hi']
    · rfl

theorem links_ext {p q : Pool σ} (hs : p.links.size = q.links.size) (h : ∀ r, p.link r = q.link r) :
    p.links = q.links := by
  apply Array.ext hs
  intro r hp hq
  have hr := h r
  simpa [link, Array.getD_eq_getD_getElem?, hp, hq] using hr

theorem connectOne_eq_on (p : Pool σ) (r : Ref) : p.connectOne r = p.on r (Link.turn r) := by
  simp only [connectOne, on, Link.turn]
  split
  · simp only [set_link]
  · simp only [acquire, on]
    rcases (p.link r).acquire r p.world with ⟨_ | _, l, w⟩ <;> rfl

theorem mem_refs_iff {p : Pool σ} {r : Ref} : r ∈ p.refs ↔ ∃ id, p.get? id = some r := by
  rw [refs, values_eq_map_toList, List.mem_map]
  constructor
  · rintro ⟨⟨id, r⟩, h, rfl⟩
    exact ⟨id, Std.TreeMap.mem_toList_iff_getElem?_eq_some.mp h⟩
  · rintro ⟨id, h⟩
    exact ⟨(id, r), Std.TreeMap.mem_toList_iff_getElem?_eq_some.mpr h, rfl⟩

theorem connectEach_induction {motive : Pool σ → Prop} {p : Pool σ} {order : List Ref} (start : motive p)
    (step : ∀ q, ∀ r ∈ order, motive q → motive (q.on r (Link.turn r)).2) : motive (connectEach order p).2 := by
  induction order generalizing p with
  | nil => exact start
  | cons r order ih =>
    rw [connectEach, connectOne_eq_on]
    exact ih (step p r List.mem_cons_self start) fun q s hs => step q s (List.mem_cons_of_mem r hs)

theorem closeEach_induction {motive : Pool σ → Prop} {p : Pool σ} {order : List Ref} (start : motive p)
    (step : ∀ q, ∀ r ∈ order, motive q → motive (q.release r).2) : motive (closeEach order p).2 := by
  induction order generalizing p with
  | nil => exact start
  | cons r order ih =>
    exact ih (step p r List.mem_cons_self start) fun q s hs => step q s (List.mem_cons_of_mem r hs)

def Reaches (p : Pool σ) (a : Action σ) (r : Ref) : Prop :=
  a.link? = some r ∨ ∃ id, p.get? id = some r

/-- All that an action does to a pool is to work on links that it reaches, one after another, to put new
ones in, and to take the names away first. -/
theorem perform_induction {p : Pool σ} {a : Action σ} {motive : Pool σ → Prop} (start : motive p)
    (on : ∀ {α : Type} (q : Pool σ) (r : Ref) (f : Link σ → World σ → α × Link σ × World σ),
      p.Reaches a r → Link.Operation q.engine (a.Lends q.engine) r f → motive q → motive (q.on r f).2)
    (enroll : ∀ q s, motive q → motive (q.enroll s)) (clear : motive { p with names := ∅ }) :
    motive (p.perform a) := by
  have named {tour : Tour} {r : Ref} (hr : r ∈ tour.order p.refs) : p.Reaches a r :=
    .inr (mem_refs_iff.mp ((tour.perm p.refs).mem_iff.mp hr))
  have dispatch {α : Type} (address : String) (f : Ref → String → World σ → Except Fault α × World σ)
      (hf : ∀ r template, a.Lends p.engine fun w => (f r template w).2) :
      motive (p.dispatch address f).2 := by
    simp only [Pool.dispatch, Pool.resolve]
    split
    · exact start
    · next r hr => exact on p r _ (.inr ⟨_, hr⟩) (.use (hf r _)) start
  cases a with
  | register s =>
    simp only [perform, register]
    split
    · exact enroll p s start
    · next old ho => exact on _ old _ (.inr ⟨s.id, ho⟩) .release (enroll p s start)
  | replaceAll tour servers =>
    have he := List.foldlRecOn servers Pool.enroll clear (fun q hq s _ => enroll q s hq)
    exact List.foldlRecOn _ Pool.retire he fun q hq r hr => on q r _ (named hr) .release hq
  | acquire r => exact on p r _ (.inl rfl) .acquire start
  | use r task => exact on p r _ (.inl rfl) (.use (.use r task)) start
  | abandon r task => exact on p r _ (.inl rfl) (.abandon (.abandon r task)) start
  | release r => exact on p r _ (.inl rfl) .release start
  | connectAll tour => exact connectEach_induction start fun q r hr => on q r _ (named hr) .turn
  | closeAll tour => exact closeEach_induction start fun q r hr => on q r _ (named hr) .release
  | select address => exact dispatch address _ fun r template => .select address r template
  | update address payload => exact dispatch address _ fun r _ => .update address payload r _
  | insert address payload => exact dispatch address _ fun r _ => .insert address payload r _

end Pool

end ItemGateway
