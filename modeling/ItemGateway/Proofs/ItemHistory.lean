import ItemGateway.Proofs.GatewayCalls

/-!
The history of the items of a gateway: what was read of them, which commands they were sent, and what
each call answered. Their last values are those of their latest events.
-/

namespace ItemGateway

variable {σ : Type}

/-- A read that was tried, or a command, with the answer that was given. -/
inductive Deed
  | read (item : String) (value : Except Fault (Option String)) (answer : Except Fault (Option Change))
  | command (item text : String) (answer : Except Fault Outcome)

namespace Deed

def value? (items : Std.TreeMap String Binding) (item : String) : Deed → Option (Option String)
  | read i (.ok v) _ => if i = item then some v else none
  | read _ (.error _) _ => none
  | command i text _ =>
    if i = item && takesUpdates items i then some (some (normalizeCommand text)) else none

def change? : Deed → Option Change
  | read _ _ (.ok c) => c
  | _ => none

def isUpdate (items : Std.TreeMap String Binding) (item : String) : Deed → Bool
  | command i _ _ => i = item && takesUpdates items i
  | _ => false

end Deed

def latest? (items : Std.TreeMap String Binding) (item : String) (deeds : List Deed) :
    Option (Option String) :=
  deeds.findSome? (Deed.value? items item)

theorem latest?_cons (items : Std.TreeMap String Binding) (item : String) (d : Deed) (deeds : List Deed) :
    latest? items item (d :: deeds) = (d.value? items item).or (latest? items item deeds) := by
  rw [latest?, latest?, List.findSome?_cons]
  cases d.value? items item <;> rfl

def Deed.Answered (items : Std.TreeMap String Binding) (earlier : List Deed) : Deed → Prop
  | read item value answer =>
    answer = value.map fun v => if latest? items item earlier = some v then none else some ⟨item, v⟩
  | command item text answer =>
    if takesUpdates items item then
      if latest? items item earlier = some (some (normalizeCommand text)) then answer = .ok .unchanged
      else ∃ a : Except Fault ℕ, answer = a.map .updated
    else answer ≠ .ok .unchanged

inductive Call (σ : Type)
  | refresh
  | refreshItem (item : String)
  | command (item text : String)
  | elsewhere (f : Pool σ → Pool σ)

namespace Gateway

def reads (g : Gateway σ) (item : String) : List Deed :=
  match (g.binding? item).bind Binding.select with
  | none => []
  | some address =>
    [.read item ((g.pool.select address).1.map fun s => s.reading.value?) (g.refreshItem item).1]

def readsEach : List String → Gateway σ → List Deed
  | [], _ => []
  | item :: items, g => readsEach items (g.refreshItem item).2 ++ g.reads item

def Yields (g : Gateway σ) (item : String) (reading : Reading) : Prop :=
  ∃ address s, (g.binding? item).bind Binding.select = some address ∧
    (g.pool.select address).1 = .ok s ∧ s.reading = reading

theorem reads_of_yields {g : Gateway σ} {item : String} {reading : Reading} (h : g.Yields item reading) :
    g.reads item = [.read item (.ok reading.value?) (g.refreshItem item).1] := by
  obtain ⟨address, s, hb, hs, rfl⟩ := h
  simp only [reads, hb, hs, Except.map]

theorem refreshItem_cases (g : Gateway σ) (item : String) :
    (g.reads item = [] ∧ g.refreshItem item = (.ok none, g)) ∨
      (∃ f pool, g.reads item = [.read item (.error f) (.error f)] ∧
        g.refreshItem item = (.error f, { g with pool })) ∨
      ∃ v g', g'.items = g.items ∧
        (∀ i, g'.lastValue? i = if item = i then some v else g.lastValue? i) ∧
        let change := if g.lastValue? item = some v then none else some ⟨item, v⟩
        g.reads item = [.read item (.ok v) (.ok change)] ∧ g.refreshItem item = (.ok change, g') := by
  cases hb : (g.binding? item).bind Binding.select with
  | none => exact .inl ⟨by simp only [reads, hb], by simp only [refreshItem, hb]⟩
  | some address =>
    right
    cases hs : g.pool.select address with
    | mk answer pool =>
      cases answer with
      | error f =>
        have he := refreshItem_of_error hb hs
        refine .inl ⟨f, pool, ?_, he⟩
        simp only [reads, hb, he, hs, Except.map]
      | ok s =>
        let g₁ : Gateway σ := { g with pool }
        let v := s.reading.value?
        have he : g.refreshItem item =
            (.ok (if g.lastValue? item = some v then none else some ⟨item, v⟩), (g₁.observe item v).2) := by
          rw [refreshItem_of_ok hb hs, observe_fst]
          rfl
        refine .inr ⟨v, _, g₁.items_observe item v, g₁.lastValue?_observe item v, ?_, he⟩
        simp only [reads, hb, he, hs, Except.map]
        rfl

end Gateway

/-- A gateway with its history, and with all changes that it reported, the latest first. -/
structure Chronicle (σ : Type) where
  gateway : Gateway σ
  deeds : List Deed
  reports : List Change

namespace Chronicle

def perform (c : Chronicle σ) : Call σ → Chronicle σ
  | .refresh =>
    ⟨c.gateway.refresh.2, Gateway.readsEach c.gateway.names c.gateway ++ c.deeds,
      c.gateway.refresh.1.reverse ++ c.reports⟩
  | .refreshItem item =>
    ⟨(c.gateway.refreshItem item).2, c.gateway.reads item ++ c.deeds,
      Gateway.changes (c.gateway.refreshItem item).1 ++ c.reports⟩
  | .command item text =>
    ⟨(c.gateway.command item text).2, .command item text (c.gateway.command item text).1 :: c.deeds,
      c.reports⟩
  | .elsewhere f => { c with gateway := { c.gateway with pool := f c.gateway.pool } }

theorem perform_refresh (c : Chronicle σ) :
    c.perform .refresh = (c.gateway.names.map Call.refreshItem).foldl perform c := by
  have hr (a : Except Fault (Option Change)) : (Gateway.changes a).reverse = Gateway.changes a := by
    rcases a with f | _ | change <;> rfl
  have each (names : List String) (c : Chronicle σ) :
      (names.map Call.refreshItem).foldl perform c =
        ⟨(Gateway.refreshEach names c.gateway).2, Gateway.readsEach names c.gateway ++ c.deeds,
          (Gateway.refreshEach names c.gateway).1.reverse ++ c.reports⟩ := by
    induction names generalizing c with
    | nil => rfl
    | cons item names ih =>
      rw [List.map_cons, List.foldl_cons, ih]
      simp only [perform, Gateway.refreshEach, Gateway.readsEach, List.reverse_append, hr, List.append_assoc]
  exact (each c.gateway.names c).symm

def run (pool : Pool σ) (items : Std.TreeMap String Binding) (interval : ℕ) (calls : List (Call σ)) :
    Chronicle σ :=
  calls.foldl perform ⟨{ pool, items, interval }, [], []⟩

end Chronicle

end ItemGateway
