import ItemGateway.Gateway
import Mathlib.Data.Nat.Notation
import Std.Data.TreeMap.Lemmas

namespace ItemGateway

variable {σ : Type}

def takesUpdates (items : Std.TreeMap String Binding) (item : String) : Bool :=
  (items[item]?).any fun b => b.insert.isNone && b.update.isSome

namespace Gateway

theorem lastValue?_remember (g : Gateway σ) (item : String) (value : Option String) (i : String) :
    (g.remember item value).lastValue? i = if item = i then some value else g.lastValue? i := by
  simp [remember, lastValue?, Std.TreeMap.getElem?_insert]

theorem observe_fst (g : Gateway σ) (item : String) (value : Option String) :
    (g.observe item value).1 = if g.lastValue? item = some value then none else some ⟨item, value⟩ := by
  unfold observe
  split <;> rfl

theorem items_observe (g : Gateway σ) (item : String) (value : Option String) :
    (g.observe item value).2.items = g.items := by
  unfold observe
  split <;> rfl

theorem lastValue?_observe (g : Gateway σ) (item : String) (value : Option String) (i : String) :
    (g.observe item value).2.lastValue? i = if item = i then some value else g.lastValue? i := by
  unfold observe
  split
  · next h =>
    split
    · next hi => rw [← hi, h]
    · rfl
  · exact g.lastValue?_remember item value i

theorem refreshItem_of_error {g : Gateway σ} {item address : String} {f : Fault} {pool : Pool σ}
    (hb : (g.binding? item).bind Binding.select = some address)
    (hs : g.pool.select address = (.error f, pool)) : g.refreshItem item = (.error f, { g with pool }) := by
  simp only [refreshItem, hb, hs]

theorem refreshItem_of_ok {g : Gateway σ} {item address : String} {s : Selection} {pool : Pool σ}
    (hb : (g.binding? item).bind Binding.select = some address)
    (hs : g.pool.select address = (.ok s, pool)) :
    g.refreshItem item =
      (.ok (({ g with pool } : Gateway σ).observe item s.reading.value?).1,
        (({ g with pool } : Gateway σ).observe item s.reading.value?).2) := by
  simp only [refreshItem, hb, hs]

theorem refreshItem_keeps (g : Gateway σ) (item : String) :
    (g.refreshItem item).2.items = g.items ∧ (g.refreshItem item).2.interval = g.interval := by
  unfold refreshItem
  split
  · exact ⟨rfl, rfl⟩
  split
  · exact ⟨rfl, rfl⟩
  · unfold observe
    split <;> exact ⟨rfl, rfl⟩

theorem pool_refreshItem {g : Gateway σ} {item address : String}
    (hb : (g.binding? item).bind Binding.select = some address) :
    (g.refreshItem item).2.pool = (g.pool.select address).2 := by
  simp only [refreshItem, hb]
  split
  · next hs => rw [hs]
  · next hs =>
    rw [hs]
    unfold observe
    split <;> rfl

def told? (g : Gateway σ) (item : String) : Option (Option String) :=
  ((g.binding? item).bind Binding.select).bind fun address =>
    match (g.pool.select address).1 with
    | .ok s => some s.reading.value?
    | .error _ => none

def news? (item : String) (told last : Option (Option String)) : Option Change :=
  told.bind fun v => if last = some v then none else some ⟨item, v⟩

theorem item_of_news? {item : String} {told last : Option (Option String)} {c : Change}
    (h : news? item told last = some c) : c.item = item := by
  obtain ⟨v, -, hv⟩ := Option.bind_eq_some_iff.mp h
  split at hv
  · cases hv
  · obtain rfl := Option.some.inj hv
    rfl

theorem changes_refreshItem (g : Gateway σ) (item : String) :
    changes (g.refreshItem item).1 = (news? item (g.told? item) (g.lastValue? item)).toList := by
  cases hb : (g.binding? item).bind Binding.select with
  | none => simp only [refreshItem, told?, hb, news?, Option.bind_none, changes]
  | some address =>
    rw [told?, hb, Option.bind_some]
    rcases hs : g.pool.select address with ⟨f | s, pool⟩
    · rw [refreshItem_of_error hb hs]
      rfl
    · rw [refreshItem_of_ok hb hs, observe_fst]
      rfl

theorem lastValue?_refreshItem (g : Gateway σ) (item i : String) :
    (g.refreshItem item).2.lastValue? i =
      if item = i then (g.told? item).or (g.lastValue? i) else g.lastValue? i := by
  cases hb : (g.binding? item).bind Binding.select with
  | none => simp only [refreshItem, told?, hb, Option.bind_none, Option.none_or, ite_self]
  | some address =>
    rw [told?, hb, Option.bind_some]
    rcases hs : g.pool.select address with ⟨f | s, pool⟩
    · rw [refreshItem_of_error hb hs]
      simp only [Option.none_or, ite_self]
      rfl
    · rw [refreshItem_of_ok hb hs, lastValue?_observe]
      rfl

theorem item_of_mem_changes {g : Gateway σ} {item : String} {c : Change}
    (h : c ∈ changes (g.refreshItem item).1) : c.item = item := by
  rw [changes_refreshItem, Option.mem_toList] at h
  exact item_of_news? h

theorem items_refreshEach (names : List String) (g : Gateway σ) : (refreshEach names g).2.items = g.items := by
  induction names generalizing g with
  | nil => rfl
  | cons item names ih => exact (ih _).trans (g.refreshItem_keeps item).1

theorem command_of_unbound {g : Gateway σ} {item : String} (text : String) (hb : g.binding? item = none) :
    g.command item text = (.error (.unboundItem item), g) := by
  simp only [command, hb]

theorem command_of_insert {g : Gateway σ} {item address : String} {b : Binding} (text : String)
    (hb : g.binding? item = some b) (hn : b.insert = some address) :
    g.command item text =
      ((g.pool.insert address (normalizeCommand text)).1.map .inserted,
        { g with pool := (g.pool.insert address (normalizeCommand text)).2 }) := by
  simp only [command, hb, hn]

theorem command_of_readOnly {g : Gateway σ} {item : String} {b : Binding} (text : String)
    (hb : g.binding? item = some b) (hn : b.insert = none) (hu : b.update = none) :
    g.command item text = (.ok .notWritable, g) := by
  simp only [command, hb, hn, hu]

theorem command_of_repeat {g : Gateway σ} {item text address : String} {b : Binding}
    (hb : g.binding? item = some b) (hn : b.insert = none) (hu : b.update = some address)
    (hl : g.lastValue? item = some (some (normalizeCommand text))) :
    g.command item text = (.ok .unchanged, g) := by
  simp only [command, hb, hn, hu, hl, if_true]

theorem command_of_update {g : Gateway σ} {item text address : String} {b : Binding}
    (hb : g.binding? item = some b) (hn : b.insert = none) (hu : b.update = some address)
    (hl : g.lastValue? item ≠ some (some (normalizeCommand text))) :
    g.command item text =
      ((g.pool.update address (normalizeCommand text)).1.map .updated,
        { g.remember item (some (normalizeCommand text)) with
          pool := (g.pool.update address (normalizeCommand text)).2 }) := by
  simp only [command, hb, hn, hu, hl, if_false]

theorem takesUpdates_of_binding {g : Gateway σ} {item : String} {b : Binding}
    (hb : g.binding? item = some b) :
    takesUpdates g.items item = (b.insert.isNone && b.update.isSome) := by
  have hi : g.items[item]? = some b := hb
  rw [takesUpdates, hi, Option.any_some]

theorem command_cases (g : Gateway σ) (item text : String) :
    (takesUpdates g.items item = false ∧ (g.command item text).2.items = g.items ∧
        (∀ i, (g.command item text).2.lastValue? i = g.lastValue? i) ∧
        (g.command item text).1 ≠ .ok .unchanged) ∨
      (takesUpdates g.items item = true ∧ g.lastValue? item = some (some (normalizeCommand text)) ∧
        g.command item text = (.ok .unchanged, g)) ∨
      (takesUpdates g.items item = true ∧ g.lastValue? item ≠ some (some (normalizeCommand text)) ∧
        (∃ a : Except Fault ℕ, (g.command item text).1 = a.map .updated) ∧
        (g.command item text).2.items = g.items ∧
        ∀ i, (g.command item text).2.lastValue? i =
          if item = i then some (some (normalizeCommand text)) else g.lastValue? i) := by
  cases hb : g.binding? item with
  | none =>
    have hi : g.items[item]? = none := hb
    rw [command_of_unbound text hb]
    exact .inl ⟨by rw [takesUpdates, hi, Option.any_none], rfl, fun _ => rfl, by simp⟩
  | some b =>
    rw [takesUpdates_of_binding hb]
    cases hn : b.insert with
    | some address =>
      rw [command_of_insert text hb hn]
      refine .inl ⟨by simp, rfl, fun _ => rfl, ?_⟩
      cases (g.pool.insert address (normalizeCommand text)).1 <;> simp [Except.map]
    | none =>
      cases hu : b.update with
      | none =>
        rw [command_of_readOnly text hb hn hu]
        exact .inl ⟨by simp, rfl, fun _ => rfl, by simp⟩
      | some address =>
        right
        by_cases hl : g.lastValue? item = some (some (normalizeCommand text))
        · exact .inl ⟨by simp, hl, command_of_repeat hb hn hu hl⟩
        · rw [command_of_update hb hn hu hl]
          exact .inr ⟨by simp, hl, ⟨_, rfl⟩, rfl, g.lastValue?_remember item _⟩

theorem command_unchanged_iff (g : Gateway σ) (item text : String) :
    (g.command item text).1 = .ok .unchanged ↔
      takesUpdates g.items item = true ∧ g.lastValue? item = some (some (normalizeCommand text)) := by
  rcases g.command_cases item text with ⟨hu, -, -, ha⟩ | ⟨hu, hl, he⟩ | ⟨hu, hl, ⟨a, ha⟩, -, -⟩
  · simp [hu, ha]
  · simp [hu, hl, he]
  · rw [ha]
    constructor
    · intro h
      cases a <;> simp [Except.map] at h
    · rintro ⟨-, h⟩
      exact absurd h hl

theorem items_command (g : Gateway σ) (item text : String) : (g.command item text).2.items = g.items := by
  rcases g.command_cases item text with ⟨-, hi, -, -⟩ | ⟨-, -, he⟩ | ⟨-, -, -, hi, -⟩
  · exact hi
  · rw [he]
  · exact hi

theorem lastValue?_command {g : Gateway σ} {item : String} (text : String)
    (hu : takesUpdates g.items item = true) :
    (g.command item text).2.lastValue? item = some (some (normalizeCommand text)) := by
  rcases g.command_cases item text with ⟨hn, -, -, -⟩ | ⟨-, hl, he⟩ | ⟨-, -, -, -, hl⟩
  · rw [hu] at hn
    cases hn
  · rw [he]
    exact hl
  · rw [hl, if_pos rfl]

end Gateway

end ItemGateway
