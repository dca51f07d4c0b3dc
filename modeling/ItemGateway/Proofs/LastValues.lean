import ItemGateway.Proofs.ItemHistory
import Mathlib.Data.List.Infix
import Mathlib.Tactic.ByContra

namespace ItemGateway

variable {σ : Type}

namespace Chronicle

structure Faithful (items : Std.TreeMap String Binding) (c : Chronicle σ) : Prop where
  items_eq : c.gateway.items = items
  last : ∀ item, c.gateway.lastValue? item = latest? items item c.deeds
  answered : ∀ d earlier, d :: earlier <:+ c.deeds → d.Answered items earlier
  reports_eq : c.reports = c.deeds.filterMap Deed.change?

namespace Faithful

variable {items : Std.TreeMap String Binding} {c : Chronicle σ}

theorem cons (h : Faithful items c) {d : Deed} {g : Gateway σ} (hi : g.items = items)
    (hl : ∀ item, g.lastValue? item = (d.value? items item).or (c.gateway.lastValue? item))
    (ha : d.Answered items c.deeds) : Faithful items ⟨g, d :: c.deeds, d.change?.toList ++ c.reports⟩ where
  items_eq := hi
  last := by
    intro item
    rw [hl, h.last, latest?_cons]
  answered := by
    intro d' earlier hs
    rcases List.suffix_cons_iff.mp hs with he | hs
    · obtain ⟨rfl, rfl⟩ := List.cons.inj he
      exact ha
    · exact h.answered d' earlier hs
  reports_eq := by
    rw [List.filterMap_cons, h.reports_eq]
    cases d.change? <;> rfl

theorem refreshItem (h : Faithful items c) (item : String) :
    Faithful items (c.perform (.refreshItem item)) := by
  change Faithful items ⟨(c.gateway.refreshItem item).2, c.gateway.reads item ++ c.deeds,
    Gateway.changes (c.gateway.refreshItem item).1 ++ c.reports⟩
  rcases c.gateway.refreshItem_cases item with ⟨hr, he⟩ | ⟨f, pool, hr, he⟩ | ⟨v, g, hi, hl, hr, he⟩
  · rw [hr, he]
    exact h
  · rw [hr, he]
    exact h.cons h.items_eq (fun _ => rfl) rfl
  · rw [hr, he]
    apply h.cons (hi.trans h.items_eq)
    · intro i
      rw [hl, Deed.value?]
      split <;> rfl
    · rw [Deed.Answered, ← h.last]
      rfl

theorem command (h : Faithful items c) (item text : String) :
    Faithful items (c.perform (.command item text)) := by
  have hlast := h.last item
  rcases c.gateway.command_cases item text with
    ⟨hu, hi, hl, ha⟩ | ⟨hu, hr, he⟩ | ⟨hu, hr, ha, hi, hl⟩
  · rw [h.items_eq] at hu
    apply h.cons (hi.trans h.items_eq)
    · intro i
      rw [hl, Deed.value?, hu]
      simp
    · rw [Deed.Answered, hu]
      simpa using ha
  · rw [h.items_eq] at hu
    change Faithful items ⟨(c.gateway.command item text).2,
      .command item text (c.gateway.command item text).1 :: c.deeds, c.reports⟩
    rw [he]
    apply h.cons h.items_eq
    · intro i
      rw [Deed.value?, hu]
      by_cases hi : item = i
      · subst hi
        simp [hr]
      · simp [hi]
    · rw [hlast] at hr
      simp only [Deed.Answered, hu, hr, if_true]
  · rw [h.items_eq] at hu
    apply h.cons (hi.trans h.items_eq)
    · intro i
      rw [hl, Deed.value?, hu]
      by_cases hi : item = i <;> simp [hi]
    · rw [hlast] at hr
      simp only [Deed.Answered, hu, hr, if_true, if_false]
      exact ha

theorem perform (h : Faithful items c) (call : Call σ) : Faithful items (c.perform call) := by
  cases call with
  | refresh =>
    rw [perform_refresh]
    apply List.foldlRecOn _ _ h
    intro b hb call hc
    obtain ⟨item, -, rfl⟩ := List.mem_map.mp hc
    exact hb.refreshItem item
  | refreshItem item => exact h.refreshItem item
  | command item text => exact h.command item text
  | elsewhere f => exact ⟨h.items_eq, h.last, h.answered, h.reports_eq⟩

end Faithful

theorem run_faithful (pool : Pool σ) (items : Std.TreeMap String Binding) (interval : ℕ)
    (calls : List (Call σ)) : Faithful items (run pool items interval calls) := by
  have h : Faithful items (⟨{ pool, items, interval }, [], []⟩ : Chronicle σ) :=
    ⟨rfl, by simp [Gateway.lastValue?, latest?], by simp, rfl⟩
  exact List.foldlRecOn calls perform h fun _ hc call _ => hc.perform call

end Chronicle

variable {items : Std.TreeMap String Binding} {item : String} {d : Deed} {earlier : List Deed}

theorem Deed.value?_of_change? {change : Change} (ha : d.Answered items earlier)
    (hc : d.change? = some change) :
    d.value? items change.item = some change.value ∧
      latest? items change.item earlier ≠ some change.value := by
  cases d with
  | command item text answer => simp [Deed.change?] at hc
  | read item value answer =>
    have he : answer = .ok (some change) := by
      rcases answer with f | _ | other <;> simp_all [Deed.change?]
    rw [Deed.Answered, he] at ha
    cases value with
    | error f => simp [Except.map] at ha
    | ok v =>
      simp only [Except.map, Except.ok.injEq] at ha
      split at ha
      · simp at ha
      · next hn =>
        obtain rfl := Option.some.inj ha
        exact ⟨by simp [Deed.value?], hn⟩

theorem latest?_append {between : List Deed} {v : Option String}
    (ha : ∀ d rest, d :: rest <:+ between ++ earlier → d.Answered items rest)
    (hu : ∀ d ∈ between, d.isUpdate items item = false)
    (hc : ∀ d ∈ between, ∀ change, d.change? = some change → change.item ≠ item)
    (hv : latest? items item earlier = some v) : latest? items item (between ++ earlier) = some v := by
  induction between with
  | nil => exact hv
  | cons d between ih =>
    have hl := ih (fun e rest hs => ha e rest (hs.trans (List.suffix_cons d _)))
      (fun e he => hu e (List.mem_cons_of_mem d he)) (fun e he => hc e (List.mem_cons_of_mem d he))
    have hd := ha d (between ++ earlier) (List.suffix_refl _)
    have hdu := hu d List.mem_cons_self
    have hdc := hc d List.mem_cons_self
    rw [List.cons_append, latest?_cons]
    cases d with
    | command i text answer =>
      have hn : Deed.value? items item (.command i text answer) = none := by
        simp only [Deed.isUpdate] at hdu
        simp [Deed.value?, hdu]
      rw [hn]
      exact hl
    | read i value answer =>
      rcases value with f | v'
      · exact hl
      · by_cases hi : i = item
        · subst hi
          have hs : latest? items i (between ++ earlier) = some v' := by
            by_contra hs
            rw [Deed.Answered, hl] at hd
            rw [hl] at hs
            simp only [Except.map, hs, if_false] at hd
            exact hdc ⟨i, v'⟩ (by rw [hd]; rfl) rfl
          simp [Deed.value?, ← hs, hl]
        · simp only [Deed.value?, hi, if_false]
          exact hl

inductive Reading.Wire : Reading → Option String → Prop
  | absent : Wire .absent none
  | scalar (text : String) : Wire (.scalar text) (some text)
  | row (cells : List (String × String)) :
      Wire (.row cells) (some (String.intercalate "&" (cells.map fun c => c.1 ++ "=" ++ c.2)))

theorem Reading.wire_value? (reading : Reading) : reading.Wire reading.value? := by
  cases reading with
  | absent => exact .absent
  | scalar text => exact .scalar text
  | row cells => exact .row cells

/-- A last value is that of the latest event, and a read is reported exactly if its value is another one. -/
theorem last_value_history (pool : Pool σ) (items : Std.TreeMap String Binding) (interval : ℕ)
    (calls : List (Call σ)) :
    let c := Chronicle.run pool items interval calls
    (∀ item, c.gateway.lastValue? item = latest? items item c.deeds) ∧
      c.reports = c.deeds.filterMap Deed.change? ∧
      (∀ item value answer earlier, .read item value answer :: earlier <:+ c.deeds →
        answer = value.map fun v => if latest? items item earlier = some v then none else some ⟨item, v⟩) ∧
      (∀ item f, (c.gateway.refreshItem item).1 = .error f →
        ∀ i, (c.gateway.refreshItem item).2.lastValue? i = c.gateway.lastValue? i) ∧
      (∀ d d' between earlier change change', d' :: (between ++ d :: earlier) <:+ c.deeds →
        d.change? = some change → d'.change? = some change' → change.item = change'.item →
        (∀ e ∈ between, e.isUpdate items change.item = false) →
        (∀ e ∈ between, ∀ other, e.change? = some other → other.item ≠ change.item) →
        change.value ≠ change'.value) ∧
      (∀ item reading, c.gateway.Yields item reading → ∃ value, reading.Wire value ∧
        (c.perform (.refreshItem item)).deeds =
          .read item (.ok value) (c.gateway.refreshItem item).1 :: c.deeds) ∧
      c.perform .refresh = (c.gateway.names.map Call.refreshItem).foldl Chronicle.perform c := by
  intro c
  have h := Chronicle.run_faithful pool items interval calls
  refine ⟨h.last, h.reports_eq, fun _ _ _ _ hs => h.answered _ _ hs, ?_, ?_, ?_, c.perform_refresh⟩
  · intro item f hf i
    rcases c.gateway.refreshItem_cases item with ⟨-, he⟩ | ⟨f', pool', -, he⟩ | ⟨v, g, -, -, -, he⟩
    · rw [he]
    · rw [he]
      rfl
    · simp [he] at hf
  · intro d d' between earlier change change' hs hd hd' hi hu hc hv
    obtain ⟨hev, -⟩ := Deed.value?_of_change? (h.answered d earlier
      ((List.suffix_append (d' :: between) (d :: earlier)).trans hs)) hd
    obtain ⟨-, hn⟩ := Deed.value?_of_change? (h.answered d' _ hs) hd'
    have hl : latest? items change.item (d :: earlier) = some change.value := by
      rw [latest?_cons, hev]
      rfl
    apply hn
    rw [← hi, ← hv]
    exact latest?_append (fun e rest he => h.answered e rest
      (he.trans ((List.suffix_cons d' _).trans hs))) hu hc hl
  · intro item reading hy
    refine ⟨reading.value?, reading.wire_value?, ?_⟩
    change c.gateway.reads item ++ c.deeds = _
    rw [Gateway.reads_of_yields hy]
    rfl

end ItemGateway
