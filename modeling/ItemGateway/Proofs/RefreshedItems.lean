import ItemGateway.Proofs.GatewayCalls
import ItemGateway.Proofs.SteadyPools
import Mathlib.Data.List.Basic

namespace ItemGateway

variable {σ : Type}

namespace Gateway

variable {g k : Gateway σ} {item : String}

def only (g : Gateway σ) (keep : String → Bool) : Gateway σ :=
  { g with items := g.items.filter fun item _ => keep item }

def Asks (g : Gateway σ) (address : String) : Prop :=
  ∃ item, (g.binding? item).bind Binding.select = some address

theorem last_refreshItem (h : changes (g.refreshItem item).1 = []) : (g.refreshItem item).2.last = g.last := by
  cases hb : (g.binding? item).bind Binding.select with
  | none => simp only [refreshItem, hb]
  | some address =>
    rcases hs : g.pool.select address with ⟨f | s, pool⟩
    · rw [refreshItem_of_error hb hs]
    · rw [refreshItem_of_ok hb hs] at h ⊢
      unfold observe at h ⊢
      split at h
      · next hl => rw [if_pos hl]
      · cases h

theorem sublist_refreshEach (names : List String) (g : Gateway σ) :
    ((refreshEach names g).1.map Change.item).Sublist names := by
  induction names generalizing g with
  | nil => exact .slnil
  | cons item names ih =>
    rw [refreshEach, List.map_append, changes_refreshItem]
    cases hn : news? item (g.told? item) (g.lastValue? item) with
    | none => exact (ih _).cons item
    | some c =>
      rw [Option.toList_some, List.map_singleton, item_of_news? hn]
      exact (ih _).cons_cons item

theorem select_of_mem_refreshEach {names : List String} {c : Change} (hc : c ∈ (refreshEach names g).1) :
    ∃ address, (g.binding? c.item).bind Binding.select = some address := by
  induction names generalizing g with
  | nil => simp [refreshEach] at hc
  | cons item names ih =>
    rcases List.mem_append.mp hc with hc | hc
    · rw [item_of_mem_changes hc]
      rw [changes_refreshItem, Option.mem_toList, news?, Option.bind_eq_some_iff] at hc
      obtain ⟨v, ht, -⟩ := hc
      obtain ⟨address, hs, -⟩ := Option.bind_eq_some_iff.mp ht
      exact ⟨address, hs⟩
    · obtain ⟨address, hs⟩ := ih hc
      rw [binding?, (g.refreshItem_keeps item).1] at hs
      exact ⟨address, hs⟩

theorem last_refreshEach {names : List String} (h : (refreshEach names g).1 = []) :
    (refreshEach names g).2.last = g.last := by
  induction names generalizing g with
  | nil => rfl
  | cons item names ih =>
    obtain ⟨hc, hr⟩ := List.append_eq_nil_iff.mp h
    exact (ih hr).trans (last_refreshItem hc)

structure Later (g k : Gateway σ) : Prop where
  items : k.items = g.items
  pool : g.pool.During g.Asks k.pool

theorem Later.refl (g : Gateway σ) : g.Later g :=
  ⟨rfl, .start⟩

theorem Later.binding? (h : g.Later k) (item : String) : k.binding? item = g.binding? item := by
  rw [Gateway.binding?, Gateway.binding?, h.items]

theorem Later.refreshItem (h : g.Later k) (item : String) : g.Later (k.refreshItem item).2 := by
  refine ⟨(k.refreshItem_keeps item).1.trans h.items, ?_⟩
  cases hb : (k.binding? item).bind Binding.select with
  | none =>
    simp only [Gateway.refreshItem, hb]
    exact h.pool
  | some address =>
    rw [pool_refreshItem hb]
    rw [h.binding?] at hb
    exact h.pool.select ⟨item, hb⟩

theorem Later.told? (hs : g.pool.Steady g.Asks) (h : g.Later k) (item : String) :
    k.told? item = g.told? item := by
  rw [Gateway.told?, Gateway.told?, h.binding?]
  cases hb : (g.binding? item).bind Binding.select with
  | none => rfl
  | some address => rw [Option.bind_some, Option.bind_some, hs.select h.pool ⟨item, hb⟩]

theorem Later.refreshEach (hs : g.pool.Steady g.Asks) (h : g.Later k) {names : List String}
    (hn : names.Nodup) :
    g.Later (refreshEach names k).2 ∧
      (refreshEach names k).1 =
        names.filterMap (fun item => news? item (g.told? item) (k.lastValue? item)) ∧
      ∀ i, (refreshEach names k).2.lastValue? i =
        if i ∈ names then (g.told? i).or (k.lastValue? i) else k.lastValue? i := by
  -- A read changes the last value of its own item only, and no item comes twice.
  induction names generalizing k with
  | nil => exact ⟨h, rfl, fun _ => by simp [Gateway.refreshEach]⟩
  | cons item names ih =>
    obtain ⟨hni, hn⟩ := List.nodup_cons.mp hn
    obtain ⟨hl, hc, hv⟩ := ih (h.refreshItem item) hn
    have hother (i : String) (hi : i ∈ names) : (k.refreshItem item).2.lastValue? i = k.lastValue? i := by
      rw [lastValue?_refreshItem, if_neg]
      rintro rfl
      exact hni hi
    refine ⟨hl, ?_, ?_⟩
    · rw [Gateway.refreshEach, hc, changes_refreshItem, h.told? hs, List.filterMap_cons]
      have hrest : names.filterMap (fun i => news? i (g.told? i) ((k.refreshItem item).2.lastValue? i)) =
          names.filterMap fun i => news? i (g.told? i) (k.lastValue? i) :=
        List.filterMap_congr fun i hi => by rw [hother i hi]
      rw [hrest]
      cases news? item (g.told? item) (k.lastValue? item) <;> rfl
    · intro i
      rw [Gateway.refreshEach, hv, lastValue?_refreshItem, h.told? hs]
      by_cases hi : item = i
      · subst hi
        simp [hni]
      · simp [hi, Ne.symm hi]

theorem binding?_only (g : Gateway σ) (keep : String → Bool) (item : String) :
    (g.only keep).binding? item = if keep item then g.binding? item else none := by
  rw [binding?, binding?, only, Std.TreeMap.getElem?_filter']
  cases g.items[item]? <;> cases hk : keep item <;> simp [Option.filter]

theorem names_only (g : Gateway σ) (keep : String → Bool) : (g.only keep).names = g.names.filter keep :=
  Std.TreeMap.keys_filter_key

theorem asks_of_only {keep : String → Bool} (address : String) (h : (g.only keep).Asks address) :
    g.Asks address := by
  obtain ⟨item, hs⟩ := h
  rw [binding?_only] at hs
  split at hs
  · exact ⟨item, hs⟩
  · cases hs

theorem told?_only {keep : String → Bool} (h : keep item = true) : (g.only keep).told? item = g.told? item := by
  rw [told?, told?, binding?_only, if_pos h]
  rfl

theorem nodup_names (g : Gateway σ) : g.names.Nodup :=
  Std.TreeMap.nodup_keys

theorem refresh_only (hs : g.pool.Steady g.Asks) (keep : String → Bool) :
    (g.only keep).refresh.1 = g.refresh.1.filter (fun c => keep c.item) ∧
      ∀ item, (g.only keep).refresh.2.lastValue? item =
        if keep item then g.refresh.2.lastValue? item else g.lastValue? item := by
  have hs' : (g.only keep).pool.Steady (g.only keep).Asks := Pool.Steady.mono hs asks_of_only
  obtain ⟨-, hc, hv⟩ := (Later.refl g).refreshEach hs g.nodup_names
  obtain ⟨-, hc', hv'⟩ := (Later.refl (g.only keep)).refreshEach hs' (g.only keep).nodup_names
  have hl (item : String) : (g.only keep).lastValue? item = g.lastValue? item := rfl
  constructor
  · rw [refresh, refresh, hc', hc, names_only, List.filterMap_filter, List.filter_filterMap]
    apply List.filterMap_congr
    intro item _
    cases hn : news? item (g.told? item) (g.lastValue? item) with
    | none =>
      split
      · next hk => rw [told?_only hk, hl, hn, Option.filter_none]
      · rfl
    | some c =>
      split
      · next hk => rw [told?_only hk, hl, hn, Option.filter_some_pos (by rwa [item_of_news? hn])]
      · next hk => rw [Option.filter_some_neg (by rw [item_of_news? hn]; simpa using hk)]
  · intro item
    rw [refresh, refresh, hv', hv, names_only]
    simp only [List.mem_filter]
    by_cases hk : keep item = true
    · simp only [hk, and_true, if_true, told?_only hk, hl]
    · simp [hk, hl]

theorem refresh_again (hs : g.pool.Steady g.Asks) :
    g.refresh.2.refresh.1 = [] ∧ g.refresh.2.refresh.2.last = g.refresh.2.last := by
  obtain ⟨hl, -, hv⟩ := (Later.refl g).refreshEach hs g.nodup_names
  have hnone : g.refresh.2.refresh.1 = [] := by
    have hnames : g.refresh.2.names = g.names := congrArg Std.TreeMap.keys hl.items
    obtain ⟨-, hc, -⟩ := Later.refreshEach hs hl g.nodup_names
    rw [refresh, hnames]
    refine hc.trans (List.filterMap_eq_nil_iff.mpr ?_)
    intro item hi
    rw [hv, if_pos hi]
    cases g.told? item with
    | none => rfl
    | some v => simp [news?]
  exact ⟨hnone, last_refreshEach hnone⟩

end Gateway

/-- In a steady time the items do not affect each other, and a second refresh has nothing to report. -/
theorem refresh_item_by_item (g : Gateway σ) :
    (g.refresh.1.map Change.item).Pairwise (· < ·) ∧
      (∀ c ∈ g.refresh.1, ∃ b, g.binding? c.item = some b ∧ b.select.isSome = true) ∧
      (g.pool.Steady g.Asks →
        (∀ keep : String → Bool,
          (g.only keep).refresh.1 = g.refresh.1.filter (fun c => keep c.item) ∧
            ∀ item, (g.only keep).refresh.2.lastValue? item =
              if keep item then g.refresh.2.lastValue? item else g.lastValue? item) ∧
        g.refresh.2.refresh.1 = [] ∧ g.refresh.2.refresh.2.last = g.refresh.2.last) := by
  refine ⟨?_, ?_, ?_⟩
  · exact (keys_increasing g.items).sublist (Gateway.sublist_refreshEach g.names g)
  · intro c hc
    obtain ⟨address, hs⟩ := Gateway.select_of_mem_refreshEach hc
    obtain ⟨b, hb, hs⟩ := Option.bind_eq_some_iff.mp hs
    exact ⟨b, hb, by rw [hs]; rfl⟩
  · intro hs
    exact ⟨Gateway.refresh_only hs, Gateway.refresh_again hs⟩

def meters : Gateway TableFile where
  pool := (Pool.new .tableFile [] ⟨3, fun _ => false, fun _ => false⟩).run [.register Pool.fileServer]
  items := [("lost", "nowhere:SELECT n"), ("count", "SELECT n"), ("total", "SELECT n + 0")].foldl
    (fun items i => items.insert i.1 { select := some i.2 }) ∅

theorem meters_item_by_item :
    meters.pool.Steady meters.Asks ∧ meters.refresh.1 = [⟨"count", some "3"⟩, ⟨"total", some "3"⟩] ∧
      (meters.only (· = "total")).refresh.1 = [⟨"total", some "3"⟩] ∧ meters.refresh.2.refresh.1 = [] := by
  have hd : ∀ d ∈ [Engine.tableFile.driver], d.Durable TableFile.storage := by
    simp [Engine.tableFile_driver_durable]
  have hp : ∀ a ∈ [Action.register Pool.fileServer], a.Spares TableFile.storage := by
    simp [Action.Spares]
  have hk (r : Ref) (sql : String) (w : World TableFile) :
      (Query.readFirst .tableFile r sql w).2.state.rows = w.state.rows := by
    let kept (v : World TableFile) := v.state.rows = w.state.rows
    refine Query.readFirst_keeps (I := kept) (J := kept) ?_ ?_ rfl
    · intro v hv
      refine Eq.trans ?_ hv
      simp only [World.prepare, Engine.tableFile]
      split <;> rfl
    · exact fun v hv => hv
  have hs : meters.pool.Steady meters.Asks :=
    ((Pool.new_tended hd _).run Engine.tableFile_durable hp).steady Engine.tableFile_durable hk
  obtain ⟨-, -, hr⟩ := refresh_item_by_item meters
  obtain ⟨honly, hagain, -⟩ := hr hs
  have hall : meters.refresh.1 = [⟨"count", some "3"⟩, ⟨"total", some "3"⟩] := by rfl
  refine ⟨hs, hall, ?_, hagain⟩
  rw [(honly _).1, hall]
  decide

end ItemGateway
