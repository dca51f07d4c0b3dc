import ItemGateway.Proofs.ItemHistory
import ItemGateway.Proofs.TwinPools

/-!
Two gateways that are the same but for one server. Whatever goes wrong with that server, items that have
no address for it are read and commanded alike, and a refresh reports the same changes of them.
-/

namespace ItemGateway

variable {σ : Type} {x : Ref} {same : Setoid σ} {id : String}

def spares (items : Std.TreeMap String Binding) (id item : String) : Bool :=
  (items[item]?).all fun b =>
    [Direction.select, .update, .insert].all fun dir =>
      (b.address dir).all fun address => (Address.parse address).target ≠ id

theorem target_ne_of_spares {items : Std.TreeMap String Binding} {item address : String} {b : Binding}
    (dir : Direction) (h : spares items id item = true) (hb : items[item]? = some b)
    (ha : b.address dir = some address) : (Address.parse address).target ≠ id := by
  rw [spares, hb, Option.all_some, List.all_eq_true] at h
  have hd := h dir (by cases dir <;> simp)
  rw [ha, Option.all_some] at hd
  simpa using hd

namespace Gateway

structure Twins (id : String) (x : Ref) (same : Setoid σ) (g k : Gateway σ) : Prop where
  pool : g.pool.Twins id x same k.pool
  items : g.items = k.items
  interval : g.interval = k.interval
  last : ∀ item, spares g.items id item = true → g.lastValue? item = k.lastValue? item

namespace Twins

variable {g k : Gateway σ}

theorem with_pool (h : g.Twins id x same k) {p q : Pool σ} (hp : p.Twins id x same q) :
    ({ g with pool := p } : Gateway σ).Twins id x same { k with pool := q } :=
  ⟨hp, h.items, h.interval, h.last⟩

theorem binding? (h : g.Twins id x same k) (item : String) : k.binding? item = g.binding? item := by
  rw [Gateway.binding?, Gateway.binding?, h.items]

theorem refreshItem_of_spares (h : g.Twins id x same k) {item : String}
    (hs : spares g.items id item = true) :
    (g.refreshItem item).1 = (k.refreshItem item).1 ∧
      (g.refreshItem item).2.lastValue? item = (k.refreshItem item).2.lastValue? item := by
  have hb := h.binding? item
  have hl := h.last item hs
  cases ha : (g.binding? item).bind Binding.select with
  | none =>
    simp only [refreshItem, hb, ha]
    exact ⟨trivial, hl⟩
  | some address =>
    obtain ⟨b, hi, hd⟩ := Option.bind_eq_some_iff.mp ha
    obtain ⟨-, he⟩ := h.pool.select address
    have he := he (target_ne_of_spares .select hs hi hd)
    rw [← hb] at ha
    have hg : (g.binding? item).bind Binding.select = some address := by rwa [← hb]
    cases hp : g.pool.select address with
    | mk a p =>
      cases hq : k.pool.select address with
      | mk a' q =>
        rw [hp, hq] at he
        obtain rfl : a = a' := he
        cases a with
        | error f =>
          rw [refreshItem_of_error hg hp, refreshItem_of_error ha hq]
          exact ⟨rfl, hl⟩
        | ok s =>
          rw [refreshItem_of_ok hg hp, refreshItem_of_ok ha hq]
          have hl' : ({ g with pool := p } : Gateway σ).lastValue? item =
              ({ k with pool := q } : Gateway σ).lastValue? item := hl
          refine ⟨?_, ?_⟩
          · rw [observe_fst, observe_fst, hl']
          · rw [lastValue?_observe, lastValue?_observe, if_pos rfl, if_pos rfl]

theorem refreshItem (h : g.Twins id x same k) (item : String) :
    (g.refreshItem item).2.Twins id x same (k.refreshItem item).2 where
  pool := by
    have hb := h.binding? item
    cases ha : (g.binding? item).bind Binding.select with
    | none =>
      simp only [Gateway.refreshItem, hb, ha]
      exact h.pool
    | some address =>
      rw [pool_refreshItem ha, pool_refreshItem (by rwa [hb])]
      exact (h.pool.select address).1
  items := by rw [(g.refreshItem_keeps item).1, (k.refreshItem_keeps item).1, h.items]
  interval := by rw [(g.refreshItem_keeps item).2, (k.refreshItem_keeps item).2, h.interval]
  last := by
    intro i hs
    rw [(g.refreshItem_keeps item).1] at hs
    by_cases hi : item = i
    · subst hi
      exact (h.refreshItem_of_spares hs).2
    · rw [lastValue?_refreshItem, lastValue?_refreshItem, if_neg hi, if_neg hi, h.last i hs]

theorem changes_refreshItem (h : g.Twins id x same k) (item : String) :
    (changes (g.refreshItem item).1).filter (fun c => spares g.items id c.item) =
      (changes (k.refreshItem item).1).filter (fun c => spares g.items id c.item) := by
  cases hs : spares g.items id item with
  | true => rw [(h.refreshItem_of_spares hs).1]
  | false =>
    have hn {l : Gateway σ} : (changes (l.refreshItem item).1).filter (fun c => spares g.items id c.item) = [] := by
      apply List.filter_eq_nil_iff.mpr
      intro c hc
      rw [item_of_mem_changes hc, hs]
      exact Bool.false_ne_true
    rw [hn, hn]

theorem refreshEach (h : g.Twins id x same k) (names : List String) :
    (refreshEach names g).2.Twins id x same (refreshEach names k).2 ∧
      (refreshEach names g).1.filter (fun c => spares g.items id c.item) =
        (refreshEach names k).1.filter (fun c => spares g.items id c.item) := by
  induction names generalizing g k with
  | nil => exact ⟨h, rfl⟩
  | cons item names ih =>
    obtain ⟨ht, hc⟩ := ih (h.refreshItem item)
    rw [(g.refreshItem_keeps item).1] at hc
    refine ⟨ht, ?_⟩
    simp only [Gateway.refreshEach, List.filter_append]
    rw [h.changes_refreshItem, hc]

theorem command (h : g.Twins id x same k) {item : String} (hs : spares g.items id item = true)
    (text : String) :
    (g.command item text).2.Twins id x same (k.command item text).2 ∧
      (g.command item text).1 = (k.command item text).1 := by
  have hb := h.binding? item
  have hl := h.last item hs
  cases hg : g.binding? item with
  | none =>
    rw [hg] at hb
    rw [command_of_unbound text hg, command_of_unbound text hb]
    exact ⟨h, rfl⟩
  | some b =>
    rw [hg] at hb
    cases hn : b.insert with
    | some address =>
      rw [command_of_insert text hg hn, command_of_insert text hb hn]
      obtain ⟨ht, ha⟩ := h.pool.insert address (normalizeCommand text)
      refine ⟨h.with_pool ht, ?_⟩
      rw [ha (target_ne_of_spares .insert hs hg hn)]
    | none =>
      cases hu : b.update with
      | none =>
        rw [command_of_readOnly text hg hn hu, command_of_readOnly text hb hn hu]
        exact ⟨h, rfl⟩
      | some address =>
        by_cases hr : g.lastValue? item = some (some (normalizeCommand text))
        · rw [command_of_repeat hg hn hu hr, command_of_repeat hb hn hu (by rw [← hl, hr])]
          exact ⟨h, rfl⟩
        · rw [command_of_update hg hn hu hr, command_of_update hb hn hu (by rwa [← hl])]
          obtain ⟨ht, ha⟩ := h.pool.update address (normalizeCommand text)
          refine ⟨⟨ht, h.items, h.interval, ?_⟩, ?_⟩
          · intro i hi
            change (g.remember item _).lastValue? i = (k.remember item _).lastValue? i
            rw [lastValue?_remember, lastValue?_remember, h.last i hi]
          · rw [ha (target_ne_of_spares .update hs hg hu)]

end Twins

end Gateway

end ItemGateway
