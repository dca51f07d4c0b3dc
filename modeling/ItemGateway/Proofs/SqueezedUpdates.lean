import ItemGateway.Proofs.ItemHistory
import ItemGateway.Proofs.PoolRuns
import Mathlib.Data.List.Destutter

namespace ItemGateway

variable {σ : Type} {items : Std.TreeMap String Binding} {item : String}

def hasSelect (items : Std.TreeMap String Binding) (item : String) : Bool :=
  (items[item]?).any fun b => b.select.isSome

namespace Call

def payload? (item : String) : Call σ → Option String
  | command i text => if i = item then some (normalizeCommand text) else none
  | _ => none

def reads (items : Std.TreeMap String Binding) (item : String) : Call σ → Bool
  | refresh => hasSelect items item
  | refreshItem i => i = item && hasSelect items item
  | _ => false

end Call

def payloads (item : String) (calls : List (Call σ)) : List String :=
  calls.filterMap (Call.payload? item)

theorem payloads_cons (item : String) (call : Call σ) (calls : List (Call σ)) :
    payloads item (call :: calls) = (call.payload? item).toList ++ payloads item calls := by
  rw [payloads, List.filterMap_cons]
  cases call.payload? item <;> rfl

def Deed.tried? (item : String) : Deed → Option String
  | command i text answer => if i = item ∧ answer ≠ .ok .unchanged then some (normalizeCommand text) else none
  | read .. => none

namespace Gateway

def Updates (g : Gateway σ) (item address text : String) : Prop :=
  let a := g.pool.update address (normalizeCommand text)
  g.command item text =
    (a.1.map .updated, { g.remember item (some (normalizeCommand text)) with pool := a.2 })

def Inserts (g : Gateway σ) (item address text : String) : Prop :=
  let a := g.pool.insert address (normalizeCommand text)
  g.command item text = (a.1.map .inserted, { g with pool := a.2 })

theorem told?_of_unread {g : Gateway σ} (h : hasSelect g.items item = false) : g.told? item = none := by
  have hs : (g.binding? item).bind Binding.select = none := by
    simp only [hasSelect, Option.any_eq_false] at h
    rw [Option.bind_eq_none_iff]
    exact fun b hb => by simpa using h b hb
  rw [told?, hs, Option.bind_none]

theorem lastValue?_refreshItem_of_unread {g : Gateway σ} {i : String}
    (h : i = item → hasSelect g.items item = false) :
    (g.refreshItem i).2.lastValue? item = g.lastValue? item := by
  rw [lastValue?_refreshItem]
  split
  · next hi =>
    subst hi
    rw [told?_of_unread (h rfl), Option.none_or]
  · rfl

theorem lastValue?_refreshEach_of_unread (names : List String) {g : Gateway σ}
    (h : hasSelect g.items item = false) : (refreshEach names g).2.lastValue? item = g.lastValue? item := by
  induction names generalizing g with
  | nil => rfl
  | cons i names ih =>
    have hi : hasSelect (g.refreshItem i).2.items item = false := by rwa [(g.refreshItem_keeps i).1]
    exact (ih hi).trans (lastValue?_refreshItem_of_unread fun _ => h)

theorem lastValue?_command_of_ne (g : Gateway σ) {i : String} (text : String) (h : i ≠ item) :
    (g.command i text).2.lastValue? item = g.lastValue? item := by
  rcases g.command_cases i text with ⟨-, -, hl, -⟩ | ⟨-, -, he⟩ | ⟨-, -, -, -, hl⟩
  · exact hl item
  · rw [he]
  · rw [hl, if_neg h]

end Gateway

namespace Chronicle

theorem items_perform (c : Chronicle σ) (call : Call σ) : (c.perform call).gateway.items = c.gateway.items := by
  cases call with
  | refresh => exact Gateway.items_refreshEach c.gateway.names c.gateway
  | refreshItem i => exact (c.gateway.refreshItem_keeps i).1
  | command i text => exact c.gateway.items_command i text
  | elsewhere f => rfl

theorem items_foldl (c : Chronicle σ) (calls : List (Call σ)) :
    (calls.foldl perform c).gateway.items = c.gateway.items := by
  induction calls generalizing c with
  | nil => rfl
  | cons call calls ih => exact (ih _).trans (c.items_perform call)

theorem lastValue?_perform {c : Chronicle σ} {call : Call σ} (hu : takesUpdates c.gateway.items item = true)
    (hr : call.reads c.gateway.items item = false) :
    (c.perform call).gateway.lastValue? item =
      ((call.payload? item).map some).or (c.gateway.lastValue? item) := by
  cases call with
  | refresh => exact Gateway.lastValue?_refreshEach_of_unread c.gateway.names hr
  | refreshItem i =>
    apply Gateway.lastValue?_refreshItem_of_unread
    rintro rfl
    simpa [Call.reads] using hr
  | command i text =>
    change (c.gateway.command i text).2.lastValue? item = _
    by_cases he : i = item
    · subst he
      rw [Gateway.lastValue?_command text hu, Call.payload?, if_pos rfl]
      rfl
    · rw [c.gateway.lastValue?_command_of_ne text he, Call.payload?, if_neg he]
      rfl
  | elsewhere f => rfl

theorem lastValue?_foldl {c : Chronicle σ} {calls : List (Call σ)}
    (hu : takesUpdates c.gateway.items item = true)
    (hr : ∀ call ∈ calls, call.reads c.gateway.items item = false) :
    (calls.foldl perform c).gateway.lastValue? item =
      ((payloads item calls).getLast?.map some).or (c.gateway.lastValue? item) := by
  induction calls generalizing c with
  | nil => rfl
  | cons call calls ih =>
    rw [List.foldl_cons, ih (by rwa [items_perform])
      (by rw [items_perform]; exact fun d hd => hr d (List.mem_cons_of_mem call hd)),
      lastValue?_perform hu (hr call List.mem_cons_self), payloads_cons, List.getLast?_append, Option.map_or,
      Option.or_assoc]
    cases call.payload? item <;> rfl

theorem tried?_of_mem_reads {g : Gateway σ} {i : String} {d : Deed} (h : d ∈ g.reads i) :
    d.tried? item = none := by
  unfold Gateway.reads at h
  split at h
  · simp at h
  · rw [List.mem_singleton.mp h]
    rfl

theorem tried?_of_mem_readsEach {names : List String} {g : Gateway σ} {d : Deed}
    (h : d ∈ Gateway.readsEach names g) : d.tried? item = none := by
  induction names generalizing g with
  | nil => simp [Gateway.readsEach] at h
  | cons i names ih =>
    rcases List.mem_append.mp h with h | h
    · exact ih h
    · exact tried?_of_mem_reads h

theorem deeds_perform (c : Chronicle σ) (call : Call σ) (hu : takesUpdates c.gateway.items item = true) :
    ∃ new, (c.perform call).deeds = new ++ c.deeds ∧ new.reverse.filterMap (Deed.tried? item) =
      (call.payload? item).toList.filter fun p => c.gateway.lastValue? item ≠ some (some p) := by
  cases call with
  | refresh =>
    refine ⟨_, rfl, List.filterMap_eq_nil_iff.mpr ?_⟩
    exact fun d hd => tried?_of_mem_readsEach (List.mem_reverse.mp hd)
  | refreshItem i =>
    refine ⟨_, rfl, List.filterMap_eq_nil_iff.mpr ?_⟩
    exact fun d hd => tried?_of_mem_reads (List.mem_reverse.mp hd)
  | command i text =>
    refine ⟨[.command i text (c.gateway.command i text).1], rfl, ?_⟩
    by_cases he : i = item
    · subst he
      have hc := c.gateway.command_unchanged_iff i text
      simp only [hu, true_and] at hc
      simp only [List.reverse_singleton, Call.payload?, if_true, Option.toList_some, List.filter_singleton,
        List.filterMap_cons, Deed.tried?, true_and, ne_eq, hc]
      by_cases hl : c.gateway.lastValue? i = some (some (normalizeCommand text)) <;> simp [hl]
    · simp [Call.payload?, Deed.tried?, he]
  | elsewhere f => exact ⟨[], rfl, rfl⟩

theorem destutter_foldl {c : Chronicle σ} {calls : List (Call σ)}
    (hu : takesUpdates c.gateway.items item = true)
    (hr : ∀ call ∈ calls, call.reads c.gateway.items item = false) :
    ∃ new, (calls.foldl perform c).deeds = new ++ c.deeds ∧
      (c.gateway.lastValue? item :: (payloads item calls).map fun p => some (some p)).destutter (· ≠ ·) =
        c.gateway.lastValue? item ::
          (new.reverse.filterMap (Deed.tried? item)).map fun p => some (some p) := by
  -- The last value stands in front of the payloads to come, as the one that the next is compared with.
  induction calls generalizing c with
  | nil => exact ⟨[], rfl, rfl⟩
  | cons call calls ih =>
    obtain ⟨new, hd, ht⟩ := c.deeds_perform call hu
    obtain ⟨rest, hd', ht'⟩ := ih (c := c.perform call) (by rwa [items_perform])
      (by rw [items_perform]; exact fun d hd => hr d (List.mem_cons_of_mem call hd))
    rw [lastValue?_perform hu (hr call List.mem_cons_self)] at ht'
    refine ⟨rest ++ new, by rw [List.foldl_cons, hd', hd, List.append_assoc], ?_⟩
    rw [List.reverse_append, List.filterMap_append, ht, payloads_cons]
    cases hp : call.payload? item with
    | none =>
      rw [hp] at ht'
      exact ht'
    | some p =>
      rw [hp] at ht'
      have ht' : ((payloads item calls).map fun p => some (some p)).destutter' (· ≠ ·) (some (some p)) =
        some (some p) :: (rest.reverse.filterMap (Deed.tried? item)).map fun p => some (some p) := ht'
      rw [Option.toList_some, List.singleton_append, List.map_cons, List.destutter_cons']
      by_cases hl : c.gateway.lastValue? item = some (some p)
      · rw [hl, List.destutter'_cons_neg _ (by simp), ht']
        simp
      · rw [List.destutter'_cons_pos _ hl, ht']
        simp [hl]

end Chronicle

/-- The payloads that are tried are those that were sent, with each row of equal ones squeezed to one. -/
theorem updates_squeezed {c : Chronicle σ} {item : String} {b : Binding} (hb : c.gateway.binding? item = some b)
    (calls : List (Call σ)) :
    (∀ address, b.insert = none → b.update = some address →
        (∀ call ∈ calls, call.reads c.gateway.items item = false) →
        (∀ before text after, calls = before ++ .command item text :: after →
          let g := (before.foldl Chronicle.perform c).gateway
          let previous := ((payloads item before).getLast?.map some).or (c.gateway.lastValue? item)
          (g.Updates item address text ↔ previous ≠ some (some (normalizeCommand text))) ∧
            (¬g.Updates item address text → g.command item text = (.ok .unchanged, g))) ∧
        ∃ new, (calls.foldl Chronicle.perform c).deeds = new ++ c.deeds ∧
          (c.gateway.lastValue? item :: (payloads item calls).map fun p => some (some p)).destutter (· ≠ ·) =
            c.gateway.lastValue? item ::
              (new.reverse.filterMap (Deed.tried? item)).map fun p => some (some p)) ∧
      ∀ address, b.insert = some address → ∀ text,
        let g := (calls.foldl Chronicle.perform c).gateway
        g.Inserts item address text ∧ (g.command item text).2.last = g.last := by
  have binding (calls : List (Call σ)) :
      (calls.foldl Chronicle.perform c).gateway.binding? item = some b := by
    rw [Gateway.binding?, c.items_foldl calls]
    exact hb
  refine ⟨?_, ?_⟩
  · intro address hn hup hr
    have hu : takesUpdates c.gateway.items item = true := by
      rw [Gateway.takesUpdates_of_binding hb, hn, hup]
      rfl
    refine ⟨?_, Chronicle.destutter_foldl hu hr⟩
    rintro before text after rfl g previous
    have hl : g.lastValue? item = previous :=
      Chronicle.lastValue?_foldl hu fun call hc => hr call (List.mem_append_left _ hc)
    rw [← hl]
    by_cases he : g.lastValue? item = some (some (normalizeCommand text))
    · have hc := Gateway.command_of_repeat (binding before) hn hup he
      have hnot : ¬g.Updates item address text := by
        intro h
        have ha := congrArg Prod.fst (h.symm.trans hc)
        cases hw : (g.pool.update address (normalizeCommand text)).1 <;> simp [hw, Except.map] at ha
      exact ⟨iff_of_false hnot (not_not_intro he), fun _ => hc⟩
    · have hc : g.Updates item address text := Gateway.command_of_update (binding before) hn hup he
      exact ⟨iff_of_true hc he, fun h => absurd hc h⟩
  · intro address hn text g
    have hc : g.Inserts item address text := Gateway.command_of_insert text (binding calls) hn
    exact ⟨hc, congrArg (fun a => a.2.last) hc⟩

def dimmer : Chronicle Unit where
  gateway :=
    { pool := .new .idle [] (),
      items := (∅ : Std.TreeMap String Binding).insert "log" { insert := some "INSERT INTO t VALUES (?)" }
        |>.insert "dimmer" { update := some "UPDATE t SET v=?" } }
  deeds := []
  reports := []

def dimmerCalls : List (Call Unit) :=
  [.command "dimmer" "5", .refresh, .command "dimmer" "time=5&value=5", .command "dimmer" "6"]

theorem wrapped_repeat_not_sent :
    dimmer.gateway.binding? "dimmer" = some { update := some "UPDATE t SET v=?" } ∧
      (∀ call ∈ dimmerCalls, call.reads dimmer.gateway.items "dimmer" = false) ∧
      (∃ new, (dimmerCalls.foldl Chronicle.perform dimmer).deeds = new ++ [] ∧
        (new.reverse.filterMap (Deed.tried? "dimmer")).map (fun p => some (some p)) =
          [some (some "time=5&value=5"), some (some "time=6&value=6")]) ∧
      dimmer.gateway.binding? "log" = some { insert := some "INSERT INTO t VALUES (?)" } ∧
      (dimmerCalls.foldl Chronicle.perform dimmer).gateway.Inserts "log" "INSERT INTO t VALUES (?)" "6" := by
  have hb : dimmer.gateway.binding? "dimmer" = some { update := some "UPDATE t SET v=?" } := by rfl
  have hi : dimmer.gateway.binding? "log" = some { insert := some "INSERT INTO t VALUES (?)" } := by rfl
  have hr : ∀ call ∈ dimmerCalls, call.reads dimmer.gateway.items "dimmer" = false := by decide
  obtain ⟨-, new, hd, ht⟩ := (updates_squeezed hb dimmerCalls).1 _ rfl rfl hr
  obtain ⟨hins, -⟩ := (updates_squeezed hi dimmerCalls).2 _ rfl "6"
  exact ⟨hb, hr, ⟨new, hd, (List.cons.inj (ht.symm.trans (by rfl))).2⟩, hi, hins⟩

end ItemGateway
