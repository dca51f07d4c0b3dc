import ItemGateway.Proofs.LastValues
import ItemGateway.Proofs.DispatchFrame

namespace ItemGateway

variable {σ : Type} {items : Std.TreeMap String Binding} {item payload : String} {d : Deed}
  {deeds : List Deed}

def Deed.readValue? (item : String) : Deed → Option (Option String)
  | read i (.ok v) _ => if i = item then some v else none
  | _ => none

def lastRead? (item : String) (deeds : List Deed) : Option (Option String) :=
  deeds.findSome? (Deed.readValue? item)

/-- An update with the payload was tried, and no event since then gave the item another value. -/
def Tried (items : Std.TreeMap String Binding) (item payload : String) (deeds : List Deed) : Prop :=
  ∃ since text earlier, ∃ a : Except Fault ℕ,
    deeds = since ++ .command item text (a.map .updated) :: earlier ∧ normalizeCommand text = payload ∧
      ∀ d ∈ since, ∀ v, d.value? items item = some v → v = some payload

theorem Tried.cons (h : Tried items item payload deeds)
    (hd : ∀ v, d.value? items item = some v → v = some payload) :
    Tried items item payload (d :: deeds) := by
  obtain ⟨since, text, earlier, a, rfl, ht, hs⟩ := h
  refine ⟨d :: since, text, earlier, a, rfl, ht, ?_⟩
  intro e he
  rcases List.mem_cons.mp he with rfl | he
  · exact hd
  · exact hs e he

theorem tried_or_read (ha : ∀ d earlier, d :: earlier <:+ deeds → d.Answered items earlier)
    (h : latest? items item deeds = some (some payload)) :
    Tried items item payload deeds ∨ lastRead? item deeds = some (some payload) := by
  induction deeds with
  | nil => simp [latest?] at h
  | cons d deeds ih =>
    have ih := ih fun e earlier hs => ha e earlier (hs.trans (List.suffix_cons d deeds))
    have hd := ha d deeds (List.suffix_refl _)
    have hv : ∀ v, d.value? items item = some v → v = some payload := by
      intro v hv
      simpa [latest?_cons, hv] using h
    cases hn : d.value? items item with
    | none =>
      have hr : d.readValue? item = none := by
        rcases d with ⟨i, f | v, answer⟩ | ⟨i, text, answer⟩
        · rfl
        · exact hn
        · rfl
      rw [latest?_cons, hn] at h
      rw [lastRead?, List.findSome?_cons, hr]
      exact (ih h).imp_left fun ht => ht.cons hv
    | some v =>
      obtain rfl := hv v hn
      cases d with
      | read i value answer =>
        right
        rw [lastRead?, List.findSome?_cons]
        rcases value with f | v
        · cases hn
        · have hr : Deed.readValue? item (.read i (.ok v) answer) = some (some payload) := hn
          rw [hr]
      | command i text answer =>
        obtain ⟨⟨rfl, hu⟩, ht⟩ : (i = item ∧ takesUpdates items i = true) ∧ normalizeCommand text = payload := by
          simpa [Deed.value?] using hn
        rw [Deed.Answered, if_pos hu, ht] at hd
        by_cases hl : latest? items i deeds = some (some payload)
        · exact (ih hl).imp_left fun ht => ht.cons hv
        · rw [if_neg hl] at hd
          obtain ⟨a, rfl⟩ := hd
          exact .inl ⟨[], text, deeds, a, rfl, ht, by simp⟩

/-- Whether the update succeeded makes no difference: a failed command that is repeated at once is unchanged
exactly if it went to an update. -/
theorem unchanged_only_if_tried_or_read (pool : Pool σ) (items : Std.TreeMap String Binding) (interval : ℕ)
    (calls : List (Call σ)) (item text : String) :
    let c := Chronicle.run pool items interval calls
    let a := c.gateway.command item text
    (a.1 = .ok .unchanged → Tried items item (normalizeCommand text) c.deeds ∨
        lastRead? item c.deeds = some (some (normalizeCommand text))) ∧
      ∀ f, a.1 = .error f → ((a.2.command item text).1 = .ok .unchanged ↔ takesUpdates items item = true) := by
  intro c a
  have h : c.Faithful items := Chronicle.run_faithful pool items interval calls
  constructor
  · intro hc
    obtain ⟨-, hl⟩ := (c.gateway.command_unchanged_iff item text).mp hc
    rw [h.last] at hl
    exact tried_or_read h.answered hl
  · intro f hf
    have hi : a.2.items = items := (c.gateway.items_command item text).trans h.items_eq
    rw [Gateway.command_unchanged_iff, hi]
    constructor
    · exact And.left
    · intro hu
      refine ⟨hu, Gateway.lastValue?_command text ?_⟩
      rw [h.items_eq]
      exact hu

def lampItems : Std.TreeMap String Binding :=
  (∅ : Std.TreeMap String Binding).insert "lamp" { update := some "UPDATE t SET v='value=?'" }

theorem failed_update_then_unchanged :
    ¬ ∀ (pool : Pool Unit) (items : Std.TreeMap String Binding) (interval : ℕ) (calls : List (Call Unit))
      (item text : String),
      let c := Chronicle.run pool items interval calls
      (c.gateway.command item text).1 = .ok .unchanged →
        (∃ text' n, .command item text' (.ok (.updated n)) ∈ c.deeds ∧
          normalizeCommand text' = normalizeCommand text) ∨
        lastRead? item c.deeds = some (some (normalizeCommand text)) := by
  intro h
  let g : Gateway Unit := { pool := .new .idle [] (), items := lampItems, interval := 0 }
  have hb : g.binding? "lamp" = some { update := some "UPDATE t SET v='value=?'" } :=
    Std.TreeMap.getElem?_insert_self
  have hu : takesUpdates g.items "lamp" = true := Gateway.takesUpdates_of_binding hb
  have hg : g.pool.get? (Address.parse "UPDATE t SET v='value=?'").target = none :=
    Std.TreeMap.getElem?_emptyc
  have hf : ∃ f, (g.command "lamp" "ON").1 = .error f := by
    rw [Gateway.command_of_update hb rfl rfl (by simp [Gateway.lastValue?, g]), Pool.update,
      Pool.dispatch_of_unknown hg]
    exact ⟨_, rfl⟩
  have hc := h g.pool lampItems 0 [.command "lamp" "ON"] "lamp" "ON"
    (((g.command "lamp" "ON").2.command_unchanged_iff "lamp" "ON").mpr
      ⟨by rw [g.items_command]; exact hu, Gateway.lastValue?_command "ON" hu⟩)
  obtain ⟨f, hf⟩ := hf
  have hd : (Chronicle.run g.pool lampItems 0 [.command "lamp" "ON"]).deeds =
      [.command "lamp" "ON" (.error f)] := by
    rw [← hf]
    rfl
  rw [hd] at hc
  rcases hc with ⟨text, n, ht, -⟩ | hr
  · simp at ht
  · simp [lastRead?, Deed.readValue?] at hr

end ItemGateway
