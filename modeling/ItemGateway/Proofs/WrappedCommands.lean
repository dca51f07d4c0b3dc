import ItemGateway.Proofs.DispatchFrame
import ItemGateway.Proofs.GatewayCalls
import ItemGateway.Proofs.PayloadFields

namespace ItemGateway

variable {σ α : Type}

theorem normalizeCommand_of_mem {command : String} (h : '&' ∈ command.toList) :
    normalizeCommand command = command := by
  simp [normalizeCommand, h]

theorem toList_normalizeCommand {command : String} (h : '&' ∉ command.toList) :
    (normalizeCommand command).toList =
      ("time".toList ++ '=' :: command.toList) ++ '&' :: ("value".toList ++ '=' :: command.toList) := by
  simp [normalizeCommand, h]

theorem normalizeCommand_idem (command : String) :
    normalizeCommand (normalizeCommand command) = normalizeCommand command := by
  by_cases h : '&' ∈ command.toList
  · rw [normalizeCommand_of_mem h, normalizeCommand_of_mem h]
  · apply normalizeCommand_of_mem
    rw [toList_normalizeCommand h]
    exact List.mem_append_right _ List.mem_cons_self

namespace Payload

def EndsOnField (command : List Char) : Prop :=
  '\n' ∉ command ∨ ∃ before after, command = before ++ '=' :: after ∧ '\n' ∉ after

theorem endsOnField_iff (command : List Char) :
    EndsOnField command ↔
      ∃ before after, "time".toList ++ '=' :: command = before ++ '=' :: after ∧ '\n' ∉ after := by
  constructor
  · rintro (hc | ⟨before, after, rfl, ha⟩)
    · exact ⟨_, command, rfl, hc⟩
    · exact ⟨"time".toList ++ '=' :: before, after, by simp, ha⟩
  · rintro ⟨before, after, h, ha⟩
    have ht : '=' ∉ "time".toList := by decide
    rcases List.append_eq_append_iff.mp h with ⟨front, -, hc⟩ | ⟨front, hf, hc⟩
    · rcases List.cons_eq_append_iff.mp hc with ⟨rfl, hc⟩ | ⟨front, rfl, rfl⟩
      · obtain ⟨-, rfl⟩ := List.cons.inj hc
        exact .inl ha
      · exact .inr ⟨front, after, rfl, ha⟩
    · rcases List.cons_eq_append_iff.mp hc with ⟨rfl, hc⟩ | ⟨front, rfl, -⟩
      · obtain ⟨-, rfl⟩ := List.cons.inj hc
        exact .inl ha
      · rw [hf] at ht
        exact absurd (List.mem_append_right before List.mem_cons_self) ht

theorem isNamedText_normalizeCommand {command : String} (h : '&' ∉ command.toList) :
    isNamedText (normalizeCommand command).toList = true ↔ EndsOnField command.toList := by
  have hl : '&' ∉ "time".toList ++ '=' :: command.toList := by simpa using h
  have hr : '&' ∉ "value".toList ++ '=' :: command.toList := by simpa using h
  rw [isNamedText_iff, endsOnField_iff, toList_normalizeCommand h]
  constructor
  · rintro ⟨key, value, hk, -, before, post, hs⟩
    -- There is one ampersand in the text, so the shape lies around it.
    have he : ("time".toList ++ '=' :: command.toList) ++ '&' :: ("value".toList ++ '=' :: command.toList) =
        (before ++ '=' :: key) ++ '&' :: (value ++ '=' :: post) := by
      rw [← hs]
      simp [shape]
    exact ⟨before, key, ((List.append_cons_inj_of_notMem hl hr).mp he).1, hk⟩
  · rintro ⟨before, after, hs, ha⟩
    refine ⟨after, "value".toList, ha, by decide, before, command.toList, ?_⟩
    rw [hs]
    simp [shape]

theorem normalizeCommand_eq_intercalate {command : String} (h : '&' ∉ command.toList) :
    normalizeCommand command =
      String.intercalate "&" ([(timeKey, command), (valueKey, command)].map Reading.field) := by
  rw [← String.toList_inj, toList_normalizeCommand h, String.toList_intercalate]
  simp [toList_field, timeKey, valueKey]

theorem parse_of_endsOnField {command : String} (h : '&' ∉ command.toList)
    (he : EndsOnField command.toList) :
    parse (normalizeCommand command) =
      .named (normalizeCommand command) (collect [(timeKey, command), (valueKey, command)]) := by
  have hf : ∀ f ∈ [(timeKey, command), (valueKey, command)], IsField f := by
    simp [IsField, timeKey, valueKey, h]
  have hs := segments_intercalate (List.cons_ne_nil _ _) hf
  rw [← normalizeCommand_eq_intercalate h] at hs
  rw [parse, if_pos ((isNamedText_normalizeCommand h).mpr he), hs]

theorem parse_of_not_endsOnField {command : String} (h : '&' ∉ command.toList)
    (he : ¬EndsOnField command.toList) :
    parse (normalizeCommand command) = .single (normalizeCommand command) := by
  rw [parse, if_neg (mt (isNamedText_normalizeCommand h).mp he)]

theorem fields_of_endsOnField {command : String} (h : '&' ∉ command.toList)
    (he : EndsOnField command.toList) :
    (parse (normalizeCommand command)).field? valueKey = some command ∧
      (parse (normalizeCommand command)).field? timeKey = some command := by
  rw [parse_of_endsOnField h he]
  exact ⟨getElem?_collect _ valueKey, getElem?_collect _ timeKey⟩

end Payload

theorem Query.execute_trail (e : Engine σ) (r : Ref) (s : Statement) (w : World σ) :
    ∃ runs, (Query.execute e r s w).2.trail = runs ++ .prepared r s.sql :: w.trail ∧
      (runs = [] ∨ runs = [.executed r (Query.boundValue s)]) := by
  let asked (v : World σ) : Prop := v.trail = .prepared r s.sql :: w.trail
  let done (v : World σ) : Prop := ∃ runs, v.trail = runs ++ .prepared r s.sql :: w.trail ∧
    (runs = [] ∨ runs = [.executed r (Query.boundValue s)])
  apply Query.execute_keeps (I := fun v => v = w) (J := asked) (K := done)
  · rintro v rfl
    rfl
  · intro v hv
    exact ⟨[.executed r (Query.boundValue s)], congrArg _ hv, .inr rfl⟩
  · intro v hv
    exact ⟨[], hv, .inl rfl⟩
  · rfl

namespace Pool

def Sends (r : Ref) (s : Statement) (p p' : Pool σ) : Prop :=
  ∃ runs, p'.world.trail = runs ++ .prepared r s.sql :: (p.acquire r).2.world.trail ∧
    (runs = [] ∨ runs = [.executed r (Query.boundValue s)])

theorem insert_sends {p : Pool σ} {address : String} {r : Ref} (payload : String)
    (hr : p.get? (Address.parse address).target = some r) (ha : (p.acquire r).1 = .ok ()) :
    p.Sends r (.ofInsert (Address.parse address).template (.parse payload)) (p.insert address payload).2 := by
  rw [insert, dispatch_of_ok hr ha]
  exact Query.execute_trail p.engine r _ _

theorem insert_of_error {p : Pool σ} {address : String} {r : Ref} {e : Fault} (payload : String)
    (hr : p.get? (Address.parse address).target = some r) (ha : (p.acquire r).1 = .error e) :
    p.insert address payload = (.error e, (p.acquire r).2) :=
  dispatch_of_error hr ha _

end Pool

/-- A bare command is read back as its own value and time, if no line break follows its last equals sign. -/
theorem wrapped_command_fields (command : String) :
    let wrapped := normalizeCommand command
    let payload := Payload.parse wrapped
    normalizeCommand wrapped = wrapped ∧ ('&' ∈ command.toList → wrapped = command) ∧
      ('&' ∉ command.toList →
        (Payload.EndsOnField command.toList → payload.isNamed = true ∧
          payload.field? "value" = some command ∧ payload.field? "time" = some command) ∧
        (¬Payload.EndsOnField command.toList → payload = .single wrapped) ∧
        ∀ (g : Gateway σ) (item address : String) (b : Binding) (r : Ref),
          g.binding? item = some b → b.insert = some address →
          g.pool.get? (Address.parse address).target = some r →
          let template := (Address.parse address).template
          let a := g.pool.acquire r
          let c := g.command item command
          (∀ f, a.1 = .error f → c = (.error f, { g with pool := a.2 })) ∧
            (a.1 = .ok () →
              (Payload.EndsOnField command.toList →
                g.pool.Sends r (.filled (Template.fillInsert template command command)) c.2.pool) ∧
              (¬Payload.EndsOnField command.toList → g.pool.Sends r (.bound template wrapped) c.2.pool))) := by
  intro wrapped payload
  refine ⟨normalizeCommand_idem command, normalizeCommand_of_mem, ?_⟩
  intro h
  refine ⟨?_, Payload.parse_of_not_endsOnField h, ?_⟩
  · intro he
    refine ⟨?_, Payload.fields_of_endsOnField h he⟩
    change (Payload.parse (normalizeCommand command)).isNamed = true
    rw [Payload.parse_of_endsOnField h he]
    rfl
  · intro g item address b r hb hi hr template a c
    have hc : c = _ := Gateway.command_of_insert command hb hi
    rw [hc]
    refine ⟨?_, ?_⟩
    · intro f hf
      rw [Pool.insert_of_error _ hr hf]
      rfl
    · intro ha
      have hs := Pool.insert_sends wrapped hr ha
      refine ⟨?_, ?_⟩
      · intro he
        obtain ⟨hv, ht⟩ := Payload.fields_of_endsOnField h he
        rw [Statement.ofInsert, hv, ht] at hs
        exact hs
      · intro he
        rw [Payload.parse_of_not_endsOnField h he] at hs
        exact hs

def lampInsert : Gateway Unit where
  pool := Pool.openDefault
  items := (∅ : Std.TreeMap String Binding).insert "lamp" { insert := some "INSERT INTO t VALUES (?, ?)" }

theorem plain_command_filled :
    '&' ∉ "7".toList ∧ Payload.EndsOnField "7".toList ∧ (lampInsert.pool.acquire 0).1 = .ok () ∧
      lampInsert.pool.Sends 0 (.filled "INSERT INTO t VALUES (7, '7')")
        (lampInsert.command "lamp" "7").2.pool := by
  have h : '&' ∉ "7".toList := by decide
  have he : Payload.EndsOnField "7".toList := .inl (by decide)
  have hb : lampInsert.binding? "lamp" = some { insert := some "INSERT INTO t VALUES (?, ?)" } :=
    Std.TreeMap.getElem?_insert_self
  have hs := ((wrapped_command_fields "7").2.2 h).2.2 lampInsert "lamp" "INSERT INTO t VALUES (?, ?)" _ 0
    hb rfl rfl
  exact ⟨h, he, rfl, (hs.2 rfl).1 he⟩

/-- A line break at the end of a number hides the fields of the wrapped command. -/
theorem broken_line_is_single :
    ¬∀ command : String, '&' ∉ command.toList →
      (Payload.parse (normalizeCommand command)).isNamed = true ∧
        (Payload.parse (normalizeCommand command)).field? "value" = some command ∧
          (Payload.parse (normalizeCommand command)).field? "time" = some command := by
  intro h
  have hn : ¬Payload.EndsOnField "21.5\n".toList := by
    rintro (hc | ⟨before, after, hs, -⟩)
    · exact hc (by decide)
    · have hm : '=' ∈ "21.5\n".toList := hs ▸ List.mem_append_right before List.mem_cons_self
      exact absurd hm (by decide)
  obtain ⟨hp, -, -⟩ := h "21.5\n" (by decide)
  rw [Payload.parse_of_not_endsOnField (by decide) hn] at hp
  cases hp

end ItemGateway
