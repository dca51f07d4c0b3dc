import ItemGateway.Address

namespace ItemGateway.Address

def IsId (id : List Char) : Prop :=
  id ≠ [] ∧ ':' ∉ id.tail ∧ ∀ c ∈ id, isQuote c = false

theorem split_append {id : List Char} (h : IsId id) (template : List Char) :
    split (id ++ ':' :: template) = some (id, template) := by
  obtain ⟨hne, hc, hq⟩ := h
  cases id with
  | nil => exact absurd rfl hne
  | cons c id =>
    have hq' : id.any isQuote = false := by
      rw [List.any_eq_false]
      intro d hd
      simp [hq d (List.mem_cons_of_mem c hd)]
    simp only [List.tail_cons] at hc
    simp [split, Text.cut_append hc, hq', hq c List.mem_cons_self]

theorem eq_append_of_split {s id template : List Char} (h : split s = some (id, template)) :
    IsId id ∧ s = id ++ ':' :: template := by
  cases s with
  | nil => simp [split] at h
  | cons c s =>
    cases hs : Text.cut ':' s with
    | none => simp [split, hs] at h
    | some p =>
      obtain ⟨before, after⟩ := p
      obtain ⟨rfl, hc⟩ := Text.eq_append_of_cut hs
      simp only [split, hs, Bool.or_eq_true, List.any_eq_true] at h
      split at h
      · cases h
      next hq =>
      simp only [Option.some.injEq, Prod.mk.injEq] at h
      obtain ⟨rfl, rfl⟩ := h
      refine ⟨⟨by simp, hc, ?_⟩, rfl⟩
      intro d hd
      cases hd' : isQuote d with
      | false => rfl
      | true =>
        apply absurd _ hq
        rcases List.mem_cons.mp hd with rfl | hd
        · exact .inl hd'
        · exact .inr ⟨d, hd, hd'⟩

theorem parse_append {id : String} (h : IsId id.toList) (template : String) :
    parse (id ++ ":" ++ template) = ⟨some id, template⟩ := by
  have hs : (id ++ ":" ++ template).toList = id.toList ++ ':' :: template.toList := by simp
  rw [parse, hs, split_append h]
  simp

theorem parse_cases (raw : String) :
    (∃ id template, IsId id.toList ∧ raw = id ++ ":" ++ template ∧ parse raw = ⟨some id, template⟩) ∨
      (∀ id template, IsId id.toList → raw ≠ id ++ ":" ++ template) ∧ parse raw = ⟨none, raw⟩ := by
  cases hs : split raw.toList with
  | some p =>
    obtain ⟨hi, he⟩ := eq_append_of_split hs
    have hr : raw = String.ofList p.1 ++ ":" ++ String.ofList p.2 := by
      rw [← String.toList_inj, he]
      simp
    exact .inl ⟨_, _, by rwa [String.toList_ofList], hr, by rw [parse, hs]⟩
  | none =>
    refine .inr ⟨?_, by rw [parse, hs]⟩
    rintro id template hi rfl
    have hp := parse_append hi template
    rw [parse, hs] at hp
    cases hp

inductive IsFor (raw : String) : String → Prop
  | named {id template : String} (hi : IsId id.toList) (h : raw = id ++ ":" ++ template) : IsFor raw id
  | default (h : ∀ id template, IsId id.toList → raw ≠ id ++ ":" ++ template) : IsFor raw defaultServer

theorem isFor_iff {raw id : String} : IsFor raw id ↔ (parse raw).target = id := by
  constructor
  · intro h
    cases h with
    | named hi he =>
      rw [he, parse_append hi]
      rfl
    | default h =>
      rcases parse_cases raw with ⟨id, template, hi, he, -⟩ | ⟨-, hp⟩
      · exact absurd he (h id template hi)
      · rw [hp]
        rfl
  · rintro rfl
    rcases parse_cases raw with ⟨id, template, hi, he, hp⟩ | ⟨h, hp⟩
    · rw [hp]
      exact .named hi he
    · rw [hp]
      exact .default h

structure CutAt (raw id template : String) : Prop where
  joined : raw = id ++ ":" ++ template
  nonempty : id ≠ ""
  unquoted : '\'' ∉ id.toList ∧ '"' ∉ id.toList

structure FirstCut (raw id template : String) : Prop extends CutAt raw id template where
  first : ':' ∉ id.toList.tail

theorem isId_iff {id : String} :
    IsId id.toList ↔ id ≠ "" ∧ ('\'' ∉ id.toList ∧ '"' ∉ id.toList) ∧ ':' ∉ id.toList.tail := by
  have hq : (∀ c ∈ id.toList, isQuote c = false) ↔ '\'' ∉ id.toList ∧ '"' ∉ id.toList := by
    simp only [isQuote, Bool.or_eq_false_iff, decide_eq_false_iff_not]
    constructor
    · exact fun h => ⟨fun hm => (h _ hm).1 rfl, fun hm => (h _ hm).2 rfl⟩
    · rintro ⟨hs, hd⟩ c hm
      exact ⟨fun he => hs (he ▸ hm), fun he => hd (he ▸ hm)⟩
  rw [IsId, hq, ne_eq, String.toList_eq_nil_iff, and_comm (a := ':' ∉ id.toList.tail)]

theorem firstCut_iff {raw id template : String} :
    FirstCut raw id template ↔ raw = id ++ ":" ++ template ∧ IsId id.toList := by
  rw [isId_iff]
  constructor
  · rintro ⟨⟨hj, hne, hq⟩, hc⟩
    exact ⟨hj, hne, hq, hc⟩
  · rintro ⟨hj, hne, hq, hc⟩
    exact ⟨⟨hj, hne, hq⟩, hc⟩

theorem parse_eq_some_iff {raw id template : String} :
    parse raw = ⟨some id, template⟩ ↔ FirstCut raw id template := by
  rw [firstCut_iff]
  constructor
  · intro h
    rcases parse_cases raw with ⟨id', template', hi, he, hp⟩ | ⟨-, hp⟩
    · cases hp.symm.trans h
      exact ⟨he, hi⟩
    · cases hp.symm.trans h
  · rintro ⟨rfl, hi⟩
    exact parse_append hi template

theorem FirstCut.length_le {raw id template id' template' : String} (h : FirstCut raw id template)
    (h' : CutAt raw id' template') : id.length ≤ id'.length := by
  have he : id.toList ++ ':' :: template.toList = id'.toList ++ ':' :: template'.toList := by
    simpa using congrArg String.toList (h.joined.symm.trans h'.joined)
  rw [← String.length_toList, ← String.length_toList]
  rcases List.append_eq_append_iff.mp he with ⟨more, hm, -⟩ | ⟨more, hm, hr⟩
  · simp [hm]
  · cases more with
    | nil => simp [hm]
    | cons d more =>
      -- A cut further left would leave its colon in the id.
      obtain rfl : ':' = d := (List.cons.inj hr).1
      have hne : id'.toList ≠ [] := by simpa using h'.nonempty
      apply absurd _ h.first
      rw [hm, List.tail_append_of_ne_nil hne]
      exact List.mem_append_right _ List.mem_cons_self

theorem CutAt.firstCut {raw id template : String} (h : CutAt raw id template)
    (hs : ∀ id' template', CutAt raw id' template' → id.length ≤ id'.length) : FirstCut raw id template := by
  refine ⟨h, ?_⟩
  intro hm
  obtain ⟨c, rest, hi⟩ := List.exists_cons_of_ne_nil (mt String.toList_eq_nil_iff.mp h.nonempty)
  rw [hi, List.tail_cons] at hm
  obtain ⟨front, back, rfl⟩ := List.append_of_mem hm
  -- The text could be cut at the colon in the id as well.
  have hcut : CutAt raw (String.ofList (c :: front)) (String.ofList back ++ ":" ++ template) := by
    refine ⟨?_, by simp, ?_⟩
    · rw [← String.toList_inj, h.joined]
      simp [hi]
    · have hq := h.unquoted
      simp only [hi, List.mem_cons, List.mem_append, not_or] at hq
      simp only [String.toList_ofList, List.mem_cons, not_or]
      exact ⟨⟨hq.1.1, hq.1.2.1⟩, hq.2.1, hq.2.2.1⟩
  have hl := hs _ _ hcut
  rw [← String.length_toList, ← String.length_toList, hi] at hl
  simp only [String.toList_ofList, List.length_cons, List.length_append] at hl
  omega

theorem FirstCut.leading_colon {raw id template rest : String} (h : FirstCut raw id template)
    (hr : raw = ":" ++ rest) : ∃ more, id = ":" ++ more := by
  obtain ⟨c, more, hi⟩ := List.exists_cons_of_ne_nil (mt String.toList_eq_nil_iff.mp h.nonempty)
  have hl := congrArg String.toList (hr.symm.trans h.joined)
  rw [String.toList_append, String.toList_append, String.toList_append, hi] at hl
  obtain rfl : ':' = c := (List.cons.inj hl).1
  refine ⟨String.ofList more, ?_⟩
  rw [← String.toList_inj, hi]
  simp

/-- An address that is an id, a colon and a template is cut at the first such colon, and any other is not. -/
theorem split_exact (raw : String) :
    (∀ id template, parse raw = ⟨some id, template⟩ ↔ FirstCut raw id template) ∧
      (∀ id template id' template', FirstCut raw id template → FirstCut raw id' template' →
        id' = id ∧ template' = template) ∧
      (∀ id template, FirstCut raw id template ↔ CutAt raw id template ∧
        ∀ id' template', CutAt raw id' template' → id.length ≤ id'.length) ∧
      ((¬∃ id template, FirstCut raw id template) ↔ parse raw = ⟨none, raw⟩) ∧
      raw = (parse raw).server.elim "" (· ++ ":") ++ (parse raw).template ∧
      (∀ rest id, raw = ":" ++ rest → (parse raw).server = some id → ∃ more, id = ":" ++ more) ∧
      ∀ id template, id ≠ "" → '\'' ∉ id.toList ∧ '"' ∉ id.toList → ':' ∉ id.toList.tail →
        parse (id ++ ":" ++ template) = ⟨some id, template⟩ := by
  refine ⟨fun _ _ => parse_eq_some_iff, ?_, ?_, ?_, ?_, ?_, ?_⟩
  · intro id template id' template' h h'
    cases (parse_eq_some_iff.mpr h).symm.trans (parse_eq_some_iff.mpr h')
    exact ⟨rfl, rfl⟩
  · intro id template
    constructor
    · exact fun h => ⟨h.toCutAt, fun _ _ => h.length_le⟩
    · exact fun ⟨h, hs⟩ => h.firstCut hs
  · constructor
    · intro h
      rcases parse_cases raw with ⟨id, template, -, -, hp⟩ | ⟨-, hp⟩
      · exact absurd ⟨id, template, parse_eq_some_iff.mp hp⟩ h
      · exact hp
    · rintro hp ⟨id, template, h⟩
      cases hp.symm.trans (parse_eq_some_iff.mpr h)
  · rcases parse_cases raw with ⟨id, template, -, hr, hp⟩ | ⟨-, hp⟩
    · rw [hp]
      exact hr
    · rw [hp]
      simp
  · intro rest id hr hs
    have hp : parse raw = ⟨some id, (parse raw).template⟩ := by rw [← hs]
    exact (parse_eq_some_iff.mp hp).leading_colon hr
  · intro id template hne hq hc
    exact parse_append (isId_iff.mpr ⟨hne, hq, hc⟩) template

theorem quoted_template_split :
    let raw := "a\nb:'c:d'"
    FirstCut raw "a\nb" "'c:d'" ∧ parse raw = ⟨some "a\nb", "'c:d'"⟩ ∧
      ∀ id template, FirstCut raw id template → id = "a\nb" ∧ template = "'c:d'" := by
  intro raw
  have h : FirstCut raw "a\nb" "'c:d'" := ⟨⟨rfl, by decide, by decide⟩, by decide⟩
  obtain ⟨hp, hu, -⟩ := split_exact raw
  exact ⟨h, (hp _ _).mpr h, fun id template => hu _ _ id template h⟩

example : parse "::\n:" = ⟨some ":", "\n:"⟩ ∧ parse ":x" = ⟨none, ":x"⟩ ∧
    parse "a'b:c" = ⟨none, "a'b:c"⟩ := by decide

end ItemGateway.Address
