import ItemGateway.Statement
import Mathlib.Data.List.Infix

namespace ItemGateway.Template

def StartsFragment (t : List Char) : Prop :=
  ∃ c rest, c ≠ '\n' ∧ t = "value=".toList ++ c :: rest

theorem fragment?_eq_some_iff {t rest : List Char} :
    fragment? t = some rest ↔ ∃ c, c ≠ '\n' ∧ t = "value=".toList ++ c :: rest := by
  unfold fragment?
  constructor
  · intro h
    split at h
    · next c rest' hp =>
      split at h
      · cases h
      next hc =>
      cases h
      exact ⟨c, hc, (List.isPrefixOf?_eq_some_iff_append_eq.mp hp).symm⟩
    · cases h
  · rintro ⟨c, hc, ht⟩
    rw [List.isPrefixOf?_eq_some_iff_append_eq.mpr ht.symm]
    exact if_neg hc

theorem fragment?_eq_none_iff {t : List Char} : fragment? t = none ↔ ¬StartsFragment t := by
  rw [Option.eq_none_iff_forall_ne_some]
  constructor
  · rintro h ⟨c, rest, hc, ht⟩
    exact h rest (fragment?_eq_some_iff.mpr ⟨c, hc, ht⟩)
  · intro h rest hf
    obtain ⟨c, hc, ht⟩ := fragment?_eq_some_iff.mp hf
    exact h ⟨c, rest, hc, ht⟩

theorem StartsFragment.ne_nil {t : List Char} (h : StartsFragment t) : t ≠ [] := by
  obtain ⟨c, rest, -, rfl⟩ := h
  simp

def Clear (gap rest : List Char) : Prop :=
  ∀ before after, gap = before ++ after → after ≠ [] → ¬StartsFragment (after ++ rest)

theorem clear_nil (rest : List Char) : Clear [] rest := by
  intro before after h hne
  exact absurd (List.append_eq_nil_iff.mp h.symm).2 hne

theorem clear_cons {c : Char} {gap rest : List Char} :
    Clear (c :: gap) rest ↔ ¬StartsFragment (c :: (gap ++ rest)) ∧ Clear gap rest := by
  constructor
  · intro h
    refine ⟨h [] (c :: gap) rfl (List.cons_ne_nil _ _), ?_⟩
    rintro before after rfl hne
    exact h (c :: before) after rfl hne
  · rintro ⟨hc, h⟩ before after he hne
    rcases List.cons_eq_append_iff.mp he with ⟨rfl, rfl⟩ | ⟨front, rfl, hg⟩
    · exact hc
    · exact h front after hg hne

theorem Clear.not_startsFragment {gap rest : List Char} (h : Clear (gap ++ rest) []) :
    ¬StartsFragment rest := by
  intro hr
  apply h gap rest rfl hr.ne_nil
  rwa [List.append_nil]

theorem Clear.exists_append {gap gap' rest rest' : List Char} (h : Clear gap rest)
    (hr : StartsFragment rest') (he : gap ++ rest = gap' ++ rest') :
    ∃ more, gap' = gap ++ more ∧ rest = more ++ rest' := by
  rcases List.append_eq_append_iff.mp he with hm | ⟨more, hg, hr'⟩
  · exact hm
  · cases more with
    | nil => exact ⟨[], by simpa using hg.symm, hr'.symm⟩
    | cons d more =>
      rw [hr'] at hr
      exact absurd hr (h gap' _ hg (List.cons_ne_nil _ _))

theorem Clear.unique {gap gap' rest rest' : List Char} (h : Clear gap rest) (h' : Clear gap' rest')
    (hr : StartsFragment rest) (hr' : StartsFragment rest') (he : gap ++ rest = gap' ++ rest') :
    gap' = gap ∧ rest' = rest := by
  obtain ⟨more, hm, hs⟩ := h.exists_append hr' he
  obtain ⟨more', hm', -⟩ := h'.exists_append hr he.symm
  have hl := congrArg List.length hm
  have hl' := congrArg List.length hm'
  simp only [List.length_append] at hl hl'
  obtain rfl := List.length_eq_zero_iff.mp (by omega : more.length = 0)
  exact ⟨by simpa using hm, hs.symm⟩

inductive Parts : List Char → List (List Char × Char) → List Char → Prop
  | last {gap : List Char} (h : Clear gap []) : Parts gap [] gap
  | cons {gap t last : List Char} {c : Char} {cuts : List (List Char × Char)} (hc : c ≠ '\n')
      (h : Clear gap ("value=".toList ++ c :: t)) (ht : Parts t cuts last) :
      Parts (gap ++ ("value=".toList ++ c :: t)) ((gap, c) :: cuts) last

def weave (fill : Char → List Char) : List (List Char × Char) → List Char → List Char
  | [], last => last
  | (gap, c) :: cuts, last => gap ++ "value=".toList ++ fill c ++ weave fill cuts last

theorem exists_parts (t : List Char) : ∃ cuts last, Parts t cuts last := by
  by_cases hs : StartsFragment t
  · obtain ⟨c, rest, hc, rfl⟩ := hs
    obtain ⟨cuts, last, h⟩ := exists_parts rest
    exact ⟨_, _, .cons hc (clear_nil _) h⟩
  · cases t with
    | nil => exact ⟨_, _, .last (clear_nil _)⟩
    | cons d t =>
      -- No fragment begins with `d`, so it belongs to the first gap of the rest.
      obtain ⟨cuts, last, h⟩ := exists_parts t
      cases h with
      | last h => exact ⟨_, _, .last (clear_cons.mpr ⟨by simpa using hs, h⟩)⟩
      | cons hc h ht => exact ⟨_, _, .cons hc (clear_cons.mpr ⟨hs, h⟩) ht⟩
termination_by t.length
decreasing_by
  all_goals
    subst_vars
    simp only [List.length_append, List.length_cons]
    omega

namespace Parts

variable {t last last' : List Char} {cuts cuts' : List (List Char × Char)}

theorem unique (h : Parts t cuts last) (h' : Parts t cuts' last') : cuts' = cuts ∧ last' = last := by
  induction h generalizing cuts' with
  | @last gap h =>
    cases h' with
    | last => exact ⟨rfl, rfl⟩
    | @cons gap' t' _ c' _ hc' _ _ => exact absurd ⟨c', t', hc', rfl⟩ h.not_startsFragment
  | @cons gap t last c cuts hc h ht ih =>
    have hs : StartsFragment ("value=".toList ++ c :: t) := ⟨c, t, hc, rfl⟩
    generalize he : gap ++ ("value=".toList ++ c :: t) = u at h'
    cases h' with
    | last h' =>
      rw [← he] at h'
      exact absurd hs h'.not_startsFragment
    | @cons gap' t' _ c' _ hc' h' ht' =>
      obtain ⟨rfl, hr⟩ := h.unique h' hs ⟨c', t', hc', rfl⟩ he
      obtain ⟨rfl, rfl⟩ := List.cons.inj (List.append_cancel_left hr)
      obtain ⟨rfl, rfl⟩ := ih ht'
      exact ⟨rfl, rfl⟩

theorem text_eq (h : Parts t cuts last) : t = weave (fun c => [c]) cuts last := by
  induction h with
  | last h => rfl
  | cons hc h ht ih => simp [weave, ← ih]

end Parts

theorem fillFragments_fragment (value : List Char) {c : Char} (hc : c ≠ '\n') (t : List Char) :
    fillFragments value ("value=".toList ++ c :: t) = "value=".toList ++ value ++ fillFragments value t := by
  have hf : fragment? ("value=".toList ++ c :: t) = some t := fragment?_eq_some_iff.mpr ⟨c, hc, rfl⟩
  rw [fillFragments]
  split
  · next rest h =>
    cases hf.symm.trans h
    rfl
  · next h => cases hf.symm.trans h

theorem fillFragments_cons (value : List Char) {c : Char} {t : List Char} (h : ¬StartsFragment (c :: t)) :
    fillFragments value (c :: t) = c :: fillFragments value t := by
  have hf := fragment?_eq_none_iff.mpr h
  rw [fillFragments]
  split
  · next hs => cases hf.symm.trans hs
  · rfl

theorem Clear.fillFragments {gap rest : List Char} (h : Clear gap rest) (value : List Char) :
    fillFragments value (gap ++ rest) = gap ++ fillFragments value rest := by
  induction gap with
  | nil => rfl
  | cons c gap ih =>
    obtain ⟨hc, hg⟩ := clear_cons.mp h
    rw [List.cons_append, fillFragments_cons value hc, ih hg, List.cons_append]

theorem Parts.fillFragments {t last : List Char} {cuts : List (List Char × Char)} (h : Parts t cuts last)
    (value : List Char) : fillFragments value t = weave (fun _ => value) cuts last := by
  induction h with
  | @last gap h =>
    have hg := h.fillFragments value
    have hn : Template.fillFragments value [] = [] := by
      rw [Template.fillFragments]
      rfl
    rwa [hn, List.append_nil] at hg
  | cons hc h ht ih =>
    rw [h.fillFragments, fillFragments_fragment value hc, ih, weave]
    simp only [List.append_assoc]

/-- Filling a template changes nothing but the one character in each of its fragments. -/
theorem update_fills_fragments (template : String) :
    ∃ cuts last, (∀ cuts' last', Parts template.toList cuts' last' ↔ cuts' = cuts ∧ last' = last) ∧
      template.toList = weave (fun c => [c]) cuts last ∧
      ∀ value : String, (fillUpdate template value).toList = weave (fun _ => value.toList) cuts last := by
  obtain ⟨cuts, last, h⟩ := exists_parts template.toList
  refine ⟨cuts, last, ?_, h.text_eq, ?_⟩
  · intro cuts' last'
    constructor
    · exact h.unique
    · rintro ⟨rfl, rfl⟩
      exact h
  · intro value
    rw [fillUpdate, String.toList_ofList, h.fillFragments]

end ItemGateway.Template
