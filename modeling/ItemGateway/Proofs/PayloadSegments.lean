import ItemGateway.Proofs.PayloadFields
import ItemGateway.Proofs.TextPieces

namespace ItemGateway.Payload

theorem looksNamed_iff_sublist (line : List Char) : looksNamed line = true ↔ ['=', '&', '='].Sublist line := by
  rw [looksNamed_iff]
  constructor
  · rintro ⟨key, value, h⟩
    have hs : ['=', '&', '='].Sublist (shape key value) := by
      apply List.Sublist.cons_cons
      apply List.Sublist.trans _ (List.sublist_append_right key _)
      exact (List.sublist_append_right value _).cons_cons '&'
    exact hs.trans h.sublist
  · intro h
    obtain ⟨front, rest, rfl, hf, h⟩ := List.cons_sublist_iff.mp h
    obtain ⟨middle, back, rfl, hm, hb⟩ := List.cons_sublist_iff.mp h
    obtain ⟨before, key, rfl⟩ := List.append_of_mem hf
    obtain ⟨key', value, rfl⟩ := List.append_of_mem hm
    obtain ⟨value', after, rfl⟩ := List.append_of_mem (List.singleton_sublist.mp hb)
    exact ⟨key ++ key', value ++ value', before, after, by simp [shape]⟩

theorem isNamedText_iff_line {s : List Char} {lines : List (List Char)} (h : Text.Pieces '\n' s lines) :
    isNamedText s = true ↔ ∃ line ∈ lines, ['=', '&', '='].Sublist line := by
  rw [isNamedText, h.splitOn_eq, List.any_eq_true]
  simp only [looksNamed_iff_sublist]

inductive ReadsAs : List Char → String → String → Prop
  | pair (key value : String) (h : '=' ∉ key.toList) : ReadsAs (key.toList ++ '=' :: value.toList) key value
  | bare (key : String) (h : '=' ∉ key.toList) : ReadsAs key.toList key ""

theorem readsAs_iff {s : List Char} {key value : String} :
    ReadsAs s key value ↔ segmentField s = (key, value) := by
  constructor
  · intro h
    cases h with
    | pair _ _ hk => rw [segmentField_append hk, String.ofList_toList, String.ofList_toList]
    | bare _ hk => rw [segmentField, Text.cut_eq_none_iff.mpr hk, String.ofList_toList]
  · intro h
    rw [segmentField] at h
    split at h
    · next hc =>
      cases h
      have hb := ReadsAs.bare (String.ofList s)
      rw [String.toList_ofList] at hb
      exact hb (Text.cut_eq_none_iff.mp hc)
    · next k v hc =>
      cases h
      obtain ⟨rfl, hk⟩ := Text.eq_append_of_cut hc
      have hp := ReadsAs.pair (String.ofList k) (String.ofList v)
      rw [String.toList_ofList, String.toList_ofList] at hp
      exact hp hk

def Lacks (key : String) (segments : List (List Char)) : Prop :=
  ∀ s ∈ segments, s ≠ [] → ∀ value, ¬ReadsAs s key value

def HasLast (key value : String) (segments : List (List Char)) : Prop :=
  ∃ before s after, segments = before ++ s :: after ∧ s ≠ [] ∧ ReadsAs s key value ∧ Lacks key after

def fieldsOf (segments : List (List Char)) : List (String × String) :=
  (segments.filter (!·.isEmpty)).map segmentField

theorem fieldsOf_append (before after : List (List Char)) :
    fieldsOf (before ++ after) = fieldsOf before ++ fieldsOf after := by
  simp [fieldsOf]

theorem fieldsOf_cons {s : List Char} (h : s ≠ []) (after : List (List Char)) :
    fieldsOf (s :: after) = segmentField s :: fieldsOf after := by
  simp [fieldsOf, h]

theorem lacks_iff {key : String} {segments : List (List Char)} :
    Lacks key segments ↔ ∀ f ∈ fieldsOf segments, key ≠ f.1 := by
  constructor
  · intro h f hf he
    obtain ⟨s, hs, rfl⟩ := List.mem_map.mp hf
    obtain ⟨hm, hne⟩ := List.mem_filter.mp hs
    exact h s hm (by simpa using hne) _ (readsAs_iff.mpr (Prod.ext he.symm rfl))
  · intro h s hs hne value hr
    have hf : segmentField s ∈ fieldsOf segments :=
      List.mem_map_of_mem (List.mem_filter.mpr ⟨hs, by simpa using hne⟩)
    rw [readsAs_iff.mp hr] at hf
    exact h _ hf rfl

theorem hasLast_iff {key value : String} {segments : List (List Char)} :
    HasLast key value segments ↔ (fieldsOf segments).reverse.lookup key = some value := by
  rw [lookup_reverse_eq_some_iff]
  constructor
  · rintro ⟨before, s, after, rfl, hne, hr, hl⟩
    refine ⟨fieldsOf before, fieldsOf after, ?_, lacks_iff.mp hl⟩
    rw [fieldsOf_append, fieldsOf_cons hne, readsAs_iff.mp hr]
  · rintro ⟨front, back, he, hb⟩
    obtain ⟨l, l', hl, -, hl'⟩ := List.map_eq_append_iff.mp he
    obtain ⟨s, rest, rfl, hs, rfl⟩ := List.map_eq_cons_iff.mp hl'
    obtain ⟨before, more, rfl, -, hm⟩ := List.filter_eq_append_iff.mp hl
    obtain ⟨empty, after, rfl, -, hne, rfl⟩ := List.filter_eq_cons_iff.mp hm
    exact ⟨before ++ empty, s, after, by simp, by simpa using hne, readsAs_iff.mpr hs, lacks_iff.mpr hb⟩

theorem field?_eq_none_iff {raw : String} {segments : List (List Char)}
    (h : Text.Pieces '&' raw.toList segments) (hn : isNamedText raw.toList = true) (key : String) :
    (parse raw).field? key = none ↔ Lacks key segments := by
  rw [lacks_iff, field?_parse, if_pos hn, Payload.segments, h.splitOn_eq, List.lookup_eq_none_iff]
  simp [fieldsOf]

theorem field?_eq_some_iff {raw : String} {segments : List (List Char)}
    (h : Text.Pieces '&' raw.toList segments) (hn : isNamedText raw.toList = true) (key value : String) :
    (parse raw).field? key = some value ↔ HasLast key value segments := by
  rw [hasLast_iff, field?_parse, if_pos hn, Payload.segments, h.splitOn_eq, fieldsOf]

theorem two_le_countP {s : List Char} {segments : List (List Char)} (h : Text.Pieces '&' s segments)
    (hn : isNamedText s = true) : 2 ≤ segments.countP ('=' ∈ ·) := by
  obtain ⟨key, value, -, -, before, post, rfl⟩ := (isNamedText_iff s).mp hn
  have side {t : List Char} (ht : '=' ∈ t) : 0 < (t.splitOn '&').countP ('=' ∈ ·) := by
    obtain ⟨ps, hp⟩ := Text.exists_pieces '&' t
    rw [← List.singleton_infix_iff, hp.infix_iff (by decide)] at ht
    obtain ⟨p, hm, hc⟩ := ht
    rw [hp.splitOn_eq]
    exact List.countP_pos_iff.mpr ⟨p, hm, by simpa [List.singleton_infix_iff] using hc⟩
  have hs : before ++ shape key value ++ post =
      (before ++ '=' :: key) ++ '&' :: (value ++ '=' :: post) := by simp [shape]
  rw [← h.splitOn_eq, hs, List.splitOn_append_cons_self, List.countP_append]
  have hl := side (t := before ++ '=' :: key) (by simp)
  have hr := side (t := value ++ '=' :: post) (by simp)
  omega

/-- Of the segments with one key the last counts, and empty segments are passed over. -/
theorem parse_exact (raw : String) :
    ∃ lines segments,
      (∀ ps, Text.Pieces '\n' raw.toList ps ↔ ps = lines) ∧
      (∀ ps, Text.Pieces '&' raw.toList ps ↔ ps = segments) ∧
      ((parse raw).isNamed = true ↔ ∃ line ∈ lines, ['=', '&', '='].Sublist line) ∧
      ((parse raw).isNamed = true → (parse raw).raw = raw ∧ 2 ≤ segments.countP ('=' ∈ ·) ∧
        ∀ key, (∀ value, (parse raw).field? key = some value ↔ HasLast key value segments) ∧
          ((parse raw).field? key = none ↔ Lacks key segments)) ∧
      ((parse raw).isNamed = false → parse raw = .single raw ∧ ∀ key, (parse raw).field? key = none) := by
  have hl := Text.pieces_iff.mpr (rfl : raw.toList.splitOn '\n' = _)
  have hs := Text.pieces_iff.mpr (rfl : raw.toList.splitOn '&' = _)
  refine ⟨_, _, fun _ => Text.pieces_iff, fun _ => Text.pieces_iff, ?_, ?_, ?_⟩
  · rw [isNamed_parse, isNamedText_iff_line hl]
  · intro hn
    rw [isNamed_parse] at hn
    exact ⟨raw_parse raw, two_le_countP hs hn,
      fun key => ⟨field?_eq_some_iff hs hn key, field?_eq_none_iff hs hn key⟩⟩
  · intro hn
    exact ⟨parse_of_not_named hn, field?_of_single hn⟩

theorem fields_across_lines :
    let p := parse "x=0\n&a=b&a=c=d&&flag"
    p.isNamed = true ∧ p.field? "x" = some "0\n" ∧ p.field? "a" = some "c=d" ∧ p.field? "flag" = some "" ∧
      p.field? "" = none := by
  intro p
  obtain ⟨lines, segments, hl, hs, hm, hn, -⟩ := parse_exact "x=0\n&a=b&a=c=d&&flag"
  have line : Text.Pieces '\n' "x=0\n&a=b&a=c=d&&flag".toList
      ["x=0".toList, "&a=b&a=c=d&&flag".toList] := Text.pieces_iff.mpr (by decide)
  have parts : Text.Pieces '&' "x=0\n&a=b&a=c=d&&flag".toList
      ["x=0\n".toList, "a=b".toList, "a=c=d".toList, [], "flag".toList] := Text.pieces_iff.mpr (by decide)
  obtain rfl := (hl _).mp line
  obtain rfl := (hs _).mp parts
  have named : p.isNamed = true := hm.mpr ⟨"&a=b&a=c=d&&flag".toList, by decide, by decide⟩
  obtain ⟨-, -, hf⟩ := hn named
  have lacks {key : String} {after : List (List Char)}
      (h : ∀ s ∈ after, s ≠ [] → (segmentField s).1 ≠ key) : Lacks key after :=
    fun s hs hne value hr => h s hs hne (by rw [readsAs_iff.mp hr])
  refine ⟨named, ?_, ?_, ?_, ?_⟩
  · apply ((hf "x").1 _).mpr
    exact ⟨[], "x=0\n".toList, _, rfl, by decide, .pair "x" "0\n" (by decide), lacks (by decide)⟩
  · apply ((hf "a").1 _).mpr
    exact ⟨["x=0\n".toList, "a=b".toList], "a=c=d".toList, _, rfl, by decide, .pair "a" "c=d" (by decide),
      lacks (by decide)⟩
  · apply ((hf "flag").1 _).mpr
    exact ⟨["x=0\n".toList, "a=b".toList, "a=c=d".toList, []], "flag".toList, _, rfl, by decide,
      .bare "flag" (by decide), lacks (by decide)⟩
  · exact (hf "").2.mpr (lacks (by decide))

end ItemGateway.Payload
