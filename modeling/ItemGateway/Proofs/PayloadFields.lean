import ItemGateway.Proofs.Entries
import ItemGateway.Proofs.PayloadShape
import ItemGateway.Reading

namespace ItemGateway.Payload

theorem segmentField_append {key : List Char} (h : '=' ∉ key) (value : List Char) :
    segmentField (key ++ '=' :: value) = (String.ofList key, String.ofList value) := by
  rw [segmentField, Text.cut_append h]

def IsField (f : String × String) : Prop :=
  '=' ∉ f.1.toList ∧ '&' ∉ f.1.toList ∧ '&' ∉ f.2.toList

theorem toList_field (f : String × String) :
    (Reading.field f).toList = f.1.toList ++ '=' :: f.2.toList := by
  simp [Reading.field]

theorem segments_intercalate {fields : List (String × String)} (hne : fields ≠ [])
    (h : ∀ f ∈ fields, IsField f) :
    segments (String.intercalate "&" (fields.map Reading.field)).toList = fields := by
  have hamp : ∀ s ∈ (fields.map Reading.field).map String.toList, '&' ∉ s := by
    simp only [List.forall_mem_map]
    intro f hf
    obtain ⟨-, hk, hv⟩ := h f hf
    simp [toList_field, hk, hv]
  have hempty : ∀ s ∈ (fields.map Reading.field).map String.toList, (!s.isEmpty) = true := by
    simp only [List.forall_mem_map]
    intro f _
    simp [toList_field]
  rw [segments, String.toList_intercalate, show "&".toList = ['&'] from rfl,
    List.splitOn_intercalate '&' hamp (by simpa using hne), List.filter_eq_self.mpr hempty,
    List.map_map, List.map_map]
  conv_rhs => rw [← List.map_id fields]
  apply List.map_congr_left
  intro f hf
  simp only [Function.comp_apply, toList_field, segmentField_append (h f hf).1, String.ofList_toList,
    id_eq]

theorem getElem?_collect (fields : List (String × String)) (key : String) :
    (collect fields)[key]? = fields.reverse.lookup key := by
  simp [collect, getElem?_foldl_insert]

theorem raw_parse (text : String) : (parse text).raw = text := by
  unfold parse
  split <;> rfl

theorem isNamed_parse (text : String) : (parse text).isNamed = isNamedText text.toList := by
  unfold parse
  split <;> simp_all [isNamed]

theorem parse_of_not_named {text : String} (h : (parse text).isNamed = false) : parse text = .single text := by
  rw [isNamed_parse] at h
  rw [parse, h]
  rfl

theorem field?_parse (text key : String) :
    (parse text).field? key =
      if isNamedText text.toList then (segments text.toList).reverse.lookup key else none := by
  unfold parse
  split
  · exact getElem?_collect _ key
  · rfl

theorem field?_of_single {p : Payload} (h : p.isNamed = false) (key : String) : p.field? key = none := by
  cases p with
  | single raw => rfl
  | named raw fields => cases h

theorem isNamedText_intercalate {f g : String × String} (fields : List (String × String))
    (hf : '\n' ∉ f.2.toList) (hg : '\n' ∉ g.1.toList) :
    isNamedText (String.intercalate "&" ((f :: g :: fields).map Reading.field)).toList = true := by
  rw [isNamedText_iff]
  refine ⟨f.2.toList, g.1.toList, hf, hg, ?_⟩
  rw [String.toList_intercalate]
  cases fields with
  | nil => exact ⟨f.1.toList, g.2.toList, by simp [shape, toList_field]⟩
  | cons e fields =>
    refine ⟨f.1.toList, g.2.toList ++ '&' ::
      List.intercalate "&".toList (((e :: fields).map Reading.field).map String.toList), ?_⟩
    simp [shape, toList_field, List.intercalate_cons_cons]

theorem parse_intercalate {f g : String × String} {fields : List (String × String)}
    (h : ∀ e ∈ f :: g :: fields, IsField e) (hf : '\n' ∉ f.2.toList) (hg : '\n' ∉ g.1.toList) :
    let raw := String.intercalate "&" ((f :: g :: fields).map Reading.field)
    parse raw = .named raw (collect (f :: g :: fields)) := by
  intro raw
  rw [parse, if_pos (isNamedText_intercalate fields hf hg), segments_intercalate (by simp) h]

end ItemGateway.Payload
