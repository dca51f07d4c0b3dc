import ItemGateway.Proofs.BindingText

namespace ItemGateway.Binding

theorem isSome_address? (body : List Char) {tail : List Char} (ht : ∀ c ∈ tail, isSeparator c = true) :
    (address? (body ++ ']' :: tail)).isSome = true := by
  induction body with
  | nil =>
    cases tail with
    | nil => rfl
    | cons d tail =>
      have hd : isSeparator d = true := ht d List.mem_cons_self
      simp [address?, hd]
  | cons c body ih =>
    obtain ⟨d, s, hs⟩ : ∃ d s, body ++ ']' :: tail = d :: s := List.exists_cons_of_ne_nil (by simp)
    rw [List.cons_append, hs]
    rw [hs] at ih
    simp only [address?]
    split
    · rfl
    · rwa [Option.isSome_map]

theorem prefix_of_address? {s a rest : List Char} (h : address? s = some (a, rest)) : a <+: s := by
  fun_induction address? s generalizing a with
  | case1 | case3 => cases h
  | case2 | case4 =>
    cases h
    exact List.nil_prefix
  | case5 c d s hc ih =>
    obtain ⟨⟨b, r⟩, hs, he⟩ := Option.map_eq_some_iff.mp h
    cases he
    exact List.cons_prefix_cons.mpr ⟨rfl, ih hs⟩

theorem sealed_of_address? {s a rest : List Char} (h : address? s = some (a, rest)) : Sealed a := by
  fun_induction address? s generalizing a with
  | case1 | case3 => cases h
  | case2 | case4 =>
    cases h
    exact .nil
  | case5 c d s hc ih =>
    obtain ⟨⟨b, r⟩, hs, he⟩ := Option.map_eq_some_iff.mp h
    cases he
    apply List.isChain_cons.mpr
    refine ⟨?_, ih hs⟩
    -- The address goes on with the character that was looked at after `c`.
    rintro d' hd'
    obtain ⟨t, rfl⟩ := List.head?_eq_some_iff.mp hd'
    obtain ⟨rfl, -⟩ := List.cons_prefix_cons.mp (prefix_of_address? hs)
    simpa using hc

theorem sealed_of_mem_entries {s : List Char} {e : Direction × List Char} (h : e ∈ entries s) :
    Sealed e.2 := by
  fun_induction entries s with
  | case1 s dir a rest he ih =>
    rcases List.mem_cons.mp h with rfl | h
    · unfold leading? at he
      split at he
      · obtain ⟨⟨b, r⟩, hs, hb⟩ := Option.map_eq_some_iff.mp he
        cases hb
        exact sealed_of_address? hs
      · cases he
    · exact ih h
  | case2 => cases h
  | case3 c rest he ih => exact ih h

theorem Shaped.entries_ne_nil {s : List Char} (h : Shaped s) : entries s ≠ [] := by
  obtain ⟨dir, body, tail, rfl, ht⟩ := h
  obtain ⟨⟨a, rest⟩, ha⟩ := Option.isSome_iff_exists.mp (isSome_address? body ht)
  have he : leading? (dir.mark ++ '[' :: (body ++ ']' :: tail)) = some (dir, a, rest) := by
    simp only [leading?, opening?_mark, ha, Option.map_some]
  rw [entries_of_leading? he]
  exact List.cons_ne_nil _ _

theorem eq_of_address {b b' : Binding} (h : ∀ dir, b.address dir = b'.address dir) : b = b' := by
  obtain ⟨select, update, insert⟩ := b
  obtain ⟨select', update', insert'⟩ := b'
  obtain rfl : select = select' := h .select
  obtain rfl : update = update' := h .update
  obtain rfl : insert = insert' := h .insert
  rfl

def present (b : Binding) : List (Direction × String) :=
  [Direction.select, .update, .insert].filterMap fun dir => (b.address dir).map fun a => (dir, a)

theorem mem_present {b : Binding} {dir : Direction} {address : String} :
    (dir, address) ∈ b.present ↔ b.address dir = some address := by
  cases dir <;> simp [present]

theorem lookup_present (b : Binding) (dir : Direction) : b.present.reverse.lookup dir = b.address dir := by
  obtain ⟨_ | select, _ | update, _ | insert⟩ := b <;> cases dir <;> rfl

theorem render_eq (b : Binding) :
    b.render = String.ofList (List.intercalate [' '] (b.present.map fun e => renderEntry e.1 e.2.toList)) := by
  rw [render, present, List.map_filterMap]
  simp only [Option.map_map, Function.comp_def]

theorem spelledOut_intercalate {es : List (Direction × String)} (h : es ≠ []) :
    SpelledOut es (List.intercalate [' '] (es.map fun e => renderEntry e.1 e.2.toList)) := by
  induction es with
  | nil => exact absurd rfl h
  | cons e es ih =>
    obtain ⟨dir, address⟩ := e
    cases es with
    | nil => simpa using SpelledOut.single dir address
    | cons e' es =>
      have hg : ∀ c ∈ [' '], isSeparator c = true := List.all_eq_true.mp (by decide)
      have hw := SpelledOut.cons dir address (List.cons_ne_nil _ _) hg (ih (List.cons_ne_nil _ _))
      simpa [List.intercalate, List.intersperse] using hw

theorem SpelledOut.parse {es : List (Direction × String)} {s : List Char} (h : SpelledOut es s)
    (ha : ∀ e ∈ es, Sealed e.2.toList) :
    parse (String.ofList s) = .ok (ofEntries (es.map fun e => (e.1, e.2.toList))) := by
  have ht := h.trim_eq (List.forall_mem_nil _) []
  have hv := h.isValidText (List.forall_mem_nil _)
  have he := h.entries_eq ha (List.forall_mem_nil _)
  simp only [List.nil_append, List.append_nil, List.reverse_nil, List.dropWhile_nil] at ht hv he
  rw [Binding.parse, String.toList_ofList, ht, if_pos hv, he]

theorem parse_render {b : Binding} (hp : b.present ≠ [])
    (ha : ∀ dir address, b.address dir = some address → Sealed address.toList) : parse b.render = .ok b := by
  have hs : ∀ e ∈ b.present, Sealed e.2.toList := fun e he => ha e.1 e.2 (mem_present.mp he)
  rw [render_eq, (spelledOut_intercalate hp).parse hs]
  congr 1
  apply eq_of_address
  intro dir
  rw [address_ofEntries, lookup_present]

theorem entries_of_parse {text : String} {b : Binding} (h : Binding.parse text = .ok b) :
    ∃ es : List (Direction × String), es ≠ [] ∧ (∀ e ∈ es, Sealed e.2.toList) ∧
      ∀ dir, b.address dir = es.reverse.lookup dir := by
  rw [Binding.parse] at h
  split at h
  case isFalse => cases h
  case isTrue hv =>
    cases h
    refine ⟨(entries (Text.trim text.toList)).map fun e => (e.1, String.ofList e.2), ?_, ?_, ?_⟩
    · simpa using (isValidText_iff.mp hv).entries_ne_nil
    · simp only [List.forall_mem_map, String.toList_ofList]
      exact fun e he => sealed_of_mem_entries he
    · intro dir
      rw [← address_ofEntries]
      simp only [List.map_map, Function.comp_def, String.toList_ofList, List.map_id']

/-- What is written for an accepted binding gives the same binding again. -/
theorem accepted_in_normal_form (text : String) :
    ((∃ b, parse text = .ok b) ↔ Shaped (Text.trim text.toList)) ∧
      (¬Shaped (Text.trim text.toList) → parse text = .error ⟨.binding, "bindingConfig '" ++
        Text.trimmed text ++ "' doesn't contain a valid binding configuration"⟩) ∧
      ∀ b, parse text = .ok b →
        (b.select.isSome = true ∨ b.update.isSome = true ∨ b.insert.isSome = true) ∧
          (∀ dir address, b.address dir = some address → Sealed address.toList) ∧ parse b.render = .ok b := by
  refine ⟨?_, ?_, ?_⟩
  · rw [← isValidText_iff, parse]
    split <;> simp_all
  · intro h
    rw [← isValidText_iff] at h
    rw [parse, if_neg h]
    rfl
  · intro b hb
    obtain ⟨es, hne, hs, hl⟩ := entries_of_parse hb
    have ha : ∀ dir address, b.address dir = some address → Sealed address.toList := by
      intro dir address h
      rw [hl, List.lookup_eq_some_iff] at h
      obtain ⟨before, after, he, -⟩ := h
      exact hs (dir, address) (List.mem_reverse.mp (by simp [he]))
    obtain ⟨e, he⟩ := List.exists_mem_of_ne_nil es hne
    obtain ⟨address, hd⟩ : ∃ address, b.address e.1 = some address := by
      rw [hl, ← Option.isSome_iff_exists, List.lookup_isSome_iff]
      exact ⟨e, List.mem_reverse.mpr he, beq_self_eq_true e.1⟩
    refine ⟨?_, ha, parse_render (List.ne_nil_of_mem (mem_present.mpr hd)) ha⟩
    generalize e.1 = dir at hd
    cases dir with
    | select => exact .inl (Option.isSome_of_eq_some hd)
    | update => exact .inr (.inl (Option.isSome_of_eq_some hd))
    | insert => exact .inr (.inr (Option.isSome_of_eq_some hd))

end ItemGateway.Binding
