import ItemGateway.Payload
import ItemGateway.Proofs.TextPieces

namespace ItemGateway.Payload

def shape (key value : List Char) : List Char :=
  '=' :: (key ++ '&' :: (value ++ ['=']))

theorem dropWhile_append_cons (sep : Char) (before after : List Char) :
    ∃ rest, (before ++ sep :: after).dropWhile (· ≠ sep) = rest ++ sep :: after := by
  rw [List.dropWhile_append]
  split
  · exact ⟨[], by simp⟩
  · exact ⟨_, rfl⟩

theorem eq_append_of_mem_dropWhile {sep c : Char} {s : List Char} (h : c ∈ s.dropWhile (· ≠ sep)) :
    ∃ before after, s = before ++ sep :: after ∧ s.dropWhile (· ≠ sep) = sep :: after := by
  have hne : s.dropWhile (· ≠ sep) ≠ [] := List.ne_nil_of_mem h
  have hh := List.head_dropWhile_not (· ≠ sep) hne
  obtain ⟨d, after, hd⟩ := List.exists_cons_of_ne_nil hne
  obtain rfl : d = sep := by
    simp only [hd, List.head_cons] at hh
    simpa using hh
  refine ⟨s.takeWhile (· ≠ d), after, ?_, hd⟩
  rw [← hd, List.takeWhile_append_dropWhile]

theorem looksNamed_iff (line : List Char) :
    looksNamed line = true ↔ ∃ key value, shape key value <:+: line := by
  rw [looksNamed, List.contains_iff_mem]
  constructor
  · intro h
    obtain ⟨front, rest, hr, hd⟩ := eq_append_of_mem_dropWhile h
    obtain ⟨before, after, ha, he⟩ := eq_append_of_mem_dropWhile (hr ▸ List.mem_append_right front List.mem_cons_self)
    rw [hd, List.mem_cons] at h
    obtain ⟨value, post, rfl⟩ := List.mem_iff_append.mp (h.resolve_left (by decide))
    rw [he, List.cons_eq_append_iff] at hr
    obtain ⟨-, hr⟩ | ⟨key, -, hr⟩ := hr
    · simp at hr
    · exact ⟨key, value, before, post, by simp [shape, ha, hr]⟩
  · rintro ⟨key, value, before, post, rfl⟩
    have hs : before ++ shape key value ++ post =
        before ++ '=' :: (key ++ '&' :: (value ++ '=' :: post)) := by simp [shape]
    obtain ⟨front, hf⟩ := dropWhile_append_cons '=' before (key ++ '&' :: (value ++ '=' :: post))
    obtain ⟨rest, hr⟩ := dropWhile_append_cons '&' (front ++ '=' :: key) (value ++ '=' :: post)
    rw [List.append_assoc, List.cons_append] at hr
    rw [hs, hf, hr]
    simp

theorem isNamedText_iff (s : List Char) :
    isNamedText s = true ↔ ∃ key value, '\n' ∉ key ∧ '\n' ∉ value ∧ shape key value <:+: s := by
  have hm {key value : List Char} : '\n' ∉ shape key value ↔ '\n' ∉ key ∧ '\n' ∉ value := by
    simp [shape]
  obtain ⟨lines, h⟩ := Text.exists_pieces '\n' s
  rw [isNamedText, h.splitOn_eq, List.any_eq_true]
  simp only [looksNamed_iff]
  constructor
  · rintro ⟨line, hl, key, value, hi⟩
    have hn : '\n' ∉ shape key value := fun hn => h.not_mem hl (hi.subset hn)
    obtain ⟨hk, hv⟩ := hm.mp hn
    exact ⟨key, value, hk, hv, (h.infix_iff hn).mpr ⟨line, hl, hi⟩⟩
  · rintro ⟨key, value, hk, hv, hi⟩
    obtain ⟨line, hl, hi⟩ := (h.infix_iff (hm.mpr ⟨hk, hv⟩)).mp hi
    exact ⟨line, hl, key, value, hi⟩

end ItemGateway.Payload
