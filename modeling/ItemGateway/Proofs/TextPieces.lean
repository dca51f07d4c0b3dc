import ItemGateway.Text.Split
import Mathlib.Data.List.Infix

namespace ItemGateway.Text

inductive Pieces (sep : Char) : List Char → List (List Char) → Prop
  | whole {s : List Char} (h : sep ∉ s) : Pieces sep s [s]
  | cons {p s : List Char} {ps : List (List Char)} (h : sep ∉ p) (hs : Pieces sep s ps) :
      Pieces sep (p ++ sep :: s) (p :: ps)

theorem exists_pieces (sep : Char) (s : List Char) : ∃ ps, Pieces sep s ps := by
  by_cases h : sep ∈ s
  · obtain ⟨p, rest, rfl, hp⟩ := List.eq_append_cons_of_mem h
    obtain ⟨ps, hs⟩ := exists_pieces sep rest
    exact ⟨_, .cons hp hs⟩
  · exact ⟨_, .whole h⟩
termination_by s.length
decreasing_by
  subst_vars
  simp only [List.length_append, List.length_cons]
  omega

theorem infix_cut {sep : Char} {s before after : List Char} (h : sep ∉ s) :
    s <:+: before ++ sep :: after ↔ s <:+: before ∨ s <:+: after := by
  have empty {t : List Char} (ht : sep ∉ t) (hp : t <+: sep :: after) : t = [] := by
    rcases List.prefix_cons_iff.mp hp with rfl | ⟨u, rfl, -⟩
    · rfl
    · simp at ht
  rw [List.infix_append_iff, List.infix_cons_iff]
  constructor
  · rintro (hb | (hp | ha) | ⟨t, u, rfl, ht, hu⟩)
    · exact .inl hb
    · rw [empty h hp]
      exact .inl (List.nil_infix)
    · exact .inr ha
    · rw [empty (fun hm => h (List.mem_append_right t hm)) hu, List.append_nil]
      exact .inl ht.isInfix
  · exact Or.imp_right fun ha => .inl (.inr ha)

namespace Pieces

variable {sep : Char} {s : List Char} {ps : List (List Char)}

theorem splitOn_eq (h : Pieces sep s ps) : s.splitOn sep = ps := by
  induction h with
  | whole h => exact List.splitOn_eq_singleton h
  | cons h _ ih => rw [List.splitOn_append_cons_self_of_not_mem h, ih]

theorem intercalate_eq (h : Pieces sep s ps) : [sep].intercalate ps = s := by
  rw [← h.splitOn_eq, List.intercalate_splitOn]

theorem length_eq (h : Pieces sep s ps) : ps.length = s.count sep + 1 := by
  induction h with
  | whole h => rw [List.count_eq_zero.mpr h, List.length_singleton]
  | cons h _ ih => simp [List.count_eq_zero.mpr h, ih]

theorem not_mem (h : Pieces sep s ps) {p : List Char} (hp : p ∈ ps) : sep ∉ p := by
  induction h with
  | whole h =>
    obtain rfl := List.mem_singleton.mp hp
    exact h
  | cons h _ ih =>
    rcases List.mem_cons.mp hp with rfl | hp
    · exact h
    · exact ih hp

theorem infix_iff (h : Pieces sep s ps) {t : List Char} (ht : sep ∉ t) : t <:+: s ↔ ∃ p ∈ ps, t <:+: p := by
  induction h with
  | whole h => simp
  | cons h _ ih => rw [infix_cut ht, ih, List.exists_mem_cons_iff]

end Pieces

theorem pieces_iff {sep : Char} {s : List Char} {ps : List (List Char)} :
    Pieces sep s ps ↔ ps = s.splitOn sep := by
  constructor
  · exact fun h => h.splitOn_eq.symm
  · rintro rfl
    obtain ⟨ps, h⟩ := exists_pieces sep s
    rwa [h.splitOn_eq]

end ItemGateway.Text
