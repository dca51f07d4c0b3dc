import ItemGateway.Proofs.TextPieces
import ItemGateway.Statement

namespace ItemGateway.Template

theorem fillMarks_nil (t : List Char) : fillMarks [] t = t := by
  rw [fillMarks]

theorem fillMarks_whole {p : List Char} (h : '?' ∉ p) (fills : List (List Char)) : fillMarks fills p = p := by
  induction p with
  | nil => cases fills <;> rfl
  | cons c p ih =>
    obtain ⟨hc, hp⟩ := List.ne_and_not_mem_of_not_mem_cons h
    cases fills with
    | nil => rfl
    | cons x fills => rw [fillMarks, if_neg (Ne.symm hc), ih hp]

theorem fillMarks_cons {p : List Char} (h : '?' ∉ p) (x : List Char) (fills : List (List Char))
    (t : List Char) : fillMarks (x :: fills) (p ++ '?' :: t) = p ++ x ++ fillMarks fills t := by
  induction p with
  | nil => simp [fillMarks]
  | cons c p ih =>
    obtain ⟨hc, hp⟩ := List.ne_and_not_mem_of_not_mem_cons h
    rw [List.cons_append, fillMarks, if_neg (Ne.symm hc), ih hp]
    rfl

def fillGaps (value time : List Char) : List (List Char) → List Char
  | [] => []
  | [p] => p
  | [p, q] => p ++ value ++ q
  | p :: q :: r :: ps => p ++ value ++ q ++ time ++ ['?'].intercalate (r :: ps)

theorem fillMarks_pieces {t : List Char} {ps : List (List Char)} (h : Text.Pieces '?' t ps)
    (value time : List Char) : fillMarks [value, time] t = fillGaps value time ps := by
  cases h with
  | whole h => exact fillMarks_whole h _
  | cons hp h =>
    rw [fillMarks_cons hp]
    cases h with
    | whole h => rw [fillMarks_whole h, fillGaps]
    | @cons q t ps hq h =>
      rw [fillMarks_cons hq, fillMarks_nil, ← h.intercalate_eq]
      cases h <;> simp [fillGaps]

theorem count_fillMarks (c : Char) (fills : List (List Char)) (t : List Char) :
    (fillMarks fills t).count c + (if c = '?' then min fills.length (t.count '?') else 0) =
      t.count c + ((fills.take (t.count '?')).flatten).count c := by
  fun_induction fillMarks fills t with
  | case1 t => simp
  | case2 fills _ => simp
  | case3 x fills t ih =>
    rw [List.count_cons_self, List.take_succ_cons, List.flatten_cons, List.count_append, List.count_append,
      List.length_cons]
    by_cases hc : c = '?'
    · subst hc
      simp only [if_true, List.count_cons_self] at ih ⊢
      omega
    · simp only [hc, if_false, List.count_cons_of_ne (Ne.symm hc)] at ih ⊢
      omega
  | case4 x fills d t hd ih =>
    rw [List.count_cons_of_ne hd, List.count_cons, List.count_cons]
    omega

/-- The first two question marks are filled, and nothing else of the template changes. -/
theorem insert_fills_two_marks (template value time : String) :
    let n := template.toList.count '?'
    let quoted := '\'' :: (time.toList ++ ['\''])
    let filled := (fillInsert template value time).toList
    let written := ([value.toList, quoted].take n).flatten
    ∃ pieces, (∀ ps, Text.Pieces '?' template.toList ps ↔ ps = pieces) ∧ pieces.length = n + 1 ∧
      filled = fillGaps value.toList quoted pieces ∧
      filled.count '?' = n - 2 + written.count '?' ∧
      ∀ c, c ≠ '?' → filled.count c = template.toList.count c + written.count c := by
  intro n quoted filled written
  have hp := Text.pieces_iff.mpr (rfl : template.toList.splitOn '?' = _)
  have hf : filled = fillMarks [value.toList, quoted] template.toList := String.toList_ofList
  have hc (c : Char) := count_fillMarks c [value.toList, quoted] template.toList
  refine ⟨_, fun _ => Text.pieces_iff, hp.length_eq, ?_, ?_, ?_⟩
  · rw [hf, fillMarks_pieces hp]
  · have hq := hc '?'
    rw [← hf, if_pos rfl] at hq
    change filled.count '?' + min 2 n = n + written.count '?' at hq
    omega
  · intro c hne
    have hq := hc c
    rw [← hf, if_neg hne, Nat.add_zero] at hq
    exact hq

example : fillInsert "?é??" "a?" "t" = "a?é't'?" := by decide

end ItemGateway.Template
