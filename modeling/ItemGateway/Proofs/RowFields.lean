import ItemGateway.Proofs.PayloadFields

namespace ItemGateway

namespace Reading

theorem nameCells_eq_zip (index : Nat) {names : List String} {row : List Cell}
    (h : names.length ≤ row.length) :
    nameCells index names row = .ok (names.zip (row.map Cell.display)) := by
  induction names generalizing index row with
  | nil => rfl
  | cons name names ih =>
    cases row with
    | nil => simp at h
    | cons c row =>
      rw [nameCells, ih (index + 1) (Nat.le_of_succ_le_succ h)]
      rfl

theorem ofRow_of_two_le {names : List String} {row : List Cell} (h : names.length = row.length)
    (h2 : 2 ≤ names.length) : ofRow names row = .ok (.row (names.zip (row.map Cell.display))) := by
  obtain ⟨_, _, names, rfl⟩ : ∃ a b rest, names = a :: b :: rest := by
    match names, h2 with
    | a :: b :: rest, _ => exact ⟨a, b, rest, rfl⟩
  have hz := nameCells_eq_zip 0 h.le
  rw [ofRow, hz]
  · rfl
  all_goals simp

end Reading

/-- Under each name the text of the last column of that name is read back. -/
theorem row_read_back {cells : List (String × String)} (h : 2 ≤ cells.length)
    (hn : ∀ c ∈ cells, '=' ∉ c.1.toList ∧ '&' ∉ c.1.toList ∧ '\n' ∉ c.1.toList)
    (hv : ∀ c ∈ cells, '&' ∉ c.2.toList ∧ '\n' ∉ c.2.toList) :
    (∀ (names : List String) (row : List Cell), names = cells.map Prod.fst →
        row.map Cell.display = cells.map Prod.snd → Reading.ofRow names row = .ok (.row cells)) ∧
      ∃ raw, (Reading.row cells).value? = some raw ∧ (Payload.parse raw).isNamed = true ∧
        (Payload.parse raw).raw = raw ∧
          ∀ key, (Payload.parse raw).field? key = cells.reverse.lookup key := by
  constructor
  · rintro names row rfl hr
    have hl : row.length = cells.length := by simpa using congrArg List.length hr
    rw [Reading.ofRow_of_two_le (by simp [hl]) (by simpa using h), hr]
    congr 2
    exact (List.zip_of_prod rfl rfl).symm
  · obtain ⟨f, g, cells, rfl⟩ : ∃ f g rest, cells = f :: g :: rest := by
      match cells, h with
      | f :: g :: rest, _ => exact ⟨f, g, rest, rfl⟩
    have hf : ∀ c ∈ f :: g :: cells, Payload.IsField c :=
      fun c hc => ⟨(hn c hc).1, (hn c hc).2.1, (hv c hc).1⟩
    have hp := Payload.parse_intercalate hf (hv f (by simp)).2 (hn g (by simp)).2.2
    refine ⟨_, rfl, ?_, ?_, ?_⟩
    · rw [hp]
      rfl
    · rw [hp]
      rfl
    · intro key
      rw [hp]
      exact Payload.getElem?_collect _ key

theorem repeated_column_read_back :
    let cells := [("v", "x=1"), ("", ""), ("v", "2")]
    2 ≤ cells.length ∧ (∀ c ∈ cells, '=' ∉ c.1.toList ∧ '&' ∉ c.1.toList ∧ '\n' ∉ c.1.toList) ∧
      (∀ c ∈ cells, '&' ∉ c.2.toList ∧ '\n' ∉ c.2.toList) ∧
      (Payload.parse "v=x=1&=&v=2").field? "v" = some "2" ∧
      (Payload.parse "v=x=1&=&v=2").field? "" = some "" ∧ (Payload.parse "v=x=1&=&v=2").field? "x" = none := by
  intro cells
  have h : 2 ≤ cells.length := by decide
  have hn : ∀ c ∈ cells, '=' ∉ c.1.toList ∧ '&' ∉ c.1.toList ∧ '\n' ∉ c.1.toList := by decide
  have hv : ∀ c ∈ cells, '&' ∉ c.2.toList ∧ '\n' ∉ c.2.toList := by decide
  obtain ⟨-, raw, hr, -, -, hf⟩ := row_read_back h hn hv
  obtain rfl : "v=x=1&=&v=2" = raw := Option.some.inj hr
  exact ⟨h, hn, hv, hf "v", hf "", hf "x"⟩

end ItemGateway
