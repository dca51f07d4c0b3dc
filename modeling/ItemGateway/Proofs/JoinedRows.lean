import ItemGateway.Proofs.RowFields

namespace ItemGateway.Reading

def mark (name : String) : List Char :=
  '&' :: (name.toList ++ ['='])

def rest : List (String × String) → List Char
  | [] => []
  | c :: cells => mark c.1 ++ (c.2.toList ++ rest cells)

theorem value?_row (c : String × String) (cells : List (String × String)) :
    (row (c :: cells)).value? = some (String.ofList (c.1.toList ++ '=' :: (c.2.toList ++ rest cells))) := by
  rw [value?, Option.some.injEq, ← String.toList_inj, String.toList_ofList]
  induction cells generalizing c with
  | nil => simp [rest, Payload.toList_field]
  | cons d cells ih =>
    have hd := ih d
    simp only [String.toList_intercalate, List.map_cons] at hd ⊢
    rw [List.intercalate_cons_cons, hd]
    simp [rest, mark, Payload.toList_field]

/-- The cell runs on past the mark in front of the next column. -/
inductive RunsOver : List (String × String) → List (String × String) → Prop
  | here {name next text more other other' : String} {cells cells' : List (String × String)} (hm : more ≠ "")
      (hp : mark next <+: more.toList ++ mark next) :
      RunsOver ((name, text) :: (next, other) :: cells) ((name, text ++ more) :: (next, other') :: cells')
  | there {cells cells' : List (String × String)} (c : String × String) (h : RunsOver cells cells') :
      RunsOver (c :: cells) (c :: cells')

variable {cells cells' : List (String × String)}

theorem runsOver_of_append {name text text' : String} {more : List Char}
    (hn : cells.map Prod.fst = cells'.map Prod.fst) (ht : text'.toList = text.toList ++ more)
    (hr : rest cells = more ++ rest cells') (hm : more ≠ []) :
    RunsOver ((name, text) :: cells) ((name, text') :: cells') := by
  obtain rfl : text' = text ++ String.ofList more := by
    rw [← String.toList_inj, ht]
    simp
  cases cells with
  | nil => exact absurd (List.append_eq_nil_iff.mp hr.symm).1 hm
  | cons c cells =>
    cases cells' with
    | nil => simp at hn
    | cons d cells' =>
      obtain ⟨next, other⟩ := c
      obtain ⟨next', other'⟩ := d
      obtain rfl : next = next' := (List.cons.inj hn).1
      refine .here (fun he => hm (by simpa using he)) ?_
      rw [String.toList_ofList]
      -- Both stand at the beginning of what follows the shorter text.
      have hs : mark next <+: rest ((next, other) :: cells) := List.prefix_append _ _
      have hl : more ++ mark next <+: rest ((next, other) :: cells) := by
        rw [hr, rest, ← List.append_assoc]
        exact List.prefix_append _ _
      exact List.prefix_of_prefix_length_le hs hl (by simp)

theorem runsOver_of_ne {name text text' : String} (hn : cells.map Prod.fst = cells'.map Prod.fst)
    (h : text.toList ++ rest cells = text'.toList ++ rest cells') (hx : text ≠ text') :
    RunsOver ((name, text) :: cells) ((name, text') :: cells') ∨
      RunsOver ((name, text') :: cells') ((name, text) :: cells) := by
  have hm {s t : String} {more : List Char} (ht : s.toList = t.toList ++ more) (hs : s ≠ t) : more ≠ [] := by
    rintro rfl
    exact hs (by rw [← String.toList_inj, ht, List.append_nil])
  rcases List.append_eq_append_iff.mp h with ⟨more, ht, hr⟩ | ⟨more, ht, hr⟩
  · exact .inl (runsOver_of_append hn ht hr (hm ht hx.symm))
  · exact .inr (runsOver_of_append hn.symm ht hr (hm ht hx))

theorem eq_or_runsOver {name text text' : String} (hn : cells.map Prod.fst = cells'.map Prod.fst)
    (h : text.toList ++ rest cells = text'.toList ++ rest cells') :
    (name, text) :: cells = (name, text') :: cells' ∨
      RunsOver ((name, text) :: cells) ((name, text') :: cells') ∨
      RunsOver ((name, text') :: cells') ((name, text) :: cells) := by
  -- The induction stops at the first cell that differs, where `runsOver_of_ne` tells how it does.
  induction cells generalizing name text text' cells' with
  | nil =>
    obtain rfl : cells' = [] := List.map_eq_nil_iff.mp hn.symm
    left
    rw [List.append_cancel_right_eq, String.toList_inj] at h
    rw [h]
  | cons c cells ih =>
    by_cases hx : text = text'
    · subst hx
      cases cells' with
      | nil => simp at hn
      | cons d cells' =>
        obtain ⟨next, other⟩ := c
        obtain ⟨next', other'⟩ := d
        obtain ⟨hd, htl⟩ := List.cons.inj hn
        obtain rfl : next = next' := hd
        rcases ih htl (List.append_cancel_left (List.append_cancel_left h)) with he | hr | hr
        · rw [he]
          exact .inl rfl
        · exact .inr (.inl (hr.there _))
        · exact .inr (.inr (hr.there _))
    · exact .inr (runsOver_of_ne hn h hx)

theorem eq_or_runsOver_of_value? (hn : cells.map Prod.fst = cells'.map Prod.fst)
    (hv : (row cells).value? = (row cells').value?) :
    cells = cells' ∨ RunsOver cells cells' ∨ RunsOver cells' cells := by
  cases cells with
  | nil => exact .inl (List.map_eq_nil_iff.mp hn.symm).symm
  | cons c cells =>
    cases cells' with
    | nil => simp at hn
    | cons d cells' =>
      obtain ⟨name, text⟩ := c
      obtain ⟨name', text'⟩ := d
      obtain ⟨hd, htl⟩ := List.cons.inj hn
      obtain rfl : name = name' := hd
      rw [value?_row, value?_row, Option.some.injEq, String.ofList_inj] at hv
      exact eq_or_runsOver htl (List.cons.inj (List.append_cancel_left hv)).2

theorem RunsOver.ampersand (h : RunsOver cells cells') : ∃ c ∈ cells'.dropLast, '&' ∈ c.2.toList := by
  induction h with
  | @here name next text more other other' cells cells' hm hp =>
    refine ⟨(name, text ++ more), by simp, ?_⟩
    obtain ⟨c, tail, hc⟩ := List.exists_cons_of_ne_nil (fun he => hm (String.toList_eq_nil_iff.mp he))
    rw [hc, mark, List.cons_append, List.cons_prefix_cons] at hp
    rw [String.toList_append, hc, ← hp.1]
    simp
  | @there cells cells' d hr ih =>
    obtain ⟨c, hc, ha⟩ := ih
    have hne : cells' ≠ [] := by
      rintro rfl
      simp at hc
    refine ⟨c, ?_, ha⟩
    rw [List.dropLast_cons_of_ne_nil hne]
    exact List.mem_cons_of_mem d hc

end ItemGateway.Reading
