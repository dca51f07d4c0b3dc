namespace ItemGateway.Text

def cut (sep : Char) : List Char → Option (List Char × List Char)
  | [] => none
  | c :: s =>
    if c = sep then some ([], s)
    else (cut sep s).map fun (before, after) => (c :: before, after)

theorem cut_append {sep : Char} {before : List Char} (h : sep ∉ before) (after : List Char) :
    cut sep (before ++ sep :: after) = some (before, after) := by
  induction before with
  | nil => simp [cut]
  | cons c s ih =>
    have hc : ¬c = sep := fun e => h (by simp [e])
    simp [cut, hc, ih (fun m => h (List.mem_cons_of_mem c m))]

theorem cut_eq_none_iff {sep : Char} {s : List Char} : cut sep s = none ↔ sep ∉ s := by
  induction s with
  | nil => simp [cut]
  | cons c s ih =>
    by_cases hc : c = sep
    · simp [cut, hc]
    · simp [cut, hc, ih, Ne.symm hc]

theorem eq_append_of_cut {sep : Char} {s before after : List Char}
    (h : cut sep s = some (before, after)) : s = before ++ sep :: after ∧ sep ∉ before := by
  induction s generalizing before after with
  | nil => simp [cut] at h
  | cons c s ih =>
    by_cases hc : c = sep
    · simp only [cut, hc, if_true, Option.some.injEq, Prod.mk.injEq] at h
      obtain ⟨rfl, rfl⟩ := h
      simp [hc]
    · simp only [cut, hc, if_false, Option.map_eq_some_iff, Prod.mk.injEq, Prod.exists] at h
      obtain ⟨b, a, hs, rfl, rfl⟩ := h
      obtain ⟨rfl, hb⟩ := ih hs
      exact ⟨rfl, by simp [hb, Ne.symm hc]⟩

end ItemGateway.Text
