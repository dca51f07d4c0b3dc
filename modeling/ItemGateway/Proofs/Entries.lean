import Std.Data.TreeMap.Lemmas

namespace ItemGateway

variable {β : Type} {entries : List (String × β)} {key : String} {value : β}

theorem lookup_reverse_eq_some_iff :
    entries.reverse.lookup key = some value ↔
      ∃ before after, entries = before ++ (key, value) :: after ∧ ∀ e ∈ after, key ≠ e.1 := by
  rw [List.lookup_eq_some_iff]
  constructor
  · rintro ⟨front, back, he, hf⟩
    refine ⟨back.reverse, front.reverse, ?_, ?_⟩
    · rw [← List.reverse_reverse entries, he]
      simp
    · exact fun e hm => bne_iff_ne.mp (hf e (List.mem_reverse.mp hm))
  · rintro ⟨before, after, rfl, ha⟩
    exact ⟨after.reverse, before.reverse, by simp, fun e hm => bne_iff_ne.mpr (ha e (List.mem_reverse.mp hm))⟩

theorem lookup_reverse_eq_some_iff_mem (h : entries.Pairwise fun a b => a.1 ≠ b.1) :
    entries.reverse.lookup key = some value ↔ (key, value) ∈ entries := by
  rw [lookup_reverse_eq_some_iff]
  constructor
  · rintro ⟨before, after, rfl, -⟩
    exact List.mem_append_right before List.mem_cons_self
  · intro hm
    obtain ⟨before, after, rfl⟩ := List.append_of_mem hm
    rw [List.pairwise_append, List.pairwise_cons] at h
    exact ⟨before, after, rfl, h.2.1.1⟩

theorem lookup_reverse_concat (entries : List (String × β)) (k : String) (value : β) (key : String) :
    (entries ++ [(k, value)]).reverse.lookup key = if key = k then some value else entries.reverse.lookup key := by
  rw [List.reverse_append, List.reverse_singleton, List.singleton_append, List.lookup_cons]
  by_cases hk : key = k
  · simp [hk]
  · simp [hk, beq_eq_false_iff_ne.mpr hk]

theorem get_foldl_put {σ κ ν : Type} [BEq κ] (get : σ → κ → Option ν) (put : σ → κ × ν → σ)
    (h : ∀ s e key, get (put s e) key = if key == e.1 then some e.2 else get s key)
    (entries : List (κ × ν)) (s : σ) (key : κ) :
    get (entries.foldl put s) key = (entries.reverse.lookup key).or (get s key) := by
  induction entries generalizing s with
  | nil => rfl
  | cons e entries ih =>
    rw [List.foldl_cons, ih, h, List.reverse_cons, List.lookup_append, Option.or_assoc, List.lookup_cons]
    cases key == e.1 <;> rfl

theorem getElem?_foldl_insert (entries : List (String × β)) (m : Std.TreeMap String β) (key : String) :
    (entries.foldl (fun m e => m.insert e.1 e.2) m)[key]? = (entries.reverse.lookup key).or m[key]? := by
  have h (m : Std.TreeMap String β) (e : String × β) (k : String) :
      (m.insert e.1 e.2)[k]? = if k == e.1 then some e.2 else m[k]? := by
    simp only [Std.TreeMap.getElem?_insert, Std.compare_eq_iff_eq, beq_iff_eq, eq_comm (a := k)]
  exact get_foldl_put (fun m k => m[k]?) (fun m e => m.insert e.1 e.2) h entries m key

theorem values_eq_map_toList {α : Type} [Ord α] (m : Std.TreeMap α β) :
    m.values = m.toList.map Prod.snd := by
  have h : m.values = m.foldr (fun _ v vs => v :: vs) [] := rfl
  rw [h, Std.TreeMap.foldr_eq_foldr_toList, List.map_eq_foldr]

theorem keys_increasing (m : Std.TreeMap String β) : m.keys.Pairwise (· < ·) :=
  (Std.TreeMap.ordered_keys (t := m)).imp fun h => compareOfLessAndEq_eq_lt.mp h

theorem toList_distinct (m : Std.TreeMap String β) : m.toList.Pairwise fun a b => a.1 ≠ b.1 :=
  Std.TreeMap.distinct_keys_toList.imp fun h he => h (Std.compare_eq_iff_eq.mpr he)

theorem lookup_reverse_toList (m : Std.TreeMap String β) (key : String) :
    m.toList.reverse.lookup key = m[key]? := by
  ext value
  rw [lookup_reverse_eq_some_iff_mem (toList_distinct m), Std.TreeMap.mem_toList_iff_getElem?_eq_some]

end ItemGateway
