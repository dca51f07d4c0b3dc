import ItemGateway.Server
import Mathlib.Data.List.TakeWhile

namespace ItemGateway

theorem Text.trimmed_eq_empty_iff (s : String) : Text.trimmed s = "" ↔ Text.allBlank s = true := by
  have hl : Text.trimmed s = "" ↔ Text.trim s.toList = [] := by
    rw [← String.toList_eq_nil_iff, Text.trimmed, String.toList_ofList]
  rw [hl, Text.trim, Text.allBlank, List.reverse_eq_nil_iff, List.dropWhile_eq_nil_iff, List.all_eq_true]
  constructor
  · intro h c hc
    by_cases hb : Text.isBlank c = true
    · exact hb
    · have hd : s.toList.dropWhile Text.isBlank ≠ [] := by
        rw [Ne, List.dropWhile_eq_nil_iff]
        exact fun ha => hb (ha c hc)
      have hh := List.head_dropWhile_not Text.isBlank hd
      rw [h _ (List.mem_reverse.mpr (List.head_mem hd))] at hh
      exact absurd hh (by simp)
  · intro h c hc
    exact h c ((List.dropWhile_sublist _).mem (List.mem_reverse.mp hc))

theorem Server.isComplete_iff (s : Server) :
    s.isComplete = true ↔
      Text.trimmed s.url ≠ "" ∧ Text.trimmed s.user ≠ "" ∧ Text.trimmed s.password ≠ "" := by
  simp only [Server.isComplete, Server.missing, List.isEmpty_iff, List.map_eq_nil_iff,
    List.filter_eq_nil_iff, List.forall_mem_cons, ne_eq, Text.trimmed_eq_empty_iff]
  simp

end ItemGateway
