import ItemGateway.Proofs.PoolInvariant

namespace ItemGateway

namespace Pool

variable {σ α : Type}

theorem mem_ids_iff (p : Pool σ) (id : String) : id ∈ p.ids ↔ (p.get? id).isSome = true := by
  rw [ids, get?, Std.TreeMap.mem_keys, Std.TreeMap.mem_iff_isSome_getElem?]

theorem Sound.refs_nodup {drivers : Std.TreeMap String (Driver σ)} {p : Pool σ} (h : Sound drivers p) :
    p.refs.Nodup := by
  rw [refs, values_eq_map_toList, List.nodup_iff_pairwise_ne, List.pairwise_map]
  apply Std.TreeMap.distinct_keys_toList.imp_of_mem
  intro a b ha hb hc he
  have hn {c : String × Ref} (hm : c ∈ p.names.toList) : (p.link c.2).server.id = c.1 :=
    (h.named c.1 c.2 (Std.TreeMap.mem_toList_iff_getElem?_eq_some.mp hm)).2
  apply hc
  rw [← hn ha, ← hn hb, he]
  exact Std.ReflCmp.compare_self

theorem Sound.ids_eq_map_refs {drivers : Std.TreeMap String (Driver σ)} {p : Pool σ} (h : Sound drivers p) :
    p.ids = p.refs.map fun r => (p.link r).server.id := by
  rw [refs, values_eq_map_toList, List.map_map, ids, ← Std.TreeMap.map_fst_toList_eq_keys]
  apply List.map_congr_left
  rintro ⟨id, r⟩ hr
  exact (h.named id r (Std.TreeMap.mem_toList_iff_getElem?_eq_some.mp hr)).2.symm

theorem engine_closeEach (order : List Ref) (p : Pool σ) : (closeEach order p).2.engine = p.engine := by
  induction order generalizing p with
  | nil => rfl
  | cons r order ih => exact (ih _).trans rfl

theorem engine_perform (p : Pool σ) (a : Action σ) : (p.perform a).engine = p.engine :=
  perform_induction (motive := fun q => q.engine = p.engine) rfl (fun _ _ _ _ _ h => h) (fun _ _ h => h) rfl

theorem engine_run (p : Pool σ) (actions : List (Action σ)) : (p.run actions).engine = p.engine := by
  induction actions generalizing p with
  | nil => rfl
  | cons a actions ih => exact (ih _).trans (p.engine_perform a)

end Pool

end ItemGateway
