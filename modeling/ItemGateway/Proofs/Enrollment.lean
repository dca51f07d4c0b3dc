import ItemGateway.Proofs.AddressSplit
import ItemGateway.Proofs.ClosedLinks

namespace ItemGateway.Pool

variable {σ : Type}

def freshLink (p : Pool σ) (s : Server) : Link σ :=
  { server := s, driver := p.drivers[s.driver]? }

theorem get?_enroll (p : Pool σ) (s : Server) (id : String) :
    (p.enroll s).get? id = if s.id = id then some p.links.size else p.get? id := by
  simp [enroll, get?, Std.TreeMap.getElem?_insert]

theorem drivers_foldl_enroll (servers : List Server) (p : Pool σ) :
    (servers.foldl enroll p).drivers = p.drivers := by
  induction servers generalizing p with
  | nil => rfl
  | cons t servers ih => exact ih (p.enroll t)

theorem size_le_foldl_enroll (servers : List Server) (p : Pool σ) :
    p.links.size ≤ (servers.foldl enroll p).links.size := by
  induction servers generalizing p with
  | nil => exact Nat.le_refl _
  | cons t servers ih =>
    have ht : p.links.size ≤ (p.enroll t).links.size := by simp [enroll]
    exact ht.trans (ih (p.enroll t))

theorem link_foldl_enroll (servers : List Server) {p : Pool σ} {r : Ref} (h : r < p.links.size) :
    (servers.foldl enroll p).link r = p.link r := by
  induction servers generalizing p with
  | nil => rfl
  | cons t servers ih =>
    have ht : r < (p.enroll t).links.size := by
      rw [enroll, Array.size_push]
      exact Nat.lt_succ_of_lt h
    rw [List.foldl_cons, ih ht, link_enroll, if_neg (Nat.ne_of_lt h)]

theorem get?_foldl_enroll_of_ne {servers : List Server} {id : String} (h : ∀ t ∈ servers, t.id ≠ id)
    (p : Pool σ) : (servers.foldl enroll p).get? id = p.get? id := by
  induction servers generalizing p with
  | nil => rfl
  | cons t servers ih =>
    obtain ⟨ht, hs⟩ := List.forall_mem_cons.mp h
    rw [List.foldl_cons, ih hs, get?_enroll, if_neg ht]

theorem enroll_last (p : Pool σ) {s : Server} (before : List Server) {after : List Server}
    (h : ∀ t ∈ after, t.id ≠ s.id) :
    let q := (before ++ s :: after).foldl enroll p
    ∃ r, p.links.size ≤ r ∧ q.get? s.id = some r ∧ q.link r = p.freshLink s := by
  intro q
  let m := before.foldl enroll p
  have hq : q = after.foldl enroll (m.enroll s) := by simp [q, m, List.foldl_append]
  have hm : m.links.size < (m.enroll s).links.size := by simp [enroll]
  refine ⟨m.links.size, size_le_foldl_enroll before p, ?_, ?_⟩
  · rw [hq, get?_foldl_enroll_of_ne h, get?_enroll, if_pos rfl]
  · rw [hq, link_foldl_enroll after hm, link_enroll, if_pos rfl, freshLink, drivers_foldl_enroll]

theorem get?_retireEach (order : List Ref) (p : Pool σ) (id : String) :
    (order.foldl retire p).get? id = p.get? id := by
  induction order generalizing p with
  | nil => rfl
  | cons r order ih => exact (ih _).trans rfl

theorem size_retireEach (order : List Ref) (p : Pool σ) :
    (order.foldl retire p).links.size = p.links.size := by
  induction order generalizing p with
  | nil => rfl
  | cons r order ih => exact (ih _).trans (p.size_on r _)

theorem link_retireEach (order : List Ref) (p : Pool σ) (s : Ref) :
    (order.foldl retire p).link s = if s ∈ order then (p.link s).closed else p.link s := by
  induction order generalizing p with
  | nil => rfl
  | cons r order ih =>
    simp only [List.foldl_cons, ih, retire, link_release, List.mem_cons]
    by_cases hr : s = r <;> by_cases ho : s ∈ order <;> simp [hr, ho]

theorem replaceIn_last (p : Pool σ) (order : List Ref) {s : Server} {before after : List Server}
    (h : ∀ t ∈ after, t.id ≠ s.id) :
    let q := p.replaceIn order (before ++ s :: after)
    ∃ r, p.links.size ≤ r ∧ q.get? s.id = some r ∧ q.link r = p.freshLink s := by
  intro q
  obtain ⟨r, hr, hg, hl⟩ := enroll_last { p with names := ∅ } before h
  refine ⟨r, hr, ?_, ?_⟩
  · rw [← hg]
    exact get?_retireEach order _ s.id
  · have hq : q.link r = _ := link_retireEach order _ r
    rw [hq, hl]
    split <;> rfl

theorem resolve_append {id : String} (h : Address.IsId id.toList) (p : Pool σ) (template : String) :
    p.resolve (id ++ ":" ++ template) = ⟨id, template, p.get? id⟩ := by
  rw [resolve, Address.parse_append h]
  rfl

theorem isId_resolve (p : Pool σ) (address : String) : Address.IsId (p.resolve address).server.toList := by
  rcases Address.parse_cases address with ⟨id, template, hi, -, hp⟩ | ⟨-, hp⟩
  · rw [resolve, hp]
    exact hi
  · rw [resolve, hp]
    simp [Address.target, Address.IsId, Address.isQuote, defaultServer]

end ItemGateway.Pool
