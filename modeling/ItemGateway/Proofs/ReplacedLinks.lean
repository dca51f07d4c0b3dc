import ItemGateway.Proofs.DispatchFrame
import ItemGateway.Proofs.Enrollment
import Mathlib.Data.List.Nodup

/-!
Giving a pool other servers. The links in whose place they come are closed unless they are broken. No id ever
leads to them again, so that from then on only a caller who kept one of them can use it.
-/

namespace ItemGateway

variable {σ α : Type}

theorem Link.trail_release (e : Engine σ) (r : Ref) (l : Link σ) (w : World σ) :
    (l.release e r w).2.2.trail = (if l.isOpen then [.closed r] else []) ++ w.trail := by
  have h := released e r l w
  generalize (l.release e r w).1 = a, (l.release e r w).2.1 = l', (l.release e r w).2.2 = w' at h
  cases h with
  | broken hb => simp [isOpen, hb]
  | refused hb hl | closed hb hl =>
    rw [if_pos (by simp [isOpen, hb, hl])]
    rfl
  | idle hb hl => simp [isOpen, hl]

namespace Pool

structure Retired (r : Ref) (l : Link σ) (p : Pool σ) : Prop where
  made : r < p.links.size
  unnamed : ∀ id, p.get? id ≠ some r
  server : (p.link r).server = l.server
  driver : (p.link r).driver = l.driver

namespace Retired

variable {r : Ref} {l : Link σ} {p : Pool σ}

theorem on (h : Retired r l p) (s : Ref) {f : Link σ → World σ → α × Link σ × World σ}
    (hf : ∀ l w, Link.Move s l (f l w).2.1 w (f l w).2.2) : Retired r l (p.on s f).2 := by
  have hk := p.keeps_on (hf (p.link s) p.world) r
  exact ⟨by rw [size_on]; exact h.made, h.unnamed, hk.server.trans h.server, hk.driver.trans h.driver⟩

theorem enroll (h : Retired r l p) (s : Server) : Retired r l (p.enroll s) := by
  have hne : r ≠ p.links.size := Nat.ne_of_lt h.made
  have hl : (p.enroll s).link r = p.link r := by rw [link_enroll, if_neg hne]
  refine ⟨?_, ?_, by rw [hl, h.server], by rw [hl, h.driver]⟩
  · rw [Pool.enroll, Array.size_push]
    exact Nat.lt_succ_of_lt h.made
  · intro id hid
    rw [get?_enroll] at hid
    split at hid
    · exact hne (Option.some.inj hid).symm
    · exact h.unnamed id hid

theorem perform (h : Retired r l p) (a : Action σ) : Retired r l (p.perform a) :=
  perform_induction h (fun _ s _ _ ho hq => hq.on s (ho.move fun _ => Action.Lends.works))
    (fun _ s hq => hq.enroll s)
    ⟨h.made, by simp [get?], h.server, h.driver⟩

theorem run (h : Retired r l p) (actions : List (Action σ)) : Retired r l (p.run actions) :=
  List.foldlRecOn actions Pool.perform h fun _ hq a _ => hq.perform a

end Retired

theorem link_perform {p : Pool σ} {a : Action σ} {r : Ref} (hr : r < p.links.size) (h : ¬p.Reaches a r) :
    (p.perform a).link r = p.link r := by
  suffices hq : r < (p.perform a).links.size ∧ (p.perform a).link r = p.link r from hq.2
  apply perform_induction (motive := fun q => r < q.links.size ∧ q.link r = p.link r)
  · exact ⟨hr, rfl⟩
  · intro α q s f hs _ hq
    have hne : r ≠ s := by
      rintro rfl
      exact h hs
    rw [size_on, link_on_of_ne _ hne]
    exact hq
  · intro q s hq
    rw [link_enroll, if_neg (Nat.ne_of_lt hq.1), Pool.enroll, Array.size_push]
    exact ⟨Nat.lt_succ_of_lt hq.1, hq.2⟩
  · exact ⟨hr, rfl⟩

/-- What a caller has who kept the link `r` when it was `l`. It is opened for the server of `l` by the driver
of `l`, and nobody else uses it. -/
structure Kept (r : Ref) (l : Link σ) (p : Pool σ) : Prop where
  unnamed : ∀ id, p.get? id ≠ some r
  untouched : ∀ a : Action σ, a.link? ≠ some r → (p.perform a).link r = p.link r
  acquires : Link.Acquired r { l with live := (p.link r).live, broken := (p.link r).broken } p.world
    (p.acquire r).1 ((p.acquire r).2.link r) (p.acquire r).2.world
  uses : ∀ {α : Type} (f : World σ → Except Fault α × World σ),
    let a := (p.acquire r).2
    (∀ e, (p.acquire r).1 = .error e → p.use r f = (.error e, a)) ∧
      ((p.acquire r).1 = .ok () → p.use r f = ((f a.world).1, { a with world := (f a.world).2 }))

theorem Retired.kept {r : Ref} {l : Link σ} {p : Pool σ} (h : Retired r l p) : Kept r l p where
  unnamed := h.unnamed
  untouched := by
    intro a ha
    apply link_perform h.made
    rintro (hr | ⟨id, hid⟩)
    · exact ha hr
    · exact h.unnamed id hid
  acquires := by
    have hl : { l with live := (p.link r).live, broken := (p.link r).broken } = p.link r := by
      rw [← h.server, ← h.driver]
    rw [hl, acquire, p.link_on_of_lt h.made]
    exact Link.acquired r (p.link r) p.world
  uses := fun f => ⟨fun _ he => use_of_error he f, fun hok => use_of_ok hok f⟩

def supplant (order : List Ref) (servers : List Server) (p : Pool σ) : Pool σ :=
  order.foldl retire (servers.foldl enroll p)

theorem replaceIn_eq_supplant (order : List Ref) (p : Pool σ) (servers : List Server) :
    p.replaceIn order servers = supplant order servers { p with names := ∅ } := rfl

theorem register_eq_supplant (p : Pool σ) (s : Server) :
    p.register s = supplant (p.get? s.id).toList [s] p := by
  rw [register, get?]
  split <;> next h =>
    rw [h]
    rfl

theorem world_foldl_enroll (servers : List Server) (p : Pool σ) :
    (servers.foldl enroll p).world = p.world := by
  induction servers generalizing p with
  | nil => rfl
  | cons t servers ih => exact ih (p.enroll t)

theorem last_or_absent (servers : List Server) (id : String) :
    (∃ before s after, servers = before ++ s :: after ∧ s.id = id ∧ ∀ t ∈ after, t.id ≠ id) ∨
      ∀ t ∈ servers, t.id ≠ id := by
  induction servers with
  | nil => exact .inr (by simp)
  | cons t servers ih =>
    rcases ih with ⟨before, s, after, rfl, hs, ha⟩ | hn
    · exact .inl ⟨t :: before, s, after, rfl, hs, ha⟩
    · by_cases ht : t.id = id
      · exact .inl ⟨[], t, servers, rfl, ht, hn⟩
      · exact .inr (List.forall_mem_cons.mpr ⟨ht, hn⟩)

theorem get?_supplant (order : List Ref) (servers : List Server) (p : Pool σ) (id : String) :
    (∃ s ∈ servers, s.id = id) ∧ (∃ r, p.links.size ≤ r ∧ (supplant order servers p).get? id = some r) ∨
      (∀ s ∈ servers, s.id ≠ id) ∧ (supplant order servers p).get? id = p.get? id := by
  rw [supplant, get?_retireEach]
  rcases last_or_absent servers id with ⟨before, s, after, rfl, rfl, ha⟩ | hn
  · obtain ⟨r, hr, hg, -⟩ := p.enroll_last before ha
    exact .inl ⟨⟨s, by simp, rfl⟩, r, hr, hg⟩
  · exact .inr ⟨hn, get?_foldl_enroll_of_ne hn p⟩

theorem trail_retireEach {order : List Ref} (h : order.Nodup) (p : Pool σ) :
    (order.foldl retire p).world.trail =
      (order.filter fun r => (p.link r).isOpen).reverse.map .closed ++ p.world.trail := by
  induction order generalizing p with
  | nil => rfl
  | cons r order ih =>
    obtain ⟨hr, ho⟩ := List.nodup_cons.mp h
    have hw : (p.retire r).world.trail = (if (p.link r).isOpen then [.closed r] else []) ++ p.world.trail :=
      Link.trail_release p.engine r (p.link r) p.world
    have hf : order.filter (fun s => ((p.retire r).link s).isOpen) = order.filter fun s => (p.link s).isOpen := by
      apply List.filter_congr
      intro s hs
      rw [retire, link_release, if_neg]
      rintro rfl
      exact hr hs
    rw [List.foldl_cons, ih ho, hf, hw, List.filter_cons]
    split <;> simp

structure Supplants (p : Pool σ) (old : Ref → Prop) (servers : List Server) (q : Pool σ) : Prop where
  fresh : ∀ before s after, servers = before ++ s :: after → (∀ t ∈ after, t.id ≠ s.id) →
    ∃ r, p.links.size ≤ r ∧ q.get? s.id = some r ∧
      q.link r = { server := s, driver := p.drivers[s.driver]?, live := false, broken := false }
  sound : ∀ r, old r → (p.link r).broken = false → q.link r = { p.link r with live := false }
  broken : ∀ r, old r → (p.link r).broken = true → q.link r = p.link r
  others : ∀ r < p.links.size, ¬old r → q.link r = p.link r
  trail : ∃ closings : List Ref, q.world.trail = closings.map .closed ++ p.world.trail ∧ closings.Nodup ∧
    ∀ r, r ∈ closings ↔ old r ∧ (p.link r).isOpen = true
  kept : ∀ r, old r → ∀ later, Kept r (p.link r) (q.run later)

theorem supplants {p base : Pool σ} {order : List Ref} {old : Ref → Prop} (servers : List Server)
    (hl : base.links = p.links) (hd : base.drivers = p.drivers) (hw : base.world = p.world)
    (ho : ∀ r, r ∈ order ↔ old r) (hn : order.Nodup) (hm : ∀ r, old r → r < p.links.size)
    (hu : ∀ r, old r → ∀ id, (supplant order servers base).get? id ≠ some r) :
    p.Supplants old servers (supplant order servers base) := by
  have henrolled (r : Ref) (hr : r < p.links.size) : (servers.foldl enroll base).link r = p.link r := by
    rw [link_foldl_enroll servers (hl ▸ hr), link, link, hl]
  have hold (r : Ref) (hr : old r) : (supplant order servers base).link r = (p.link r).closed := by
    rw [supplant, link_retireEach, if_pos ((ho r).mpr hr), henrolled r (hm r hr)]
  refine ⟨?_, ?_, ?_, ?_, ?_, ?_⟩
  · rintro before s after rfl ha
    obtain ⟨r, hr, hg, hf⟩ := base.enroll_last before ha
    refine ⟨r, hl ▸ hr, ?_, ?_⟩
    · rw [supplant, get?_retireEach, hg]
    · rw [supplant, link_retireEach, hf, freshLink, hd]
      split <;> rfl
  · intro r hr hs
    rw [hold r hr, Link.closed_of_sound hs]
  · intro r hr hs
    rw [hold r hr, Link.closed_of_broken hs]
  · intro r hr hn
    rw [supplant, link_retireEach, if_neg (mt (ho r).mp hn), henrolled r hr]
  · have hf : order.filter (fun r => ((servers.foldl enroll base).link r).isOpen) =
        order.filter fun r => (p.link r).isOpen :=
      List.filter_congr fun r hr => by rw [henrolled r (hm r ((ho r).mp hr))]
    refine ⟨(order.filter fun r => (p.link r).isOpen).reverse, ?_, ?_, ?_⟩
    · rw [supplant, trail_retireEach hn, hf, world_foldl_enroll, hw]
    · exact List.nodup_reverse.mpr (hn.filter _)
    · intro r
      rw [List.mem_reverse, List.mem_filter, ho]
  · intro r hr later
    have hsize : r < (supplant order servers base).links.size := by
      rw [supplant, size_retireEach]
      exact (hl ▸ hm r hr : r < base.links.size).trans_le (size_le_foldl_enroll servers base)
    have hi : Retired r (p.link r) (supplant order servers base) :=
      ⟨hsize, hu r hr, by rw [hold r hr, Link.server_closed], by rw [hold r hr, Link.driver_closed]⟩
    exact (hi.run later).kept

theorem get?_of_get?_supplant {order : List Ref} {servers : List Server} {p : Pool σ} {id : String} {r : Ref}
    (hr : r < p.links.size) (h : (supplant order servers p).get? id = some r) :
    (∀ s ∈ servers, s.id ≠ id) ∧ p.get? id = some r := by
  rcases get?_supplant order servers p id with ⟨-, r', hr', hg⟩ | ⟨hn, hg⟩
  · -- New links come after all old ones, so an id that was given away does not lead to `r`.
    obtain rfl := Option.some.inj (hg.symm.trans h)
    exact absurd hr (Nat.not_lt_of_le hr')
  · exact ⟨hn, hg.symm.trans h⟩

theorem mem_ids_replaceIn (order : List Ref) (p : Pool σ) (servers : List Server) (id : String) :
    id ∈ (p.replaceIn order servers).ids ↔ ∃ s ∈ servers, s.id = id := by
  rw [mem_ids_iff, replaceIn_eq_supplant]
  rcases get?_supplant order servers { p with names := ∅ } id with ⟨hid, r, -, hr⟩ | ⟨hid, hr⟩
  · rw [hr]
    simpa using hid
  · rw [hr]
    simpa [get?] using hid

theorem get?_register_of_ne (p : Pool σ) {s : Server} {id : String} (h : id ≠ s.id) :
    (p.register s).get? id = p.get? id := by
  rw [register_eq_supplant]
  rcases get?_supplant (p.get? s.id).toList [s] p id with ⟨⟨t, ht, rfl⟩, -⟩ | ⟨-, hg⟩
  · exact absurd (by rw [List.mem_singleton.mp ht]) h
  · exact hg

theorem Sound.supplants_replaceIn {drivers : Std.TreeMap String (Driver σ)} {p : Pool σ}
    (h : Sound drivers p) {order : List Ref} (ho : order.Perm p.refs) (servers : List Server) :
    p.Supplants (fun r => ∃ id, p.get? id = some r) servers (p.replaceIn order servers) := by
  have hm : ∀ r, (∃ id, p.get? id = some r) → r < p.links.size := fun r ⟨id, hid⟩ => (h.named id r hid).1
  let base := { p with names := ∅ }
  apply @supplants _ p base _ _ servers rfl rfl rfl _ (ho.nodup_iff.mpr h.refs_nodup) hm
  · intro r hr id hid
    obtain ⟨-, hg⟩ := get?_of_get?_supplant (p := base) (hm r hr) hid
    simp [base, get?] at hg
  · intro r
    rw [ho.mem_iff, mem_refs_iff]

theorem Sound.supplants_register {drivers : Std.TreeMap String (Driver σ)} {p : Pool σ}
    (h : Sound drivers p) (s : Server) :
    p.Supplants (fun r => p.get? s.id = some r) [s] (p.register s) := by
  have hm (r : Ref) (hr : p.get? s.id = some r) : r < p.links.size := (h.named _ r hr).1
  rw [register_eq_supplant]
  apply supplants [s] rfl rfl rfl (fun r => Option.mem_toList) _ hm
  · -- Another id that led to the link would be the id of its server, too.
    intro r hr id hid
    obtain ⟨hn, hg⟩ := get?_of_get?_supplant (hm r hr) hid
    apply hn s List.mem_cons_self
    rw [← (h.named id r hg).2, (h.named _ r hr).2]
  · cases p.get? s.id <;> simp

/-- No id leads to a replaced link ever again, so that only a caller who kept it can use it. -/
theorem servers_replaced (engine : Engine σ) (drivers : List (Driver σ)) (state : σ)
    (actions : List (Action σ)) :
    let p := (new engine drivers state).run actions
    (∀ (tour : Tour) (servers : List Server),
        let q := p.perform (.replaceAll tour servers)
        q.ids.Pairwise (· < ·) ∧ (∀ id, id ∈ q.ids ↔ ∃ s ∈ servers, s.id = id) ∧
          p.Supplants (fun r => ∃ id, p.get? id = some r) servers q) ∧
      ∀ s : Server,
        let q := p.register s
        (∀ id ≠ s.id, q.get? id = p.get? id) ∧ p.Supplants (fun r => p.get? s.id = some r) [s] q := by
  intro p
  have hs : Sound (new engine drivers state).drivers p := (new_sound engine drivers state).run actions
  constructor
  · intro tour servers q
    exact ⟨q.ids_increasing, mem_ids_replaceIn _ p servers, hs.supplants_replaceIn (tour.perm p.refs) servers⟩
  · intro s q
    exact ⟨fun id hid => p.get?_register_of_ne hid, hs.supplants_register s⟩

end Pool

end ItemGateway
