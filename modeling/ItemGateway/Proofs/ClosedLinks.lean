import ItemGateway.Proofs.RegisteredLinks
import ItemGateway.Gateway

namespace ItemGateway

variable {σ : Type}

theorem Fault.message_brokenLock (id : String) :
    (brokenLock id).message =
      "Application error: Failed to acquire connection lock for server '" ++ id ++ "'" := by
  change "Application error: " ++ ("Failed to acquire connection lock for server '" ++ id ++ "'") = _
  rw [← String.append_assoc, ← String.append_assoc]
  rfl

namespace Link

def closed (l : Link σ) : Link σ :=
  if l.broken then l else { l with live := false }

theorem closed_of_broken {l : Link σ} (h : l.broken = true) : l.closed = l := by
  rw [closed, if_pos h]

theorem closed_of_sound {l : Link σ} (h : l.broken = false) : l.closed = { l with live := false } := by
  rw [closed, if_neg (by simp [h])]

@[simp] theorem broken_closed (l : Link σ) : l.closed.broken = l.broken := by
  unfold closed
  split <;> rfl

@[simp] theorem server_closed (l : Link σ) : l.closed.server = l.server := by
  unfold closed
  split <;> rfl

@[simp] theorem driver_closed (l : Link σ) : l.closed.driver = l.driver := by
  unfold closed
  split <;> rfl

@[simp] theorem closed_closed (l : Link σ) : l.closed.closed = l.closed := by
  cases h : l.broken with
  | true => rw [closed_of_broken h, closed_of_broken h]
  | false =>
    rw [closed_of_sound h]
    exact closed_of_sound h

theorem isOpen_closed (l : Link σ) : l.closed.isOpen = false := by
  cases h : l.broken with
  | true => simp [closed_of_broken h, isOpen, h]
  | false => simp [closed_of_sound h, isOpen]

theorem release_slot (e : Engine σ) (r : Ref) (l : Link σ) (w : World σ) :
    (l.release e r w).2.1 = l.closed := by
  have h := released e r l w
  generalize (l.release e r w).1 = a, (l.release e r w).2.1 = l', (l.release e r w).2.2 = w' at h
  cases h with
  | broken hb => rw [closed_of_broken hb]
  | refused hb | closed hb => rw [closed_of_sound hb]
  | idle hb hl =>
    rw [closed_of_sound hb, ← hl]

theorem release_world {l : Link σ} (h : l.closed = l) (e : Engine σ) (r : Ref) (w : World σ) :
    (l.release e r w).2.2 = w := by
  have hr := released e r l w
  generalize (l.release e r w).1 = a, (l.release e r w).2.1 = l', (l.release e r w).2.2 = w' at hr
  cases hr with
  | broken | idle => rfl
  | refused hb hl | closed hb hl =>
    rw [closed_of_sound hb] at h
    rw [← h] at hl
    cases hl

theorem release_faults {e : Engine σ} {r : Ref} (h : ∀ w, e.closeRefusal? r w = none) (l : Link σ)
    (w : World σ) :
    Fault.ofResult (l.release e r w).1 = if l.broken then [.brokenLock l.server.id] else [] := by
  have hr := released e r l w
  generalize (l.release e r w).1 = a, (l.release e r w).2.1 = l', (l.release e r w).2.2 = w' at hr
  cases hr with
  | broken hb => rw [if_pos hb, Fault.ofResult]
  | refused hb hl hc =>
    rw [h] at hc
    cases hc
  | closed hb | idle hb => rw [if_neg (by simp [hb]), Fault.ofResult]

end Link

namespace Pool

theorem link_release (p : Pool σ) (r s : Ref) :
    (p.release r).2.link s = if s = r then (p.link s).closed else p.link s := by
  split
  · next hs =>
    subst hs
    rcases Nat.lt_or_ge s p.links.size with hlt | hge
    · rw [release, p.link_on_of_lt hlt, Link.release_slot]
    · rw [p.link_of_size_le hge, link_of_size_le _ (by rw [release, size_on]; exact hge)]
      rfl
  · next hs => exact p.link_on_of_ne hs _

theorem release_of_closed {p : Pool σ} {r : Ref} (h : (p.link r).closed = p.link r) :
    (p.release r).2 = p := by
  have hs := Link.release_slot p.engine r (p.link r) p.world
  have hw := Link.release_world h p.engine r p.world
  simp only [release, on, hs, hw, h, set_link]

theorem link_closeEach (order : List Ref) (p : Pool σ) (s : Ref) :
    (closeEach order p).2.link s = if s ∈ order then (p.link s).closed else p.link s := by
  induction order generalizing p with
  | nil => rfl
  | cons r order ih =>
    simp only [closeEach, ih, link_release, List.mem_cons]
    by_cases hr : s = r <;> by_cases ho : s ∈ order <;> simp [hr, ho]

theorem names_closeEach (order : List Ref) (p : Pool σ) : (closeEach order p).2.names = p.names := by
  induction order generalizing p with
  | nil => rfl
  | cons r order ih => exact (ih _).trans rfl

theorem closeEach_faults {p : Pool σ} (h : ∀ r w, p.engine.closeRefusal? r w = none) (order : List Ref) :
    (closeEach order p).1 =
      (order.filter fun r => (p.link r).broken).map fun r => .brokenLock (p.link r).server.id := by
  induction order generalizing p with
  | nil => rfl
  | cons r order ih =>
    have hb (s : Ref) : ((p.release r).2.link s).broken = (p.link s).broken := by
      rw [link_release]
      split <;> simp
    have hi (s : Ref) : ((p.release r).2.link s).server = (p.link s).server := by
      rw [link_release]
      split <;> simp
    have hf : Fault.ofResult (p.release r).1 = _ := Link.release_faults (h r) (p.link r) p.world
    have ht := ih (p := (p.release r).2) h
    simp only [hb, hi] at ht
    simp only [closeEach, hf, ht, List.filter_cons]
    split <;> rfl

theorem closeEach_of_closed {order : List Ref} {p : Pool σ}
    (h : ∀ r ∈ order, (p.link r).closed = p.link r) : (closeEach order p).2 = p := by
  induction order with
  | nil => rfl
  | cons r order ih =>
    have hr := release_of_closed (h r List.mem_cons_self)
    simp only [closeEach, hr]
    exact ih fun s hs => h s (List.mem_cons_of_mem r hs)

def closeIn (order : List Ref) (p : Pool σ) : Except Fault Unit × Pool σ :=
  match closeEach order p with
  | ([], p) => (.ok (), p)
  | (faults, p) => (.error (.notClosed faults), p)

theorem closeIn_refs (p : Pool σ) : closeIn p.refs p = p.closeAll := rfl

theorem closeIn_snd (order : List Ref) (p : Pool σ) : (closeIn order p).2 = (closeEach order p).2 := by
  unfold closeIn
  split <;> next h => rw [h]

def closingAnswer (p : Pool σ) (broken : List Ref) : Except Fault Unit :=
  if broken = [] then .ok ()
  else .error ⟨.connection, "failed to close " ++ toString broken.length ++ " connection(s): " ++
    String.intercalate "; " (broken.map fun r =>
      "Application error: Failed to acquire connection lock for server '" ++ (p.link r).server.id ++ "'")⟩

theorem closeIn_fst {p : Pool σ} (h : ∀ r w, p.engine.closeRefusal? r w = none) (order : List Ref) :
    (closeIn order p).1 = p.closingAnswer (order.filter fun r => (p.link r).broken) := by
  have hf := closeEach_faults h order
  generalize order.filter (fun r => (p.link r).broken) = broken at hf ⊢
  unfold closeIn closingAnswer
  split
  · next he =>
    rw [he] at hf
    rw [if_pos (List.map_eq_nil_iff.mp hf.symm)]
  · next faults q hne he =>
    rw [he] at hf
    subst hf
    rw [if_neg fun hb => hne (by simp [hb])]
    simp only [Fault.notClosed, List.length_map, List.map_map, Function.comp_def, Fault.message_brokenLock]
    rfl

theorem refs_closeIn (order : List Ref) (p : Pool σ) : (closeIn order p).2.refs = p.refs := by
  rw [refs, closeIn_snd, names_closeEach]
  rfl

/-- A broken link is counted and keeps what it has. The order of the visits does not matter. -/
theorem close_all_registered {engine : Engine σ} (h : ∀ r w, engine.closeRefusal? r w = none)
    (drivers : List (Driver σ)) (state : σ) (actions : List (Action σ)) (tour again : Tour) :
    let p := (new engine drivers state).run actions
    let a := closeIn (tour.order p.refs) p
    let b := closeIn (again.order a.2.refs) a.2
    (∀ id r, p.get? id = some r →
        (a.2.link r).isOpen = false ∧ ((p.link r).broken = false → (a.2.link r).live = false)) ∧
      a.2.names = p.names ∧ (∀ r, (∀ id, p.get? id ≠ some r) → a.2.link r = p.link r) ∧
      (a.1 = .ok () ↔ ∀ id r, p.get? id = some r → (p.link r).broken = false) ∧
      (∃ broken broken' : List Ref, broken.Nodup ∧
        (∀ r, r ∈ broken ↔ (∃ id, p.get? id = some r) ∧ (p.link r).broken = true) ∧
        a.1 = p.closingAnswer broken ∧ broken'.Perm broken ∧ b.1 = p.closingAnswer broken') ∧
      b.2 = a.2 ∧
      ∀ g : Gateway σ, g.pool = p → g.shutdown = ((closeIn p.refs p).1, { g with pool := (closeIn p.refs p).2 }) := by
  intro p a b
  have hs : Sound (new engine drivers state).drivers p := (new_sound engine drivers state).run actions
  have he : p.engine = engine := engine_run _ actions
  have hp : ∀ r w, p.engine.closeRefusal? r w = none := by rwa [he]
  have hm (r : Ref) : r ∈ tour.order p.refs ↔ ∃ id, p.get? id = some r := by
    rw [(tour.perm p.refs).mem_iff, mem_refs_iff]
  have hl (r : Ref) : a.2.link r = if r ∈ tour.order p.refs then (p.link r).closed else p.link r := by
    rw [closeIn_snd, link_closeEach]
  let broken := (tour.order p.refs).filter fun r => (p.link r).broken
  have hb (r : Ref) : r ∈ broken ↔ (∃ id, p.get? id = some r) ∧ (p.link r).broken = true := by
    rw [List.mem_filter, hm]
  have ha : a.1 = p.closingAnswer broken := closeIn_fst hp _
  refine ⟨?_, ?_, ?_, ?_, ?_, ?_, ?_⟩
  · intro id r hr
    rw [hl, if_pos ((hm r).mpr ⟨id, hr⟩)]
    refine ⟨Link.isOpen_closed _, ?_⟩
    intro hn
    rw [Link.closed_of_sound hn]
  · rw [closeIn_snd, names_closeEach]
  · intro r hr
    rw [hl, if_neg]
    intro hmem
    obtain ⟨id, hid⟩ := (hm r).mp hmem
    exact hr id hid
  · rw [ha, closingAnswer]
    constructor
    · intro hok id r hr
      by_contra hn
      have hne : broken ≠ [] := List.ne_nil_of_mem ((hb r).mpr ⟨⟨id, hr⟩, by simpa using hn⟩)
      rw [if_neg hne] at hok
      cases hok
    · intro hn
      rw [if_pos]
      apply List.eq_nil_iff_forall_not_mem.mpr
      intro r hr
      obtain ⟨⟨id, hid⟩, ht⟩ := (hb r).mp hr
      rw [hn id r hid] at ht
      cases ht
  · have hsame (r : Ref) : (a.2.link r).broken = (p.link r).broken ∧ (a.2.link r).server = (p.link r).server := by
      rw [hl]
      split <;> simp
    have hq : ∀ r w, a.2.engine.closeRefusal? r w = none := by
      rwa [closeIn_snd, engine_closeEach]
    refine ⟨broken, (again.order a.2.refs).filter fun r => (p.link r).broken, ?_, hb, ha, ?_, ?_⟩
    · exact ((tour.perm p.refs).nodup_iff.mpr hs.refs_nodup).filter _
    · apply List.Perm.filter
      rw [refs_closeIn]
      exact (again.perm p.refs).trans (tour.perm p.refs).symm
    · have hf : b.1 = a.2.closingAnswer _ := closeIn_fst hq (again.order a.2.refs)
      rw [hf]
      simp only [closingAnswer, hsame]
  · rw [closeIn_snd]
    apply closeEach_of_closed
    intro r hr
    rw [(again.perm _).mem_iff, refs_closeIn, ← (tour.perm p.refs).mem_iff] at hr
    rw [hl, if_pos hr, Link.closed_closed]
  · intro g hg
    rw [Gateway.shutdown, hg]
    rfl

def halfBroken : List (Action Unit) :=
  let server (id : String) : Server := { id, url := ":memory:", user := "u", password := "p" }
  let task : Task Unit Unit := ⟨fun w => (.ok (), w), fun _ => ⟨[], rfl, by simp⟩⟩
  [.register (server "a"), .register (server "b"), .abandon 0 task, .acquire 1]

theorem half_broken_closed :
    (∀ r w, Engine.idle.closeRefusal? r w = none) ∧
      let p := (new .idle [] ()).run halfBroken
      let a := closeIn p.refs p
      p.openIds = ["b"] ∧ (∀ id r, p.get? id = some r → (a.2.link r).isOpen = false) ∧
        a.1 = .error ⟨.connection, "failed to close 1 connection(s): Application error: " ++
          "Failed to acquire connection lock for server 'a'"⟩ ∧ (closeIn a.2.refs a.2).2 = a.2 := by
  have hr : ∀ r w, Engine.idle.closeRefusal? r w = none := fun _ _ => rfl
  have h := close_all_registered hr [] () halfBroken .byId .byId
  exact ⟨hr, by rfl, fun id r hid => (h.1 id r hid).1, by rfl, h.2.2.2.2.2.1⟩

end Pool

end ItemGateway
