import ItemGateway.Proofs.ClosedLinks
import Mathlib.Data.List.Nodup

namespace ItemGateway

variable {σ : Type}

theorem Fault.message_noDriver (driver id : String) :
    (noDriver driver id).message =
      "Configuration error: no driver registered as '" ++ driver ++ "' for server '" ++ id ++ "'" := by
  change "Configuration error: " ++ ("no driver registered as '" ++ driver ++ "' for server '" ++ id ++ "'") = _
  simp only [← String.append_assoc]
  rfl

/-! ### Reports -/

namespace Report

variable {r r' : Report} {id : String}

theorem mem_opened : id ∈ r.opened ↔ (id, .opened) ∈ r := by
  simp [opened]

theorem mem_skipped : id ∈ r.skipped ↔ (id, .skipped) ∈ r := by
  simp [skipped]

theorem mem_failed {f : Fault} : (id, f) ∈ r.failed ↔ (id, .failed f) ∈ r := by
  rw [failed, List.mem_filterMap]
  constructor
  · rintro ⟨⟨id', _ | _ | f'⟩, hm, he⟩
    · cases he
    · cases he
    · cases he
      exact hm
  · exact fun h => ⟨_, h, rfl⟩

theorem partition_perm (r : Report) :
    (r.opened ++ r.skipped ++ r.failed.map Prod.fst).Perm (r.map Prod.fst) := by
  induction r with
  | nil => exact .nil
  | cons x r ih =>
    obtain ⟨id, s⟩ := x
    cases s with
    | opened => exact ih.cons id
    | skipped =>
      apply List.Perm.trans _ (ih.cons id)
      exact List.perm_middle.append_right _
    | failed f => exact List.perm_middle.trans (ih.cons id)

structure Alike (r r' : Report) : Prop where
  opened : r.opened.Perm r'.opened
  skipped : r.skipped.Perm r'.skipped
  failed : r.failed.Perm r'.failed

theorem alike_of_perm (h : r.Perm r') : r.Alike r' :=
  ⟨h.filterMap _, h.filterMap _, h.filterMap _⟩

end Report

/-! ### One turn -/

namespace Link

def asked (l : Link σ) : Option (Driver σ) :=
  if l.server.isComplete && !l.broken && !l.live then l.driver else none

theorem asked_eq_some {l : Link σ} {d : Driver σ} :
    l.asked = some d ↔
      l.server.isComplete = true ∧ l.broken = false ∧ l.live = false ∧ l.driver = some d := by
  simp [asked, and_assoc]

def Steady (r : Ref) (l : Link σ) : Prop :=
  ∀ d, l.driver = some d → ∀ v w, (d.connect r l.server v).1 = (d.connect r l.server w).1

inductive Turned (r : Ref) (l : Link σ) (w : World σ) : Standing → Link σ → World σ → Prop
  | skipped (hc : l.server.isComplete = false) : Turned r l w .skipped l w
  | broken (hc : l.server.isComplete = true) (hb : l.broken = true) :
      Turned r l w (.failed (.brokenLock l.server.id)) l w
  | live (hc : l.server.isComplete = true) (hb : l.broken = false) (hl : l.live = true) :
      Turned r l w .opened l w
  | driverless (hc : l.server.isComplete = true) (hb : l.broken = false) (hl : l.live = false)
      (hd : l.driver = none) : Turned r l w (.failed (.noDriver l.server.driver l.server.id)) l w
  | refused {d : Driver σ} {f : Fault} {w' : World σ} (ha : l.asked = some d)
      (hw : w.connect d r l.server = (.error f, w')) : Turned r l w (.failed f) l w'
  | opened {d : Driver σ} {w' : World σ} (ha : l.asked = some d)
      (hw : w.connect d r l.server = (.ok (), w')) : Turned r l w .opened { l with live := true } w'

theorem turned (r : Ref) (l : Link σ) (w : World σ) :
    Turned r l w (l.turn r w).1.2 (l.turn r w).2.1 (l.turn r w).2.2 := by
  have h := acquired r l w
  unfold turn
  split
  · next hc => exact .skipped (by simpa using hc)
  next hc =>
  have hc : l.server.isComplete = true := by simpa using hc
  generalize l.acquire r w = a at h ⊢
  obtain ⟨a, l', w'⟩ := a
  dsimp only at h
  cases h with
  | broken hb => exact .broken hc hb
  | live hb hl => exact .live hc hb hl
  | incomplete hb hl hn =>
    rw [hc] at hn
    cases hn
  | driverless hb hl _ hd => exact .driverless hc hb hl hd
  | refused hb hl _ hd hw => exact .refused (asked_eq_some.mpr ⟨hc, hb, hl, hd⟩) hw
  | opened hb hl _ hd hw => exact .opened (asked_eq_some.mpr ⟨hc, hb, hl, hd⟩) hw

theorem turn_skipped_iff (r : Ref) (l : Link σ) (w : World σ) :
    (l.turn r w).1.2 = .skipped ↔ l.server.isComplete = false := by
  have h := turned r l w
  generalize (l.turn r w).1.2 = s, (l.turn r w).2.1 = l', (l.turn r w).2.2 = w' at h
  cases h with
  | skipped hc => simp [hc]
  | broken hc | live hc | driverless hc => simp [hc]
  | refused ha | opened ha => simp [(asked_eq_some.mp ha).1]

theorem turn_opened_iff {l : Link σ} (hf : l.Fit) (r : Ref) (w : World σ) :
    (l.turn r w).1.2 = .opened ↔ (l.turn r w).2.1.isOpen = true := by
  have h := turned r l w
  generalize (l.turn r w).1.2 = s, (l.turn r w).2.1 = l', (l.turn r w).2.2 = w' at h
  cases h with
  | skipped hc =>
    -- A live link has a complete server, so that no skipped one is open.
    have hl : l.live = false := by
      by_contra hl
      rw [(hf (by simpa using hl)).1] at hc
      cases hc
    simp [isOpen, hl]
  | broken hc hb => simp [isOpen, hb]
  | live hc hb hl => simp [isOpen, hb, hl]
  | driverless hc hb hl => simp [isOpen, hl]
  | refused ha => simp [isOpen, (asked_eq_some.mp ha).2.2.1]
  | opened ha => simp [isOpen, (asked_eq_some.mp ha).2.1]

theorem turn_trail (r : Ref) (l : Link σ) (w : World σ) :
    (l.turn r w).2.2.trail =
      (l.asked.map fun d => .opened r d.id (l.turn r w).2.1.isOpen).toList ++ w.trail := by
  have h := turned r l w
  generalize (l.turn r w).1.2 = s, (l.turn r w).2.1 = l', (l.turn r w).2.2 = w' at h
  cases h with
  | skipped hc => simp [asked, hc]
  | broken hc hb => simp [asked, hb]
  | live hc hb hl => simp [asked, hl]
  | driverless hc hb hl hd => simp [asked, hd]
  | refused ha hw =>
    have hl := (asked_eq_some.mp ha).2.2.1
    rw [World.trail_of_connect hw, ha, isOpen, hl]
    rfl
  | opened ha hw =>
    have hb := (asked_eq_some.mp ha).2.1
    rw [World.trail_of_connect hw, ha, isOpen, hb]
    rfl

theorem turn_steady {r : Ref} {l : Link σ} (h : l.Steady r) (v w : World σ) :
    (l.turn r v).1 = (l.turn r w).1 ∧ (l.turn r v).2.1 = (l.turn r w).2.1 := by
  unfold turn
  split
  · exact ⟨rfl, rfl⟩
  rcases l.acquire_asks with ⟨a, ha⟩ | ⟨d, hd, ha⟩
  · rw [ha, ha]
    cases a <;> exact ⟨rfl, rfl⟩
  · rw [ha, ha, World.connect, World.connect, h d hd v.state w.state]
    cases (d.connect r l.server w.state).1 <;> exact ⟨rfl, rfl⟩

theorem Steady.turn {r : Ref} {l : Link σ} (h : l.Steady r) (w : World σ) : (l.turn r w).2.1.Steady r := by
  have hm := turn_move r l w
  intro d hd
  rw [hm.driver] at hd
  rw [hm.server]
  exact h d hd

theorem turn_slot (r : Ref) (l : Link σ) (w : World σ) :
    (l.turn r w).2.1 = l ∨ l.server.isComplete = true ∧ l.broken = false ∧ (l.turn r w).1.2 = .opened ∧
      (l.turn r w).2.1 = { l with live := true } := by
  have h := turned r l w
  generalize (l.turn r w).1.2 = s, (l.turn r w).2.1 = l', (l.turn r w).2.2 = w' at h
  cases h with
  | skipped | broken | live | driverless | refused => exact .inl rfl
  | opened ha =>
    obtain ⟨hc, hb, -⟩ := asked_eq_some.mp ha
    exact .inr ⟨hc, hb, rfl, rfl⟩

theorem turn_again {r : Ref} {l : Link σ} (h : l.Steady r) (v w : World σ) :
    ((l.turn r v).2.1.turn r w).1 = (l.turn r v).1 ∧
      ((l.turn r v).2.1.turn r w).2.1 = (l.turn r v).2.1 := by
  rcases l.turn_slot r v with hs | ⟨hc, hb, ho, hs⟩
  · rw [hs]
    obtain ⟨hstanding, hslot⟩ := turn_steady h w v
    exact ⟨hstanding, hslot.trans hs⟩
  · -- The connection is live now, and the driver is not asked a second time.
    have hfst : (l.turn r v).1 = (l.server.id, .opened) := Prod.ext (l.turn_fst r v) ho
    rw [hs, hfst]
    simp [turn, acquire, hc, hb]

end Link

/-! ### One turn for each link -/

namespace Pool

theorem connectEach_cons (r : Ref) (order : List Ref) (p : Pool σ) :
    connectEach (r :: order) p =
      (((p.link r).turn r p.world).1 :: (connectEach order (p.on r (Link.turn r)).2).1,
        (connectEach order (p.on r (Link.turn r)).2).2) := by
  rw [connectEach, connectOne_eq_on]
  rfl

structure Itinerary (order : List Ref) (p : Pool σ) : Prop where
  nodup : order.Nodup
  made : ∀ r ∈ order, r < p.links.size

def meets : List Ref → Pool σ → Ref → World σ
  | [], p, _ => p.world
  | r :: order, p, s => if s = r then p.world else meets order (p.on r (Link.turn r)).2 s

def attempts (order : List Ref) (p q : Pool σ) : List Event :=
  (order.filterMap fun r => (p.link r).asked.map fun d => .opened r d.id (q.link r).isOpen).reverse

theorem mem_attempts {order : List Ref} {p q : Pool σ} {e : Event} :
    e ∈ attempts order p q ↔
      ∃ r ∈ order, ∃ d, (p.link r).asked = some d ∧ e = .opened r d.id (q.link r).isOpen := by
  simp only [attempts, List.mem_reverse, List.mem_filterMap, Option.map_eq_some_iff, @eq_comm _ e]

theorem attempts_perm {order order' : List Ref} (h : order.Perm order') (p q : Pool σ) :
    (attempts order p q).Perm (attempts order' p q) :=
  (List.reverse_perm _).trans ((h.filterMap _).trans (List.reverse_perm _).symm)

theorem nodup_attempts {order : List Ref} (h : order.Nodup) (p q : Pool σ) :
    ((attempts order p q).map Event.link).Nodup := by
  rw [attempts, List.map_reverse, List.nodup_reverse, List.map_filterMap]
  apply h.filterMap
  intro r r' s hs hs'
  simp only [Option.map_map, Option.mem_def, Option.map_eq_some_iff] at hs hs'
  obtain ⟨d, -, rfl⟩ := hs
  obtain ⟨d', -, he⟩ := hs'
  exact he.symm

namespace Itinerary

variable {order : List Ref} {p : Pool σ} {r : Ref}

theorem step (h : Itinerary (r :: order) p) : Itinerary order (p.on r (Link.turn r)).2 ∧
    r < p.links.size ∧ r ∉ order ∧ ∀ s ∈ order, s ≠ r ∧ (p.on r (Link.turn r)).2.link s = p.link s := by
  obtain ⟨hr, hn⟩ := List.nodup_cons.mp h.nodup
  obtain ⟨hlt, hm⟩ := List.forall_mem_cons.mp h.made
  refine ⟨⟨hn, by rwa [size_on]⟩, hlt, hr, ?_⟩
  intro s hs
  have hne : s ≠ r := by
    rintro rfl
    exact hr hs
  exact ⟨hne, p.link_on_of_ne hne _⟩

theorem link (h : Itinerary order p) (s : Ref) :
    (connectEach order p).2.link s =
      if s ∈ order then ((p.link s).turn s (meets order p s)).2.1 else p.link s := by
  induction order generalizing p with
  | nil => rfl
  | cons r order ih =>
    obtain ⟨ho, hlt, hr, -⟩ := h.step
    rw [connectEach_cons, ih ho, meets]
    by_cases hs : s = r
    · subst hs
      rw [if_neg hr, if_pos List.mem_cons_self, if_pos rfl, p.link_on_of_lt hlt]
    · simp only [p.link_on_of_ne hs, List.mem_cons, hs, false_or, if_false]

theorem report (h : Itinerary order p) :
    (connectEach order p).1 = order.map fun r => ((p.link r).turn r (meets order p r)).1 := by
  induction order generalizing p with
  | nil => rfl
  | cons r order ih =>
    obtain ⟨ho, -, -, hne⟩ := h.step
    rw [connectEach_cons, ih ho, List.map_cons, meets, if_pos rfl]
    refine congrArg (List.cons _) (List.map_congr_left ?_)
    intro s hs
    rw [(hne s hs).2, meets, if_neg (hne s hs).1]

theorem trail (h : Itinerary order p) :
    (connectEach order p).2.world.trail = attempts order p (connectEach order p).2 ++ p.world.trail := by
  induction order generalizing p with
  | nil => rfl
  | cons r order ih =>
    obtain ⟨ho, hlt, hr, hne⟩ := h.step
    have ht : (p.on r (Link.turn r)).2.world.trail = _ := Link.turn_trail r (p.link r) p.world
    rw [connectEach_cons, ih ho, ht]
    generalize hq : (connectEach order (p.on r (Link.turn r)).2).2 = q
    -- The later turns leave the link `r` as it is after its own.
    have hl : ((p.link r).turn r p.world).2.1 = q.link r := by
      rw [← hq, ho.link, if_neg hr, p.link_on_of_lt hlt]
    have hf : attempts order (p.on r (Link.turn r)).2 q = attempts order p q :=
      congrArg List.reverse (List.filterMap_congr fun s hs => by rw [(hne s hs).2])
    rw [hl, hf, attempts, attempts, List.filterMap_cons]
    cases (p.link r).asked <;> simp

theorem during (h : Itinerary order p) {s : Ref} (hs : s ∈ order) :
    p.world.trail <:+ (meets order p s).trail ∧
      ((p.link s).turn s (meets order p s)).2.2.trail <:+ (connectEach order p).2.world.trail := by
  induction order generalizing p with
  | nil => cases hs
  | cons r order ih =>
    obtain ⟨ho, -, -, hne⟩ := h.step
    rw [connectEach_cons, meets]
    rcases List.mem_cons.mp hs with rfl | hs
    · rw [if_pos rfl, ho.trail]
      exact ⟨List.suffix_refl _, List.suffix_append _ _⟩
    · obtain ⟨hp, hq⟩ := ih ho hs
      rw [if_neg (hne s hs).1, ← (hne s hs).2]
      refine ⟨List.IsSuffix.trans ?_ hp, hq⟩
      exact (Link.turn_trail r (p.link r) p.world).symm ▸ List.suffix_append _ _

theorem link_steady (h : Itinerary order p) (hs : ∀ r ∈ order, (p.link r).Steady r) (r : Ref) :
    (connectEach order p).2.link r = if r ∈ order then ((p.link r).turn r p.world).2.1 else p.link r := by
  rw [h.link]
  split
  · next hr => exact (Link.turn_steady (hs r hr) _ p.world).2
  · rfl

theorem report_steady (h : Itinerary order p) (hs : ∀ r ∈ order, (p.link r).Steady r) :
    (connectEach order p).1 = order.map fun r => ((p.link r).turn r p.world).1 := by
  rw [h.report]
  apply List.map_congr_left
  intro r hr
  exact (Link.turn_steady (hs r hr) _ p.world).1

end Itinerary

theorem fixed_connectEach (order : List Ref) (p : Pool σ) :
    let q := (connectEach order p).2
    q = { p with links := q.links, world := q.world } ∧ q.links.size = p.links.size := by
  induction order generalizing p with
  | nil => exact ⟨rfl, rfl⟩
  | cons r order ih =>
    obtain ⟨hf, hs⟩ := ih (p.on r (Link.turn r)).2
    rw [connectEach_cons]
    exact ⟨hf, hs.trans (p.size_on r _)⟩

theorem refs_connectEach (order : List Ref) (p : Pool σ) : (connectEach order p).2.refs = p.refs := by
  rw [(fixed_connectEach order p).1]
  rfl

/-! ### All registered links -/

inductive Fails (p q : Pool σ) (r : Ref) : String → Prop
  | broken (hb : (p.link r).broken = true) : Fails p q r
      ("Application error: Failed to acquire connection lock for server '" ++ (p.link r).server.id ++ "'")
  | driverless (hb : (p.link r).broken = false) (hl : (p.link r).live = false)
      (hd : p.drivers[(p.link r).server.driver]? = none) : Fails p q r
      ("Configuration error: no driver registered as '" ++ (p.link r).server.driver ++ "' for server '" ++
        (p.link r).server.id ++ "'")
  | refused {d : Driver σ} {f : Fault} {w : World σ} (ha : (p.link r).asked = some d)
      (hf : (d.connect r (p.link r).server w.state).1 = .error f) (before : p.world.trail <:+ w.trail)
      (after : .opened r d.id false :: w.trail <:+ q.world.trail) : Fails p q r f.message

structure Connects (p : Pool σ) (a : Report × Pool σ) : Prop where
  each : (a.1.opened ++ a.1.skipped ++ a.1.failed.map Prod.fst).Perm p.ids
  skipped : ∀ id r, p.get? id = some r → (id ∈ a.1.skipped ↔ (p.link r).server.isComplete = false)
  opened : ∀ id r, p.get? id = some r → (id ∈ a.1.opened ↔ (a.2.link r).isOpen = true)
  failed : ∀ id r f, p.get? id = some r → (id, f) ∈ a.1.failed → Fails p a.2 r f.message
  attempts : ∃ new, a.2.world.trail = new ++ p.world.trail ∧ (new.map Event.link).Nodup ∧
    ∀ e, e ∈ new ↔ ∃ id r d, p.get? id = some r ∧ (p.link r).server.isComplete = true ∧
      (p.link r).broken = false ∧ (p.link r).live = false ∧ (p.link r).driver = some d ∧
      e = .opened r d.id (a.2.link r).isOpen
  fixed : a.2 = { p with links := a.2.links, world := a.2.world }

variable {drivers : Std.TreeMap String (Driver σ)} {p : Pool σ}

theorem Sound.itinerary (h : Sound drivers p) (tour : Tour) : Itinerary (tour.order p.refs) p where
  nodup := (tour.perm p.refs).nodup_iff.mpr h.refs_nodup
  made := by
    intro r hr
    obtain ⟨id, hid⟩ := mem_refs_iff.mp ((tour.perm p.refs).mem_iff.mp hr)
    exact (h.named id r hid).1

theorem Sound.fails (h : Sound drivers p) {order : List Ref} (hi : Itinerary order p) {r : Ref}
    (hr : r ∈ order) {f : Fault} (hf : ((p.link r).turn r (meets order p r)).1.2 = .failed f) :
    Fails p (connectEach order p).2 r f.message := by
  obtain ⟨hp, hq⟩ := hi.during hr
  have ht := Link.turned r (p.link r) (meets order p r)
  rw [hf] at ht
  generalize ((p.link r).turn r (meets order p r)).2.1 = l,
    ((p.link r).turn r (meets order p r)).2.2 = w at ht hq
  cases ht with
  | broken hc hb =>
    rw [Fault.message_brokenLock]
    exact .broken hb
  | driverless hc hb hl hd =>
    rw [Fault.message_noDriver]
    refine .driverless hb hl ?_
    rw [← hd, h.assigned r (hi.made r hr), h.drivers_eq]
  | refused ha hw =>
    rw [World.trail_of_connect hw] at hq
    exact .refused ha (congrArg Prod.fst hw) hp hq

theorem Sound.mem_report_iff (h : Sound drivers p) {order : List Ref} (hi : Itinerary order p)
    (ho : order.Perm p.refs) {id : String} {r : Ref} (hid : p.get? id = some r) (s : Standing) :
    (id, s) ∈ (connectEach order p).1 ↔ ((p.link r).turn r (meets order p r)).1.2 = s := by
  rw [hi.report, List.mem_map]
  constructor
  · rintro ⟨r', hr', he⟩
    obtain ⟨id', hid'⟩ := mem_refs_iff.mp (ho.mem_iff.mp hr')
    have hfst := Link.turn_fst r' (p.link r') (meets order p r')
    rw [he, (h.named id' r' hid').2] at hfst
    obtain rfl : id = id' := hfst
    obtain rfl : r = r' := Option.some.inj (hid.symm.trans hid')
    rw [he]
  · rintro rfl
    refine ⟨r, ho.mem_iff.mpr (mem_refs_iff.mpr ⟨id, hid⟩), Prod.ext ?_ rfl⟩
    exact (Link.turn_fst r _ _).trans (h.named id r hid).2

theorem Sound.connects (h : Sound drivers p) (tour : Tour) :
    Connects p (connectEach (tour.order p.refs) p) := by
  have hi := h.itinerary tour
  have ho := tour.perm p.refs
  generalize tour.order p.refs = order at hi ho
  have hm {id : String} {r : Ref} (hid : p.get? id = some r) : r ∈ order :=
    ho.mem_iff.mpr (mem_refs_iff.mpr ⟨id, hid⟩)
  refine ⟨?_, ?_, ?_, ?_, ?_, (fixed_connectEach order p).1⟩
  · rw [h.ids_eq_map_refs]
    apply (Report.partition_perm _).trans
    rw [hi.report, List.map_map]
    refine .trans (.of_eq ?_) (ho.map _)
    exact List.map_congr_left fun r _ => Link.turn_fst r _ _
  · intro id r hid
    rw [Report.mem_skipped, h.mem_report_iff hi ho hid, Link.turn_skipped_iff]
  · intro id r hid
    rw [Report.mem_opened, h.mem_report_iff hi ho hid, Link.turn_opened_iff (h.fit r), hi.link, if_pos (hm hid)]
  · intro id r f hid hf
    exact h.fails hi (hm hid) ((h.mem_report_iff hi ho hid _).mp (Report.mem_failed.mp hf))
  · refine ⟨_, hi.trail, nodup_attempts hi.nodup _ _, ?_⟩
    intro e
    rw [mem_attempts]
    constructor
    · rintro ⟨r, hr, d, ha, rfl⟩
      obtain ⟨id, hid⟩ := mem_refs_iff.mp (ho.mem_iff.mp hr)
      obtain ⟨hc, hb, hl, hd⟩ := Link.asked_eq_some.mp ha
      exact ⟨id, r, d, hid, hc, hb, hl, hd, rfl⟩
    · rintro ⟨id, r, d, hid, hc, hb, hl, hd, rfl⟩
      exact ⟨r, hm hid, d, Link.asked_eq_some.mpr ⟨hc, hb, hl, hd⟩, rfl⟩

/-! ### Any order, and again -/

theorem steady_of_perm {order : List Ref} (ho : order.Perm p.refs)
    (hs : ∀ id r, p.get? id = some r → (p.link r).Steady r) : ∀ r ∈ order, (p.link r).Steady r := by
  intro r hr
  obtain ⟨id, hid⟩ := mem_refs_iff.mp (ho.mem_iff.mp hr)
  exact hs id r hid

theorem eq_of_links {q q' : Pool σ} (h : q = { p with links := q.links, world := q.world })
    (h' : q' = { p with links := q'.links, world := q'.world }) (hl : q.links = q'.links) :
    q = { q' with world := q.world } := by
  rw [h, h', hl]

theorem Sound.connects_alike (h : Sound drivers p) (hs : ∀ id r, p.get? id = some r → (p.link r).Steady r)
    (tour tour' : Tour) :
    let a := connectEach (tour.order p.refs) p
    let b := connectEach (tour'.order p.refs) p
    a.1.Alike b.1 ∧ a.2 = { b.2 with world := a.2.world } ∧ a.2.world.trail.Perm b.2.world.trail := by
  intro a b
  have hi := h.itinerary tour
  have hi' := h.itinerary tour'
  have hs₁ := steady_of_perm (tour.perm p.refs) hs
  have hs₂ := steady_of_perm (tour'.perm p.refs) hs
  have ho : (tour.order p.refs).Perm (tour'.order p.refs) := (tour.perm p.refs).trans (tour'.perm p.refs).symm
  have hl (r : Ref) : a.2.link r = b.2.link r := by
    rw [hi.link_steady hs₁, hi'.link_steady hs₂]
    simp only [ho.mem_iff]
  refine ⟨?_, ?_, ?_⟩
  · apply Report.alike_of_perm
    rw [hi.report_steady hs₁, hi'.report_steady hs₂]
    exact ho.map _
  · obtain ⟨hf, hn⟩ := fixed_connectEach (tour.order p.refs) p
    obtain ⟨hf', hn'⟩ := fixed_connectEach (tour'.order p.refs) p
    exact eq_of_links hf hf' (links_ext (hn.trans hn'.symm) hl)
  · have he : attempts (tour.order p.refs) p a.2 = attempts (tour.order p.refs) p b.2 := by
      simp only [attempts, hl]
    rw [hi.trail, hi'.trail, he]
    exact (attempts_perm ho p b.2).append_right _

theorem Sound.connects_again (h : Sound drivers p) (hs : ∀ id r, p.get? id = some r → (p.link r).Steady r)
    (tour again : Tour) :
    let a := connectEach (tour.order p.refs) p
    let c := connectEach (again.order a.2.refs) a.2
    c.1.Alike a.1 ∧ c.2 = { a.2 with world := c.2.world } := by
  intro a c
  have hi := h.itinerary tour
  have hs₁ := steady_of_perm (tour.perm p.refs) hs
  have ha : a.2.refs = p.refs := refs_connectEach _ p
  have ho : (again.order a.2.refs).Perm (tour.order p.refs) := by
    apply (again.perm a.2.refs).trans
    rw [ha]
    exact (tour.perm p.refs).symm
  have hl {r : Ref} (hr : r ∈ again.order a.2.refs) : a.2.link r = ((p.link r).turn r p.world).2.1 := by
    rw [hi.link_steady hs₁, if_pos (ho.mem_iff.mp hr)]
  have hi' : Itinerary (again.order a.2.refs) a.2 := (h.perform (.connectAll tour)).itinerary again
  have hs₂ : ∀ r ∈ again.order a.2.refs, (a.2.link r).Steady r := by
    intro r hr
    rw [hl hr]
    exact (hs₁ r (ho.mem_iff.mp hr)).turn p.world
  have hagain {r : Ref} (hr : r ∈ again.order a.2.refs) :=
    Link.turn_again (hs₁ r (ho.mem_iff.mp hr)) p.world a.2.world
  refine ⟨?_, ?_⟩
  · apply Report.alike_of_perm
    rw [hi.report_steady hs₁, hi'.report_steady hs₂]
    refine .trans (.of_eq ?_) (ho.map _)
    exact List.map_congr_left fun r hr => by rw [hl hr, (hagain hr).1]
  · obtain ⟨hf, hn⟩ := fixed_connectEach (again.order a.2.refs) a.2
    refine hf.trans ?_
    rw [links_ext hn ?_]
    intro r
    rw [hi'.link_steady hs₂]
    split
    · next hr => rw [hl hr, (hagain hr).2]
    · rfl

/-- If drivers answer alike at any time, neither the order of the turns nor a second time makes a difference. -/
theorem connect_all_partition (engine : Engine σ) (drivers : List (Driver σ)) (state : σ)
    (actions : List (Action σ)) :
    let p := (new engine drivers state).run actions
    p.ids.Pairwise (· < ·) ∧ p.connectAll = connectEach (Tour.byId.order p.refs) p ∧
      (∀ tour : Tour, Connects p (connectEach (tour.order p.refs) p)) ∧
      ((∀ id r, p.get? id = some r → (p.link r).Steady r) → ∀ tour tour' again : Tour,
        let a := connectEach (tour.order p.refs) p
        let b := connectEach (tour'.order p.refs) p
        let c := connectEach (again.order a.2.refs) a.2
        a.1.Alike b.1 ∧ a.2 = { b.2 with world := a.2.world } ∧ a.2.world.trail.Perm b.2.world.trail ∧
          c.1.Alike a.1 ∧ c.2 = { a.2 with world := c.2.world } ∧
          ∃ new, c.2.world.trail = new ++ a.2.world.trail ∧ ∀ e ∈ new, (a.2.link e.link).isOpen = false) := by
  intro p
  have hp : Sound (new engine drivers state).drivers p := (new_sound engine drivers state).run actions
  refine ⟨p.ids_increasing, rfl, hp.connects, ?_⟩
  intro hs tour tour' again a b c
  obtain ⟨hreport, hpool, htrail⟩ := hp.connects_alike hs tour tour'
  obtain ⟨hreport', hpool'⟩ := hp.connects_again hs tour again
  obtain ⟨new, ht, -, hnew⟩ := ((hp.perform (.connectAll tour)).connects again).attempts
  refine ⟨hreport, hpool, htrail, hreport', hpool', new, ht, ?_⟩
  intro e he
  obtain ⟨id, r, d, -, -, -, hl, -, rfl⟩ := (hnew e).mp he
  have hlive : (a.2.link r).live = false := hl
  rw [Event.link, Link.isOpen, hlive, Bool.false_and]

def counting : Engine ℕ where
  openDatabase _ _ n := (.ok (), n + 1)
  enforceForeignKeys _ n := (.ok (), n)
  close _ n := n
  prepare _ _ n := (.ok ⟨0, true, []⟩, n)
  step _ n := (.ok none, n)
  execute _ _ n := (.ok 0, n)

def refusing : Driver ℕ where
  id := "refusing"
  connect _ _ n := (.error ⟨.connection, "down"⟩, n + 1)

def threeServers : List (Action ℕ) :=
  [.register { id := "a", url := "a.db", user := "u", password := "p" },
    .register { id := "b", url := "b.db", user := "u" },
    .register { id := "c", url := "c.db", user := "u", password := "p", driver := "refusing" }]

def threeLinks : Pool ℕ :=
  (new counting [refusing] 0).run threeServers

theorem three_links_connected :
    (∀ r, (threeLinks.link r).Steady r) ∧
      threeLinks.connectAll.1 = [("a", .opened), ("b", .skipped), ("c", .failed ⟨.connection, "down"⟩)] ∧
      threeLinks.connectAll.2.connectAll.1.Alike threeLinks.connectAll.1 ∧
      threeLinks.connectAll.2.world.trail = [.opened 2 "refusing" false, .opened 0 "sqlite" true] := by
  have hs (r : Ref) : (threeLinks.link r).Steady r := by
    intro d hd v w
    rcases r with _ | _ | _ | r
    · obtain rfl : counting.driver = d := Option.some.inj hd
      rfl
    · obtain rfl : counting.driver = d := Option.some.inj hd
      rfl
    · obtain rfl : refusing = d := Option.some.inj hd
      rfl
    · rw [threeLinks.link_of_size_le (Nat.le_add_left 3 r)] at hd
      cases hd
  obtain ⟨-, -, -, h⟩ := connect_all_partition counting [refusing] 0 threeServers
  obtain ⟨-, -, -, hagain, -⟩ := h (fun _ r _ => hs r) .byId .byId .byId
  exact ⟨hs, by rfl, hagain, by rfl⟩

end Pool

end ItemGateway
