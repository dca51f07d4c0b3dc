import ItemGateway.Proofs.Trail

namespace ItemGateway

variable {σ α : Type}

theorem World.trail_of_connect {d : Driver σ} {r : Ref} {s : Server} {w w' : World σ}
    {a : Except Fault Unit} (h : w.connect d r s = (a, w')) :
    w'.trail = .opened r d.id a.isOk :: w.trail := by
  simp only [World.connect, Prod.mk.injEq] at h
  rw [← h.2, ← h.1]

namespace Link

inductive Acquired (r : Ref) (l : Link σ) (w : World σ) : Except Fault Unit → Link σ → World σ → Prop
  | broken (hb : l.broken = true) : Acquired r l w (.error (.brokenLock l.server.id)) l w
  | live (hb : l.broken = false) (hl : l.live = true) : Acquired r l w (.ok ()) l w
  | incomplete (hb : l.broken = false) (hl : l.live = false) (hc : l.server.isComplete = false) :
      Acquired r l w (.error (.blankFields l.server.id l.server.missing)) l w
  | driverless (hb : l.broken = false) (hl : l.live = false) (hc : l.server.isComplete = true)
      (hd : l.driver = none) : Acquired r l w (.error (.noDriver l.server.driver l.server.id)) l w
  | refused {d : Driver σ} {f : Fault} {w' : World σ} (hb : l.broken = false) (hl : l.live = false)
      (hc : l.server.isComplete = true) (hd : l.driver = some d)
      (hw : w.connect d r l.server = (.error f, w')) : Acquired r l w (.error f) l w'
  | opened {d : Driver σ} {w' : World σ} (hb : l.broken = false) (hl : l.live = false)
      (hc : l.server.isComplete = true) (hd : l.driver = some d)
      (hw : w.connect d r l.server = (.ok (), w')) : Acquired r l w (.ok ()) { l with live := true } w'

theorem acquired (r : Ref) (l : Link σ) (w : World σ) :
    Acquired r l w (l.acquire r w).1 (l.acquire r w).2.1 (l.acquire r w).2.2 := by
  unfold acquire
  split
  · next hb => exact .broken hb
  next hb =>
  have hb : l.broken = false := by simpa using hb
  split
  · next hl => exact .live hb hl
  next hl =>
  have hl : l.live = false := by simpa using hl
  split
  · next hc => exact .incomplete hb hl (by simpa using hc)
  next hc =>
  have hc : l.server.isComplete = true := by simpa using hc
  split
  · next hd => exact .driverless hb hl hc hd
  next d hd =>
  split
  · next hw => exact .refused hb hl hc hd hw
  · next hw => exact .opened hb hl hc hd hw

inductive Released (e : Engine σ) (r : Ref) (l : Link σ) (w : World σ) :
    Except Fault Bool → Link σ → World σ → Prop
  | broken (hb : l.broken = true) : Released e r l w (.error (.brokenLock l.server.id)) l w
  | refused {cause : String} (hb : l.broken = false) (hl : l.live = true)
      (hr : e.closeRefusal? r w.state = some cause) :
      Released e r l w (.error (.closeRefused l.server.id cause)) { l with live := false } (w.close e r).2
  | closed (hb : l.broken = false) (hl : l.live = true) (hr : e.closeRefusal? r w.state = none) :
      Released e r l w (.ok true) { l with live := false } (w.close e r).2
  | idle (hb : l.broken = false) (hl : l.live = false) : Released e r l w (.ok false) l w

theorem released (e : Engine σ) (r : Ref) (l : Link σ) (w : World σ) :
    Released e r l w (l.release e r w).1 (l.release e r w).2.1 (l.release e r w).2.2 := by
  unfold release
  split
  · next hb => exact .broken hb
  next hb =>
  have hb : l.broken = false := by simpa using hb
  split
  · next hl =>
    cases hr : e.closeRefusal? r w.state with
    | none =>
      have hw : w.close e r = (none, (w.close e r).2) := by rw [← hr]; rfl
      rw [hw]
      exact .closed hb hl hr
    | some cause =>
      have hw : w.close e r = (some cause, (w.close e r).2) := by rw [← hr]; rfl
      rw [hw]
      exact .refused hb hl hr
  · next hl => exact .idle hb (by simpa using hl)

def Fit (l : Link σ) : Prop :=
  l.live = true → l.server.isComplete = true ∧ l.driver.isSome = true

theorem vacant_fit : (vacant : Link σ).Fit :=
  fun h => absurd h (by simp [vacant])

theorem not_live_of_vacant {l : Link σ} (h : l.Fit) (hs : l.server = (vacant : Link σ).server) :
    l.live = false := by
  by_contra hl
  have hc := (h (by simpa using hl)).1
  rw [hs] at hc
  exact Bool.false_ne_true hc

structure Keeps (r : Ref) (l l' : Link σ) (w w' : World σ) : Prop where
  server : l'.server = l.server
  driver : l'.driver = l.driver
  fit : l.Fit → l'.Fit
  ledger : Ledger r l.live w.trail → Ledger r l'.live w'.trail

structure Move (r : Ref) (l l' : Link σ) (w w' : World σ) : Prop extends Keeps r l l' w w' where
  others : ∀ s ≠ r, ∀ live, Ledger s live w.trail → Ledger s live w'.trail

namespace Move

variable {r : Ref} {l l' l'' : Link σ} {w w' w'' : World σ}

theorem refl (r : Ref) (l : Link σ) (w : World σ) : Move r l l w w :=
  ⟨⟨rfl, rfl, id, id⟩, fun _ _ _ => id⟩

theorem trans (h : Move r l l' w w') (h' : Move r l' l'' w' w'') : Move r l l'' w w'' :=
  ⟨⟨h'.server.trans h.server, h'.driver.trans h.driver, h'.fit ∘ h.fit, h'.ledger ∘ h.ledger⟩,
    fun s hs live => h'.others s hs live ∘ h.others s hs live⟩

theorem works (l : Link σ) (h : w.Works w') : Move r l l w w' :=
  ⟨⟨rfl, rfl, id, fun hl => hl.works h⟩, fun _ _ _ hl => hl.works h⟩

theorem lock (broken : Bool) : Move r l { l with broken } w w :=
  ⟨⟨rfl, rfl, id, id⟩, fun _ _ _ => id⟩

theorem event {live : Bool} {e : Event} (hr : e.link = r) (ht : w'.trail = e :: w.trail)
    (hf : live = true → l.live = true ∨ l.server.isComplete = true ∧ l.driver.isSome = true)
    (hl : (e.opens r).toNat + l.live.toNat = (e.closes r).toNat + live.toNat) :
    Move r l { l with live } w w' := by
  refine ⟨⟨rfl, rfl, ?_, ?_⟩, ?_⟩
  · intro hfit h
    exact (hf h).elim hfit id
  · intro h
    rw [ht]
    exact h.cons hl
  · intro s hs live' h
    have hne : e.link ≠ s := fun he => hs (he.symm.trans hr)
    rw [ht]
    exact h.other (Event.opens_of_link_ne hne) (Event.closes_of_link_ne hne)

end Move

theorem acquire_move (r : Ref) (l : Link σ) (w : World σ) :
    Move r l (l.acquire r w).2.1 w (l.acquire r w).2.2 := by
  have h := acquired r l w
  generalize (l.acquire r w).1 = a, (l.acquire r w).2.1 = l', (l.acquire r w).2.2 = w' at h
  cases h with
  | broken | live | incomplete | driverless => exact .refl r l w
  | refused hb hl hc hd hw =>
    apply Move.event rfl (World.trail_of_connect hw) Or.inl
    simp [Event.opens, Event.closes, Except.isOk, Except.toBool]
  | opened hb hl hc hd hw =>
    apply Move.event rfl (World.trail_of_connect hw) (fun _ => .inr ⟨hc, by simp [hd]⟩)
    simp [Event.link, Event.opens, Event.closes, Except.isOk, Except.toBool, hl]

theorem acquire_asks (l : Link σ) :
    (∃ a, ∀ r w, l.acquire r w = (a, l, w)) ∨
      ∃ d, l.driver = some d ∧ ∀ r w, l.acquire r w =
        match w.connect d r l.server with
        | (.error f, w) => (.error f, l, w)
        | (.ok (), w) => (.ok (), { l with live := true }, w) := by
  obtain ⟨server, driver, live, broken⟩ := l
  by_cases hb : broken = true
  · exact .inl ⟨_, fun _ _ => if_pos hb⟩
  by_cases hl : live = true
  · exact .inl ⟨_, fun _ _ => (if_neg hb).trans (if_pos hl)⟩
  by_cases hc : (!server.isComplete) = true
  · exact .inl ⟨_, fun _ _ => (if_neg hb).trans ((if_neg hl).trans (if_pos hc))⟩
  cases driver with
  | none => exact .inl ⟨_, fun _ _ => (if_neg hb).trans ((if_neg hl).trans (if_neg hc))⟩
  | some d => exact .inr ⟨d, rfl, fun _ _ => (if_neg hb).trans ((if_neg hl).trans (if_neg hc))⟩

def turn (r : Ref) (l : Link σ) (w : World σ) : (String × Standing) × Link σ × World σ :=
  if !l.server.isComplete then ((l.server.id, .skipped), l, w)
  else
    match l.acquire r w with
    | (.ok (), l', w) => ((l.server.id, .opened), l', w)
    | (.error f, l', w) => ((l.server.id, .failed f), l', w)

theorem turn_fst (r : Ref) (l : Link σ) (w : World σ) : (l.turn r w).1.1 = l.server.id := by
  unfold turn
  split
  · rfl
  split <;> rfl

theorem turn_move (r : Ref) (l : Link σ) (w : World σ) :
    Move r l (l.turn r w).2.1 w (l.turn r w).2.2 := by
  have h := acquire_move r l w
  unfold turn
  split
  · exact .refl r l w
  split <;> next ha =>
    rw [ha] at h
    exact h

theorem release_move (e : Engine σ) (r : Ref) (l : Link σ) (w : World σ) :
    Move r l (l.release e r w).2.1 w (l.release e r w).2.2 := by
  have h := released e r l w
  generalize (l.release e r w).1 = a, (l.release e r w).2.1 = l', (l.release e r w).2.2 = w' at h
  cases h with
  | broken | idle => exact .refl r l w
  | refused hb hl | closed hb hl =>
    apply Move.event (e := .closed r) rfl rfl (fun h => absurd h (by simp))
    simp [Event.link, Event.opens, Event.closes, hl]

theorem use_move (r : Ref) {f : World σ → Except Fault α × World σ}
    (hf : ∀ w : World σ, w.Works (f w).2) (l : Link σ) (w : World σ) :
    Move r l (l.use r f w).2.1 w (l.use r f w).2.2 := by
  have h := acquire_move r l w
  unfold use
  split
  · next ha => rw [ha] at h; exact h
  · next ha => rw [ha] at h; exact h.trans (.works _ (hf _))

theorem abandon_move (r : Ref) {f : World σ → World σ}
    (hf : ∀ w : World σ, w.Works (f w)) (l : Link σ) (w : World σ) :
    Move r l (l.abandon r f w).2.1 w (l.abandon r f w).2.2 := by
  have h := acquire_move r l w
  unfold abandon
  split
  · next ha => rw [ha] at h; exact h
  · next ha => rw [ha] at h; exact (h.trans (.lock true)).trans (.works _ (hf _))

/-- What can be done with one link. Its connection is lent to those only that `lent` holds of. -/
inductive Operation (e : Engine σ) (lent : (World σ → World σ) → Prop) (r : Ref) :
    {α : Type} → (Link σ → World σ → α × Link σ × World σ) → Prop
  | acquire : Operation e lent r (acquire r)
  | turn : Operation e lent r (turn r)
  | release : Operation e lent r (release e r)
  | use {α : Type} {f : World σ → Except Fault α × World σ} (hf : lent fun w => (f w).2) :
      Operation e lent r (use r f)
  | abandon {f : World σ → World σ} (hf : lent f) : Operation e lent r (abandon r f)

theorem Operation.mono {e : Engine σ} {lent lent' : (World σ → World σ) → Prop} {r : Ref}
    {f : Link σ → World σ → α × Link σ × World σ} (h : Operation e lent r f)
    (hl : ∀ g, lent g → lent' g) : Operation e lent' r f := by
  cases h with
  | acquire => exact .acquire
  | turn => exact .turn
  | release => exact .release
  | use hf => exact .use (hl _ hf)
  | abandon hf => exact .abandon (hl _ hf)

theorem Operation.move {e : Engine σ} {lent : (World σ → World σ) → Prop} {r : Ref}
    {f : Link σ → World σ → α × Link σ × World σ} (hl : ∀ g, lent g → ∀ w : World σ, w.Works (g w))
    (h : Operation e lent r f) (l : Link σ) (w : World σ) : Move r l (f l w).2.1 w (f l w).2.2 := by
  cases h with
  | acquire => exact acquire_move r l w
  | turn => exact turn_move r l w
  | release => exact release_move e r l w
  | use hf => exact use_move r (hl _ hf) l w
  | abandon hf => exact abandon_move r (hl _ hf) l w

end Link

end ItemGateway
