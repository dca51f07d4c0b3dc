import ItemGateway.Proofs.AddressSplit
import ItemGateway.Proofs.PoolRuns

namespace ItemGateway

variable {σ α : Type}

def World.Visits (r : Ref) (openings statements : ℕ) (w w' : World σ) : Prop :=
  ∃ new, w'.trail = new ++ w.trail ∧ new.countP (·.isOpening) ≤ openings ∧
    new.countP (·.isPreparing) ≤ statements ∧ ∀ e ∈ new, e.link = r

namespace World

variable {r : Ref} {m n m' n' : ℕ} {w w' w'' : World σ}

theorem Visits.trans (h : w.Visits r m n w') (h' : w'.Visits r m' n' w'') :
    w.Visits r (m + m') (n + n') w'' := by
  obtain ⟨new, ht, hm, hn, hl⟩ := h
  obtain ⟨new', ht', hm', hn', hl'⟩ := h'
  refine ⟨new' ++ new, by rw [ht', ht, List.append_assoc], ?_, ?_, ?_⟩
  · rw [List.countP_append]
    omega
  · rw [List.countP_append]
    omega
  · intro e he
    exact (List.mem_append.mp he).elim (hl' e) (hl e)

theorem Visits.mono (h : w.Visits r m n w') (hm : m ≤ m') (hn : n ≤ n') : w.Visits r m' n' w' := by
  obtain ⟨new, ht, ho, hp, hl⟩ := h
  exact ⟨new, ht, ho.trans hm, hp.trans hn, hl⟩

theorem Asks.visits (h : w.Asks r w') : w.Visits r 0 1 w' := by
  obtain ⟨runs, sql, ht, hr⟩ := h
  have hn (p : Event → Bool) (hp : ∀ e, e.isRun = true → p e = false) : runs.countP p = 0 := by
    apply List.countP_eq_zero.mpr
    intro e he
    simp [hp e (hr e he).1]
  refine ⟨runs ++ [.prepared r sql], by simp [ht], ?_, ?_, ?_⟩
  · rw [List.countP_append, hn _ (by intro e; cases e <;> simp [Event.isRun, Event.isOpening])]
    simp [Event.isOpening]
  · rw [List.countP_append, hn _ (by intro e; cases e <;> simp [Event.isRun, Event.isPreparing])]
    simp [Event.isPreparing]
  · intro e he
    rcases List.mem_append.mp he with he | he
    · exact (hr e he).2
    · rw [List.mem_singleton.mp he]
      rfl

end World

namespace Link

theorem acquire_trail (r : Ref) (l : Link σ) (w : World σ) :
    ∃ new, (l.acquire r w).2.2.trail = new ++ w.trail ∧ new.length ≤ 1 ∧
      ∀ e ∈ new, e.isOpening = true ∧ e.link = r := by
  have h := acquired r l w
  generalize (l.acquire r w).1 = a, (l.acquire r w).2.1 = l', (l.acquire r w).2.2 = w' at h
  cases h with
  | broken | live | incomplete | driverless => exact ⟨[], rfl, by simp, by simp⟩
  | refused hb hl hc hd hw | opened hb hl hc hd hw =>
    exact ⟨[_], World.trail_of_connect hw, by simp, by simp [Event.isOpening, Event.link]⟩

theorem acquire_visits (r : Ref) (l : Link σ) (w : World σ) :
    w.Visits r 1 0 (l.acquire r w).2.2 := by
  obtain ⟨new, ht, hl, ho⟩ := acquire_trail r l w
  refine ⟨new, ht, List.countP_le_length.trans hl, ?_, fun e he => (ho e he).2⟩
  rw [Nat.le_zero, List.countP_eq_zero]
  intro e he hp
  have hs := Event.isStatement_of_isOpening (ho e he).1
  rw [Event.isStatement, hp] at hs
  cases hs

theorem acquire_slot (r : Ref) (l : Link σ) (w : World σ) :
    (l.acquire r w).2.1 = l ∨ (l.acquire r w).2.1 = { l with live := true } ∧ (l.acquire r w).1 = .ok () := by
  have h := acquired r l w
  generalize (l.acquire r w).1 = a, (l.acquire r w).2.1 = l', (l.acquire r w).2.2 = w' at h ⊢
  cases h with
  | broken | live | incomplete | driverless | refused => exact .inl rfl
  | opened => exact .inr ⟨rfl, rfl⟩

theorem use_slot (r : Ref) (f : World σ → Except Fault α × World σ) (l : Link σ) (w : World σ) :
    (l.use r f w).2.1 = (l.acquire r w).2.1 := by
  unfold use
  split <;> next ha => rw [ha]

theorem use_visits (r : Ref) {f : World σ → Except Fault α × World σ}
    (hf : ∀ w : World σ, w.Asks r (f w).2) (l : Link σ) (w : World σ) :
    w.Visits r 1 1 (l.use r f w).2.2 := by
  have h := acquire_visits r l w
  unfold use
  split
  · next ha => rw [ha] at h; exact h.mono (Nat.le_refl 1) (Nat.zero_le 1)
  · next ha => rw [ha] at h; exact h.trans (hf _).visits

end Link

namespace Pool

structure Framed (p : Pool σ) (id : String) (a : Except Fault α × Pool σ) : Prop where
  fixed : a.2 = { p with links := a.2.links, world := a.2.world }
  size : a.2.links.size = p.links.size
  others : ∀ r, p.get? id ≠ some r → a.2.link r = p.link r
  slot : ∀ r, a.2.link r = p.link r ∨ a.2.link r = { p.link r with live := true }
  trail : ∃ new, a.2.world.trail = new ++ p.world.trail ∧ new.countP (·.isOpening) ≤ 1 ∧
    new.countP (·.isPreparing) ≤ 1 ∧ ∀ e ∈ new, p.get? id = some e.link
  unknown : p.get? id = none → a = (.error (.unknownServer id), p)

theorem dispatch_of_unknown {p : Pool σ} {address : String}
    (h : p.get? (Address.parse address).target = none)
    (f : Ref → String → World σ → Except Fault α × World σ) :
    p.dispatch address f = (.error (.unknownServer (Address.parse address).target), p) := by
  simp only [dispatch, resolve, h]

theorem dispatch_of_known {p : Pool σ} {address : String} {r : Ref}
    (h : p.get? (Address.parse address).target = some r)
    (f : Ref → String → World σ → Except Fault α × World σ) :
    p.dispatch address f = p.use r (f r (Address.parse address).template) := by
  simp only [dispatch, resolve, h]

theorem use_of_error {p : Pool σ} {r : Ref} {e : Fault} (h : (p.acquire r).1 = .error e)
    (f : World σ → Except Fault α × World σ) : p.use r f = (.error e, (p.acquire r).2) := by
  simp only [use, acquire, on, Link.use] at h ⊢
  rcases ha : (p.link r).acquire r p.world with ⟨a, l, w⟩
  rw [ha] at h
  obtain rfl : a = .error e := h
  rfl

theorem use_of_ok {p : Pool σ} {r : Ref} (h : (p.acquire r).1 = .ok ())
    (f : World σ → Except Fault α × World σ) :
    p.use r f = ((f (p.acquire r).2.world).1,
      { (p.acquire r).2 with world := (f (p.acquire r).2.world).2 }) := by
  simp only [use, acquire, on, Link.use] at h ⊢
  rcases ha : (p.link r).acquire r p.world with ⟨a, l, w⟩
  rw [ha] at h
  obtain rfl : a = .ok () := h
  rfl

theorem dispatch_of_error {p : Pool σ} {address : String} {r : Ref} {e : Fault}
    (hr : p.get? (Address.parse address).target = some r) (ha : (p.acquire r).1 = .error e)
    (f : Ref → String → World σ → Except Fault α × World σ) :
    p.dispatch address f = (.error e, (p.acquire r).2) := by
  rw [dispatch_of_known hr, use_of_error ha]

theorem dispatch_of_ok {p : Pool σ} {address : String} {r : Ref}
    (hr : p.get? (Address.parse address).target = some r) (ha : (p.acquire r).1 = .ok ())
    (f : Ref → String → World σ → Except Fault α × World σ) :
    p.dispatch address f = ((f r (Address.parse address).template (p.acquire r).2.world).1,
      { (p.acquire r).2 with world := (f r (Address.parse address).template (p.acquire r).2.world).2 }) := by
  rw [dispatch_of_known hr, use_of_ok ha]

theorem isOpen_of_acquire {p : Pool σ} {r : Ref} (h : (p.acquire r).1 = .ok ()) :
    ((p.acquire r).2.link r).isOpen = true := by
  have ha := Link.acquired r (p.link r) p.world
  rw [show ((p.link r).acquire r p.world).1 = .ok () from h] at ha
  rcases Nat.lt_or_ge r p.links.size with hr | hr
  · rw [acquire, p.link_on_of_lt hr]
    generalize ((p.link r).acquire r p.world).2.1 = l, ((p.link r).acquire r p.world).2.2 = w at ha
    cases ha with
    | live hb hl => simp [Link.isOpen, hb, hl]
    | opened hb => simp [Link.isOpen, hb]
  · rw [p.link_of_size_le hr] at ha
    generalize (Link.vacant.acquire r p.world).2.1 = l, (Link.vacant.acquire r p.world).2.2 = w at ha
    cases ha with
    | live hb hl => cases hl
    | opened hb hl hc hd => cases hd

theorem live_of_acquire {p : Pool σ} {r : Ref} (h : (p.acquire r).1 = .ok ()) :
    ((p.acquire r).2.link r).live = true := by
  have hi := isOpen_of_acquire h
  rw [Link.isOpen, Bool.and_eq_true] at hi
  exact hi.1

theorem use_slot (p : Pool σ) (r s : Ref) (f : World σ → Except Fault α × World σ) :
    (p.use r f).2.link s = p.link s ∨ (p.use r f).2.link s = { p.link s with live := true } := by
  rw [use, link_on]
  split
  · rw [Link.use_slot]
    exact (Link.acquire_slot r (p.link s) p.world).imp_right And.left
  · exact .inl rfl

theorem dispatch_framed (p : Pool σ) {address id : String} (h : Address.IsFor address id)
    {f : Ref → String → World σ → Except Fault α × World σ}
    (hf : ∀ r template, ∀ w : World σ, w.Asks r (f r template w).2) :
    p.Framed id (p.dispatch address f) := by
  obtain rfl := Address.isFor_iff.mp h
  cases hr : p.get? (Address.parse address).target with
  | none =>
    rw [dispatch_of_unknown hr]
    exact ⟨rfl, rfl, fun _ _ => rfl, fun _ => .inl rfl, ⟨[], rfl, by simp⟩, fun _ => rfl⟩
  | some r =>
    rw [dispatch_of_known hr]
    refine ⟨rfl, p.size_on r _, ?_, fun s => p.use_slot r s _, ?_, ?_⟩
    · intro s hs
      rw [hr] at hs
      exact p.link_on_of_ne (fun he => hs (by rw [he])) _
    · obtain ⟨new, ht, hm, hn, hl⟩ :=
        Link.use_visits r (hf r (Address.parse address).template) (p.link r) p.world
      exact ⟨new, ht, hm, hn, fun e he => by rw [hr, hl e he]⟩
    · intro hu
      rw [hr] at hu
      cases hu

/-- A select or a write touches nothing but the link registered for the server that its address is for. -/
theorem request_framed (p : Pool σ) {address id : String} (h : Address.IsFor address id)
    (payload : String) :
    p.Framed id (p.select address) ∧ p.Framed id (p.update address payload) ∧
      p.Framed id (p.insert address payload) := by
  refine ⟨p.dispatch_framed h ?_, p.dispatch_framed h ?_, p.dispatch_framed h ?_⟩
  · exact fun r template w => Query.readFirst_asks _ r template w
  · exact fun r _ w => Query.execute_asks _ r _ w
  · exact fun r _ w => Query.execute_asks _ r _ w

def openDefault : Pool Unit :=
  let s : Server := { id := defaultServer, url := ":memory:", user := "u", password := "p" }
  (((new .idle [] ()).register s).acquire 0).2

theorem misread_colon_unknown :
    Address.IsFor "SELECT a:b" "SELECT a" ∧ openDefault.openIds = [defaultServer] ∧
      openDefault.select "SELECT a:b" = (.error (.unknownServer "SELECT a"), openDefault) := by
  have hi : Address.IsId "SELECT a".toList := by simp [Address.IsId, Address.isQuote]
  have h : Address.IsFor "SELECT a:b" "SELECT a" := @Address.IsFor.named _ _ "b" hi rfl
  exact ⟨h, rfl, (request_framed openDefault h "").1.unknown rfl⟩

end Pool

end ItemGateway
