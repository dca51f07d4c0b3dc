import ItemGateway.Proofs.Congruence
import Mathlib.Data.List.Infix

namespace ItemGateway

variable {σ α : Type}

namespace Event

def link : Event → Ref
  | opened r _ _ => r
  | closed r => r
  | prepared r _ => r
  | stepped r => r
  | executed r _ => r

def isOpening : Event → Bool
  | opened .. => true
  | _ => false

def isPreparing : Event → Bool
  | prepared .. => true
  | _ => false

def isRun : Event → Bool
  | stepped _ => true
  | executed .. => true
  | _ => false

def isStatement (e : Event) : Bool :=
  e.isPreparing || e.isRun

def opens (r : Ref) : Event → Bool
  | opened r' _ success => r' = r && success
  | _ => false

def closes (r : Ref) : Event → Bool
  | closed r' => r' = r
  | _ => false

theorem opens_of_link_ne {e : Event} {r : Ref} (h : e.link ≠ r) : e.opens r = false := by
  cases e <;> simp_all [link, opens]

theorem closes_of_link_ne {e : Event} {r : Ref} (h : e.link ≠ r) : e.closes r = false := by
  cases e <;> simp_all [link, closes]

theorem opens_of_isStatement {e : Event} (h : e.isStatement = true) (r : Ref) : e.opens r = false := by
  cases e <;> simp_all [isStatement, isPreparing, isRun, opens]

theorem closes_of_isStatement {e : Event} (h : e.isStatement = true) (r : Ref) :
    e.closes r = false := by
  cases e <;> simp_all [isStatement, isPreparing, isRun, closes]

theorem isStatement_of_isOpening {e : Event} (h : e.isOpening = true) : e.isStatement = false := by
  cases e with
  | opened => rfl
  | closed | prepared | stepped | executed => cases h

end Event

namespace World

def opens (w : World σ) (r : Ref) : ℕ := w.trail.countP (·.opens r)

def closes (w : World σ) (r : Ref) : ℕ := w.trail.countP (·.closes r)

def Works (w w' : World σ) : Prop :=
  ∃ new, w'.trail = new ++ w.trail ∧ ∀ e ∈ new, e.isStatement = true

def Asks (r : Ref) (w w' : World σ) : Prop :=
  ∃ runs sql, w'.trail = runs ++ .prepared r sql :: w.trail ∧
    ∀ e ∈ runs, e.isRun = true ∧ e.link = r

theorem works_refl (w : World σ) : w.Works w :=
  ⟨[], rfl, List.forall_mem_nil _⟩

theorem Asks.works {r : Ref} {w w' : World σ} (h : w.Asks r w') : w.Works w' := by
  obtain ⟨runs, sql, ht, hr⟩ := h
  refine ⟨runs ++ [.prepared r sql], by simp [ht], ?_⟩
  intro e he
  rcases List.mem_append.mp he with he | he
  · simp [Event.isStatement, (hr e he).1]
  · rw [List.mem_singleton.mp he]
    rfl

theorem asks_prepare (e : Engine σ) (r : Ref) (sql : String) (w : World σ) :
    w.Asks r (w.prepare e r sql).2 :=
  ⟨[], sql, rfl, by simp⟩

theorem Asks.run {r : Ref} {w w' v : World σ} {ev : Event} (h : w.Asks r w')
    (hv : v.trail = ev :: w'.trail) (hr : ev.isRun = true) (hl : ev.link = r) : w.Asks r v := by
  obtain ⟨runs, sql, ht, hs⟩ := h
  refine ⟨ev :: runs, sql, by simp [hv, ht], ?_⟩
  intro e he
  rcases List.mem_cons.mp he with rfl | he
  · exact ⟨hr, hl⟩
  · exact hs e he

theorem Asks.step {r : Ref} {w w' : World σ} (h : w.Asks r w') (e : Engine σ) :
    w.Asks r (w'.step e r).2 :=
  h.run rfl rfl rfl

theorem Asks.execute {r : Ref} {w w' : World σ} (h : w.Asks r w') (e : Engine σ)
    (bound : Option String) : w.Asks r (w'.execute e r bound).2 :=
  h.run rfl rfl rfl

end World

theorem Query.readFirst_asks (e : Engine σ) (r : Ref) (sql : String) (w : World σ) :
    w.Asks r (Query.readFirst e r sql w).2 := by
  apply Query.readFirst_keeps (I := fun v => v = w) _ (fun _ h => h.step e) rfl
  rintro v rfl
  exact World.asks_prepare e r sql v

theorem Query.execute_asks (e : Engine σ) (r : Ref) (s : Statement) (w : World σ) :
    w.Asks r (Query.execute e r s w).2 := by
  apply Query.execute_keeps (I := fun v => v = w) _ (fun _ h => h.execute e _) (fun _ h => h) rfl
  rintro v rfl
  exact World.asks_prepare e r s.sql v

structure Ledger (r : Ref) (live : Bool) (trail : List Event) : Prop where
  balance : trail.countP (·.opens r) = trail.countP (·.closes r) + live.toNat
  single : ∀ past, past <:+ trail → past.countP (·.opens r) ≤ past.countP (·.closes r) + 1

namespace Ledger

variable {r : Ref} {live live' : Bool} {trail : List Event}

theorem nil (r : Ref) : Ledger r false [] :=
  ⟨rfl, by simp⟩

theorem cons {e : Event} (h : Ledger r live trail)
    (he : (e.opens r).toNat + live.toNat = (e.closes r).toNat + live'.toNat) :
    Ledger r live' (e :: trail) := by
  have count (p : Event → Bool) : (e :: trail).countP p = trail.countP p + (p e).toNat := by
    cases hp : p e <;> simp [hp]
  have hb : (e :: trail).countP (·.opens r) = (e :: trail).countP (·.closes r) + live'.toNat := by
    have := h.balance
    rw [count, count]
    omega
  refine ⟨hb, ?_⟩
  intro past hp
  rcases List.suffix_cons_iff.mp hp with rfl | hp
  · have := Bool.toNat_le live'
    omega
  · exact h.single past hp

theorem other {e : Event} (h : Ledger r live trail) (ho : e.opens r = false)
    (hc : e.closes r = false) : Ledger r live (e :: trail) :=
  h.cons (by rw [ho, hc])

theorem append {new : List Event} (h : Ledger r live trail)
    (hs : ∀ e ∈ new, e.isStatement = true) : Ledger r live (new ++ trail) := by
  induction new with
  | nil => exact h
  | cons e new ih =>
    have he := hs e (by simp)
    exact (ih (fun d hd => hs d (by simp [hd]))).other
      (Event.opens_of_isStatement he r) (Event.closes_of_isStatement he r)

theorem works {w w' : World σ} (h : Ledger r live w.trail) (hw : w.Works w') :
    Ledger r live w'.trail := by
  obtain ⟨new, ht, hs⟩ := hw
  rw [ht]
  exact h.append hs

end Ledger

end ItemGateway
