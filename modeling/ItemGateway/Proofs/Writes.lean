import ItemGateway.Proofs.DispatchFrame
import ItemGateway.Proofs.PayloadFields

namespace ItemGateway

variable {σ : Type}

inductive Write
  | update
  | insert

namespace Write

def statement : Write → String → Payload → Statement
  | update => .ofUpdate
  | insert => .ofInsert

def needs : Write → List String
  | update => [Payload.valueKey]
  | insert => [Payload.valueKey, Payload.timeKey]

theorem statement_of_lack {k : Write} {p : Payload} (template : String)
    (h : ∃ key ∈ k.needs, p.field? key = none) : k.statement template p = .bound template p.raw := by
  obtain ⟨key, hk, hn⟩ := h
  cases k with
  | update =>
    obtain rfl := List.mem_singleton.mp hk
    simp only [statement, Statement.ofUpdate, hn]
  | insert =>
    rcases List.mem_pair.mp hk with rfl | rfl
    · simp only [statement, Statement.ofInsert, hn]
    · simp only [statement, Statement.ofInsert, hn]
      split <;> simp_all

theorem statement_of_needs {k : Write} {p : Payload} (template : String)
    (h : ∀ key ∈ k.needs, (p.field? key).isSome = true) : ∃ sql, k.statement template p = .filled sql := by
  cases k with
  | update =>
    obtain ⟨value, hv⟩ := Option.isSome_iff_exists.mp (h Payload.valueKey (by simp [needs]))
    exact ⟨Template.fillUpdate template value, by simp only [statement, Statement.ofUpdate, hv]⟩
  | insert =>
    obtain ⟨value, hv⟩ := Option.isSome_iff_exists.mp (h Payload.valueKey (by simp [needs]))
    obtain ⟨time, ht⟩ := Option.isSome_iff_exists.mp (h Payload.timeKey (by simp [needs]))
    exact ⟨Template.fillInsert template value time, by simp only [statement, Statement.ofInsert, hv, ht]⟩

theorem statement_cases (k : Write) (template : String) (p : Payload) :
    k.statement template p = .bound template p.raw ∨ ∃ sql, k.statement template p = .filled sql := by
  by_cases h : ∃ key ∈ k.needs, p.field? key = none
  · exact .inl (statement_of_lack template h)
  · right
    apply statement_of_needs
    intro key hk
    rw [Option.isSome_iff_ne_none]
    exact fun hn => h ⟨key, hk, hn⟩

end Write

def Statement.placeholders : Statement → ℕ
  | filled _ => 0
  | bound _ _ => 1

namespace Query

theorem refusal?_eq_none_iff (s : Statement) (n : ℕ) : refusal? s n = none ↔ n = s.placeholders := by
  match s, n with
  | .filled _, 0 | .filled _, n + 1 => simp [refusal?, Statement.placeholders]
  | .bound _ _, 0 | .bound _ _, 1 | .bound _ _, n + 2 => simp [refusal?, Statement.placeholders]

theorem kind_of_refusal? {s : Statement} {n : ℕ} {f : Fault} (h : refusal? s n = some f) :
    f.kind = .execution := by
  match s, n with
  | .filled _, 0 | .bound _ _, 1 => cases h
  | .filled _, n + 1 | .bound _ _, 0 | .bound _ _, n + 2 =>
    obtain rfl := Option.some.inj h
    rfl

variable {e : Engine σ} {r : Ref} {s : Statement} {w w' : World σ} {q : Prepared}

theorem execute_of_unprepared {cause : String} (h : w.prepare e r s.sql = (.error cause, w')) :
    execute e r s w = (.error (.prepareRefused cause), w') := by
  simp only [execute, h]

theorem execute_of_refused {f : Fault} (h : w.prepare e r s.sql = (.ok q, w'))
    (hf : refusal? s q.parameters = some f) : execute e r s w = (.error f, w') := by
  simp only [execute, h, hf]

theorem execute_of_filled (h : w.prepare e r s.sql = (.ok q, w')) (hq : q.parameters = s.placeholders) :
    execute e r s w =
      ((w'.execute e r (boundValue s)).1.mapError .executionFailed, (w'.execute e r (boundValue s)).2) := by
  simp only [execute, h, (refusal?_eq_none_iff s _).mpr hq]
  split <;> next hx => rw [hx]; rfl

end Query

namespace Pool

def write (p : Pool σ) : Write → String → String → Except Fault ℕ × Pool σ
  | .update => p.update
  | .insert => p.insert

theorem write_eq_dispatch (p : Pool σ) (k : Write) (address payload : String) :
    p.write k address payload = p.dispatch address fun r template =>
      Query.execute p.engine r (k.statement template (.parse payload)) := by
  cases k <;> rfl

structure Prepares (p : Pool σ) (id sql : String) (r : Ref) (q : Prepared) : Prop where
  known : p.get? id = some r
  acquired : (p.acquire r).1 = .ok ()
  prepared : ((p.acquire r).2.world.prepare p.engine r sql).1 = .ok q

def prepared (p : Pool σ) (r : Ref) (sql : String) : Pool σ :=
  { (p.acquire r).2 with world := ((p.acquire r).2.world.prepare p.engine r sql).2 }

def ran (p : Pool σ) (r : Ref) (s : Statement) : Except Fault ℕ × Pool σ :=
  let a := (p.prepared r s.sql).world.execute p.engine r (Query.boundValue s)
  (a.1.mapError .executionFailed, { p.prepared r s.sql with world := a.2 })

theorem Prepares.unique {p : Pool σ} {id sql : String} {r r' : Ref} {q q' : Prepared}
    (h : p.Prepares id sql r q) (h' : p.Prepares id sql r' q') : r' = r ∧ q' = q := by
  obtain rfl : r' = r := Option.some.inj (h'.known.symm.trans h.known)
  exact ⟨rfl, Except.ok.inj (h'.prepared.symm.trans h.prepared)⟩

inductive WriteOutcome (p : Pool σ) (id : String) (s : Statement) : Except Fault ℕ × Pool σ → Prop
  | unknown (hr : p.get? id = none) : WriteOutcome p id s (.error (.unknownServer id), p)
  | unopened {r : Ref} {f : Fault} (hr : p.get? id = some r) (ha : (p.acquire r).1 = .error f) :
      WriteOutcome p id s (.error f, (p.acquire r).2)
  | unprepared {r : Ref} {cause : String} (hr : p.get? id = some r) (ha : (p.acquire r).1 = .ok ())
      (hp : ((p.acquire r).2.world.prepare p.engine r s.sql).1 = .error cause) :
      WriteOutcome p id s (.error (.prepareRefused cause), p.prepared r s.sql)
  | refused {r : Ref} {q : Prepared} {f : Fault} (h : p.Prepares id s.sql r q)
      (hf : Query.refusal? s q.parameters = some f) : WriteOutcome p id s (.error f, p.prepared r s.sql)
  | ran {r : Ref} {q : Prepared} (h : p.Prepares id s.sql r q) (hq : q.parameters = s.placeholders) :
      WriteOutcome p id s (p.ran r s)

theorem outcome_of_write (p : Pool σ) (k : Write) (address payload : String) :
    p.WriteOutcome (Address.parse address).target (k.statement (Address.parse address).template (.parse payload))
      (p.write k address payload) := by
  rw [write_eq_dispatch]
  cases hr : p.get? (Address.parse address).target with
  | none =>
    rw [dispatch_of_unknown hr]
    exact .unknown hr
  | some r =>
    rcases ha : (p.acquire r).1 with f | ⟨⟩
    · rw [dispatch_of_error hr ha]
      exact .unopened hr ha
    · rw [dispatch_of_ok hr ha]
      generalize k.statement (Address.parse address).template (.parse payload) = s
      rcases hp : ((p.acquire r).2.world.prepare p.engine r s.sql).1 with cause | q
      · rw [Query.execute_of_unprepared (Prod.ext hp rfl)]
        exact .unprepared hr ha hp
      · cases hf : Query.refusal? s q.parameters with
        | some f =>
          rw [Query.execute_of_refused (Prod.ext hp rfl) hf]
          exact .refused ⟨hr, ha, hp⟩ hf
        | none =>
          have hq := (Query.refusal?_eq_none_iff s q.parameters).mp hf
          rw [Query.execute_of_filled (Prod.ext hp rfl) hq]
          exact .ran ⟨hr, ha, hp⟩ hq

theorem acquire_trail (p : Pool σ) (r : Ref) :
    ∃ new, (p.acquire r).2.world.trail = new ++ p.world.trail ∧ ∀ e ∈ new, e.isRun = false := by
  obtain ⟨new, ht, -, ho⟩ := Link.acquire_trail r (p.link r) p.world
  refine ⟨new, ht, ?_⟩
  intro e he
  exact (Bool.or_eq_false_iff.mp (Event.isStatement_of_isOpening (ho e he).1)).2

namespace WriteOutcome

variable {p : Pool σ} {id : String} {s : Statement} {a : Except Fault ℕ × Pool σ}

theorem of_prepares (h : p.WriteOutcome id s a) {r : Ref} {q : Prepared} (hp : p.Prepares id s.sql r q) :
    (q.parameters = s.placeholders ∧ a = p.ran r s) ∨
      (q.parameters ≠ s.placeholders ∧ ∃ f, f.kind = .execution ∧ a = (.error f, p.prepared r s.sql)) := by
  cases h with
  | unknown hr => cases hr.symm.trans hp.known
  | unopened hr ha =>
    obtain rfl := Option.some.inj (hr.symm.trans hp.known)
    cases ha.symm.trans hp.acquired
  | unprepared hr ha hq =>
    obtain rfl := Option.some.inj (hr.symm.trans hp.known)
    cases hq.symm.trans hp.prepared
  | refused h hf =>
    obtain ⟨rfl, rfl⟩ := h.unique hp
    refine .inr ⟨?_, _, Query.kind_of_refusal? hf, rfl⟩
    intro hq
    rw [(Query.refusal?_eq_none_iff s _).mpr hq] at hf
    cases hf
  | ran h hq =>
    obtain ⟨rfl, rfl⟩ := h.unique hp
    exact .inl ⟨hq, rfl⟩

theorem ran_or_error (h : p.WriteOutcome id s a) :
    (∃ r q, p.Prepares id s.sql r q ∧ q.parameters = s.placeholders ∧ a = p.ran r s) ∨
      ((∃ f, a.1 = .error f) ∧
        ∃ new, a.2.world.trail = new ++ p.world.trail ∧ ∀ e ∈ new, e.isRun = false) := by
  have prepared (r : Ref) : ∃ new, (p.prepared r s.sql).world.trail = new ++ p.world.trail ∧
      ∀ e ∈ new, e.isRun = false := by
    obtain ⟨new, hn, ho⟩ := p.acquire_trail r
    refine ⟨.prepared r s.sql :: new, ?_, ?_⟩
    · rw [List.cons_append, ← hn]
      rfl
    · intro e he
      rcases List.mem_cons.mp he with rfl | he
      · rfl
      · exact ho e he
  cases h with
  | unknown => exact .inr ⟨⟨_, rfl⟩, [], rfl, by simp⟩
  | @unopened r f hr ha =>
    obtain ⟨new, hn, ho⟩ := p.acquire_trail r
    exact .inr ⟨⟨f, rfl⟩, new, hn, ho⟩
  | unprepared => exact .inr ⟨⟨_, rfl⟩, prepared _⟩
  | refused => exact .inr ⟨⟨_, rfl⟩, prepared _⟩
  | ran h hq => exact .inl ⟨_, _, h, hq, rfl⟩

end WriteOutcome

theorem ran_trail (p : Pool σ) (r : Ref) (s : Statement) :
    (p.ran r s).2.world.trail =
      .executed r (Query.boundValue s) :: .prepared r s.sql :: (p.acquire r).2.world.trail := rfl

theorem kind_of_ran {p : Pool σ} {r : Ref} {s : Statement} {f : Fault} (h : (p.ran r s).1 = .error f) :
    f.kind = .execution := by
  change ((p.prepared r s.sql).world.execute p.engine r (Query.boundValue s)).1.mapError _ = _ at h
  rcases hx : ((p.prepared r s.sql).world.execute p.engine r (Query.boundValue s)).1 with cause | n
  · rw [hx] at h
    obtain rfl := Except.error.inj h
    rfl
  · rw [hx] at h
    cases h

/-- A write runs its statement exactly if it binds as many values as there are placeholders. -/
theorem write_runs_filled_only (p : Pool σ) (k : Write) (address payload : String) :
    let id := (Address.parse address).target
    let template := (Address.parse address).template
    let s := k.statement template (.parse payload)
    let a := p.write k address payload
    (s = .bound template payload ∨ ∃ sql, s = .filled sql) ∧
      (∃ new, a.2.world.trail = new ++ p.world.trail ∧
        ((∃ e ∈ new, e.isRun = true) ↔
          ∃ r q, p.Prepares id s.sql r q ∧ q.parameters = s.placeholders)) ∧
      ((¬∃ r q, p.Prepares id s.sql r q ∧ q.parameters = s.placeholders) → ∃ f, a.1 = .error f) ∧
      ∀ r q, p.Prepares id s.sql r q →
        (a.2.link r).isOpen = true ∧ (∀ f, a.1 = .error f → f.kind = .execution) ∧
          (q.parameters ≠ s.placeholders → a.2 = p.prepared r s.sql) ∧
          (q.parameters = s.placeholders →
            a.1 = ((p.prepared r s.sql).world.execute p.engine r (Query.boundValue s)).1.mapError
                .executionFailed ∧
              a.2.world.trail =
                .executed r (Query.boundValue s) :: .prepared r s.sql :: (p.acquire r).2.world.trail) := by
  intro id template s a
  have hw : p.WriteOutcome id s a := p.outcome_of_write k address payload
  have hs : s = .bound template payload ∨ ∃ sql, s = .filled sql := by
    have h := k.statement_cases template (.parse payload)
    rw [Payload.raw_parse] at h
    exact h
  have ran {r : Ref} {q : Prepared} (hp : p.Prepares id s.sql r q) (hq : q.parameters = s.placeholders) :
      a = p.ran r s := by
    rcases hw.of_prepares hp with ⟨-, ha⟩ | ⟨hn, -⟩
    · exact ha
    · exact absurd hq hn
  refine ⟨hs, ?_, ?_, ?_⟩
  · rcases hw.ran_or_error with ⟨r, q, hp, hq, ha⟩ | ⟨-, new, hn, hr⟩
    · obtain ⟨new, hn, -⟩ := p.acquire_trail r
      refine ⟨.executed r (Query.boundValue s) :: .prepared r s.sql :: new, ?_, ?_⟩
      · rw [ha, ran_trail, hn]
        rfl
      · exact ⟨fun _ => ⟨r, q, hp, hq⟩, fun _ => ⟨_, List.mem_cons_self, rfl⟩⟩
    · refine ⟨new, hn, ?_, ?_⟩
      · rintro ⟨e, he, hx⟩
        rw [hr e he] at hx
        cases hx
      · rintro ⟨r, q, hp, hq⟩
        obtain ⟨old, ho, -⟩ := p.acquire_trail r
        rw [ran hp hq, ran_trail, ho, ← List.cons_append, ← List.cons_append,
          List.append_cancel_right_eq] at hn
        exact ⟨_, hn ▸ List.mem_cons_self, rfl⟩
  · intro hn
    rcases hw.ran_or_error with ⟨r, q, hp, hq, -⟩ | ⟨hf, -⟩
    · exact absurd ⟨r, q, hp, hq⟩ hn
    · exact hf
  · intro r q hp
    have ho := isOpen_of_acquire hp.acquired
    rcases hw.of_prepares hp with ⟨hq, ha⟩ | ⟨hq, f, hf, ha⟩
    · rw [ha]
      exact ⟨ho, fun f => kind_of_ran, fun hn => absurd hq hn, fun _ => ⟨rfl, p.ran_trail r s⟩⟩
    · rw [ha]
      refine ⟨ho, ?_, fun _ => rfl, fun h => absurd h hq⟩
      intro f' hf'
      rw [← Except.error.inj hf']
      exact hf

end Pool

def Engine.marking : Engine Unit := { Engine.idle with
  prepare := fun _ sql w => (.ok ⟨sql.toList.count '?', false, []⟩, w)
  execute := fun _ _ w => (.ok 1, w) }

namespace Pool

def marked : Pool Unit :=
  (new .marking [] ()).register { id := defaultServer, url := ":memory:", user := "u", password := "p" }

theorem third_mark_refused :
    marked.Prepares "DefaultServer" "UPDATE t SET v = ?" 0 ⟨1, false, []⟩ ∧
      (marked.write .update "UPDATE t SET v = ?" "ON").1 = .ok 1 ∧
      (marked.write .update "UPDATE t SET v = ?" "ON").2.world.trail =
        [.executed 0 (some "ON"), .prepared 0 "UPDATE t SET v = ?", .opened 0 defaultDriver true] ∧
      marked.Prepares "DefaultServer" "INSERT INTO t VALUES (2, '1', ?)" 0 ⟨1, false, []⟩ ∧
      (marked.write .insert "INSERT INTO t VALUES (?, ?, ?)" "time=1&value=2").2 =
        marked.prepared 0 "INSERT INTO t VALUES (2, '1', ?)" := by
  have h : marked.Prepares "DefaultServer" "UPDATE t SET v = ?" 0 ⟨1, false, []⟩ := ⟨rfl, rfl, rfl⟩
  have h' : marked.Prepares "DefaultServer" "INSERT INTO t VALUES (2, '1', ?)" 0 ⟨1, false, []⟩ :=
    ⟨rfl, rfl, rfl⟩
  have hu := (write_runs_filled_only marked .update "UPDATE t SET v = ?" "ON").2.2.2 0 _ h
  have hi :=
    (write_runs_filled_only marked .insert "INSERT INTO t VALUES (?, ?, ?)" "time=1&value=2").2.2.2 0 _ h'
  exact ⟨h, (hu.2.2.2 rfl).1, (hu.2.2.2 rfl).2, h', hi.2.2.1 (by decide)⟩

end Pool

end ItemGateway
