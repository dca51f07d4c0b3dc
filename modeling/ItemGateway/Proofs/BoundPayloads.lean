import ItemGateway.Proofs.Writes

namespace ItemGateway

variable {σ : Type}

namespace Payload

theorem isSome_field?_parse {text key : String} (h : ((parse text).field? key).isSome = true) :
    isNamedText text.toList = true ∧ ∃ f ∈ segments text.toList, f.1 = key := by
  rw [field?_parse] at h
  split at h
  · next hn =>
    obtain ⟨f, hf, hk⟩ := List.lookup_isSome_iff.mp h
    exact ⟨hn, f, List.mem_reverse.mp hf, (beq_iff_eq.mp hk).symm⟩
  · cases h

end Payload

namespace Write

def Binds (k : Write) (payload : String) : Prop :=
  (Payload.parse payload).isNamed = false ∨ ∃ key ∈ k.needs, (Payload.parse payload).field? key = none

theorem needs_ne_nil (k : Write) : k.needs ≠ [] := by
  cases k <;> exact List.cons_ne_nil _ _

theorem Binds.lack {k : Write} {payload : String} (h : k.Binds payload) :
    ∃ key ∈ k.needs, (Payload.parse payload).field? key = none := by
  rcases h with hs | hl
  · obtain ⟨key, hk⟩ := List.exists_mem_of_ne_nil _ k.needs_ne_nil
    exact ⟨key, hk, Payload.field?_of_single hs key⟩
  · exact hl

theorem Binds.statement {k : Write} {payload : String} (h : k.Binds payload) (template : String) :
    k.statement template (.parse payload) = .bound template payload := by
  rw [statement_of_lack template h.lack, Payload.raw_parse]

theorem fields_of_filled {k : Write} {template sql payload : String}
    (h : k.statement template (.parse payload) = .filled sql) :
    Payload.isNamedText payload.toList = true ∧
      ∀ key ∈ k.needs, ∃ f ∈ Payload.segments payload.toList, f.1 = key := by
  have hs (key : String) (hk : key ∈ k.needs) : ((Payload.parse payload).field? key).isSome = true := by
    rw [Option.isSome_iff_ne_none]
    intro hn
    rw [statement_of_lack template ⟨key, hk, hn⟩] at h
    cases h
  obtain ⟨key, hk⟩ := List.exists_mem_of_ne_nil _ k.needs_ne_nil
  exact ⟨(Payload.isSome_field?_parse (hs key hk)).1, fun key hk => (Payload.isSome_field?_parse (hs key hk)).2⟩

end Write

namespace Pool

variable {p : Pool σ} {k : Write} {address x y : String}

theorem write_of_binds_unprepared {r : Ref} {cause : String} (hx : k.Binds x)
    (hr : p.get? (Address.parse address).target = some r) (ha : (p.acquire r).1 = .ok ())
    (hp : ((p.acquire r).2.world.prepare p.engine r (Address.parse address).template).1 = .error cause) :
    p.write k address x =
      (.error (.prepareRefused cause), p.prepared r (Address.parse address).template) := by
  rw [write_eq_dispatch, dispatch_of_ok hr ha, hx.statement, Query.execute_of_unprepared (Prod.ext hp rfl)]
  rfl

theorem write_eq_of_unprepared (hx : k.Binds x) (hy : k.Binds y)
    (h : ¬∃ r q, p.Prepares (Address.parse address).target (Address.parse address).template r q) :
    p.write k address x = p.write k address y := by
  cases hr : p.get? (Address.parse address).target with
  | none => rw [write_eq_dispatch, write_eq_dispatch, dispatch_of_unknown hr, dispatch_of_unknown hr]
  | some r =>
    rcases ha : (p.acquire r).1 with f | ⟨⟩
    · rw [write_eq_dispatch, write_eq_dispatch, dispatch_of_error hr ha, dispatch_of_error hr ha]
    · rcases hp : ((p.acquire r).2.world.prepare p.engine r (Address.parse address).template).1 with cause | q
      · rw [write_of_binds_unprepared hx hr ha hp, write_of_binds_unprepared hy hr ha hp]
      · exact absurd ⟨r, q, hr, ha, hp⟩ h

section

variable {r : Ref} {q : Prepared} (hx : k.Binds x)
  (hp : p.Prepares (Address.parse address).target (Address.parse address).template r q)
include hx hp

theorem write_of_binds (hq : q.parameters = 1) :
    p.write k address x = p.ran r (.bound (Address.parse address).template x) := by
  have hw := p.outcome_of_write k address x
  rw [hx.statement] at hw
  rcases hw.of_prepares hp with ⟨-, ha⟩ | ⟨hn, -⟩
  · exact ha
  · exact absurd hq hn

theorem write_of_binds_refused (hq : q.parameters ≠ 1) :
    ∃ f, p.write k address x = (.error f, p.prepared r (Address.parse address).template) := by
  have hw := p.outcome_of_write k address x
  rw [hx.statement] at hw
  rcases hw.of_prepares hp with ⟨h1, -⟩ | ⟨-, f, -, ha⟩
  · exact absurd h1 hq
  · exact ⟨f, ha⟩

end

/-- The statement tells nothing of a payload that is bound, and the run is given the payload as it is. -/
theorem bound_payload_stays_out (p : Pool σ) (k : Write) (address x y : String) :
    let id := (Address.parse address).target
    let template := (Address.parse address).template
    let s := fun payload => k.statement template (.parse payload)
    let a := p.write k address x
    let b := p.write k address y
    (∀ payload sql, s payload = .filled sql →
        (∃ line ∈ payload.toList.splitOn '\n', ∃ key value, Payload.shape key value <:+: line) ∧
          ∀ key ∈ k.needs, ∃ f ∈ Payload.segments payload.toList, f.1 = key) ∧
      (k.Binds x → k.Binds y →
        s x = .bound template x ∧ s y = .bound template y ∧
          (∀ n, (Query.refusal? (s x) n = none ↔ n = 1) ∧ (Query.refusal? (s y) n = none ↔ n = 1)) ∧
          ((¬∃ r q, p.Prepares id template r q) → a = b) ∧
          (∀ r cause, p.get? id = some r → (p.acquire r).1 = .ok () →
            ((p.acquire r).2.world.prepare p.engine r template).1 = .error cause →
            a = (.error (.prepareRefused cause), p.prepared r template)) ∧
          ∀ r q, p.Prepares id template r q →
            let before := p.prepared r template
            before.world.trail = .prepared r template :: (p.acquire r).2.world.trail ∧
              (q.parameters ≠ 1 → ∃ f g, a = (.error f, before) ∧ b = (.error g, before)) ∧
              (q.parameters = 1 →
                let run := before.world.execute p.engine r
                a = ((run (some x)).1.mapError .executionFailed, { before with world := (run (some x)).2 }) ∧
                  b = ((run (some y)).1.mapError .executionFailed,
                    { before with world := (run (some y)).2 }))) := by
  intro id template s a b
  constructor
  · intro payload sql hs
    obtain ⟨hn, hf⟩ := Write.fields_of_filled hs
    obtain ⟨line, hl, hc⟩ := List.any_eq_true.mp hn
    exact ⟨⟨line, hl, (Payload.looksNamed_iff line).mp hc⟩, hf⟩
  · intro hx hy
    have hsx : s x = .bound template x := hx.statement template
    have hsy : s y = .bound template y := hy.statement template
    refine ⟨hsx, hsy, ?_, write_eq_of_unprepared hx hy, fun r cause => write_of_binds_unprepared hx, ?_⟩
    · intro n
      rw [hsx, hsy]
      exact ⟨Query.refusal?_eq_none_iff _ n, Query.refusal?_eq_none_iff _ n⟩
    · intro r q hp before
      refine ⟨rfl, ?_, ?_⟩
      · intro hq
        obtain ⟨f, ha⟩ := write_of_binds_refused hx hp hq
        obtain ⟨g, hb⟩ := write_of_binds_refused hy hp hq
        exact ⟨f, g, ha, hb⟩
      · intro hq run
        exact ⟨write_of_binds hx hp hq, write_of_binds hy hp hq⟩

theorem quotes_and_fields_bound :
    Write.update.Binds "'; DROP TABLE t; --" ∧ Write.update.Binds "a=1&b=2" ∧
      marked.Prepares "DefaultServer" "UPDATE t SET v = ?" 0 ⟨1, false, []⟩ ∧
      (marked.write .update "UPDATE t SET v = ?" "'; DROP TABLE t; --").2.world.trail =
        [.executed 0 (some "'; DROP TABLE t; --"), .prepared 0 "UPDATE t SET v = ?",
          .opened 0 defaultDriver true] ∧
      (marked.write .update "UPDATE t SET v = ?" "a=1&b=2").2.world.trail =
        [.executed 0 (some "a=1&b=2"), .prepared 0 "UPDATE t SET v = ?", .opened 0 defaultDriver true] := by
  have hx : Write.update.Binds "'; DROP TABLE t; --" := .inl rfl
  have hy : Write.update.Binds "a=1&b=2" := .inr ⟨Payload.valueKey, List.mem_singleton.mpr rfl, rfl⟩
  have hp : marked.Prepares "DefaultServer" "UPDATE t SET v = ?" 0 ⟨1, false, []⟩ := ⟨rfl, rfl, rfl⟩
  obtain ⟨-, -, -, -, -, h⟩ := (bound_payload_stays_out marked .update "UPDATE t SET v = ?" _ _).2 hx hy
  obtain ⟨ha, hb⟩ := (h 0 _ hp).2.2 rfl
  exact ⟨hx, hy, hp, congrArg (fun a => a.2.world.trail) ha, congrArg (fun a => a.2.world.trail) hb⟩

end Pool

end ItemGateway
