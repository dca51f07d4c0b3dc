import ItemGateway.Proofs.ReopenedLinks

/-!
Selects during a time in which the drivers and the engine do not change their answers. A link that the first
of them opens is open for the others, and that is all that they learn of each other.
-/

namespace ItemGateway

variable {σ : Type} {asked asked' : String → Prop} {p q : Pool σ} {address : String} {r : Ref}

namespace Pool

inductive During (asked : String → Prop) (p : Pool σ) : Pool σ → Prop
  | start : During asked p p
  | select {q : Pool σ} {address : String} (h : During asked p q) (ha : asked address) :
      During asked p (q.select address).2

structure Steady (asked : String → Prop) (p : Pool σ) : Prop where
  opening : ∀ {q}, p.During asked q → ∀ {address r d}, asked address →
    p.get? (Address.parse address).target = some r → (p.link r).driver = some d →
      (d.connect r (p.link r).server q.world.state).1 = (d.connect r (p.link r).server p.world.state).1
  answer : ∀ {q q'}, p.During asked q → p.During asked q' → ∀ {address r}, asked address →
    p.get? (Address.parse address).target = some r →
      (q.acquire r).1 = .ok () → (q'.acquire r).1 = .ok () →
        (Query.readFirst p.engine r (Address.parse address).template (q.acquire r).2.world).1 =
          (Query.readFirst p.engine r (Address.parse address).template (q'.acquire r).2.world).1

theorem During.mono (h : p.During asked q) (hm : ∀ address, asked address → asked' address) :
    p.During asked' q := by
  induction h with
  | start => exact .start
  | select _ ha ih => exact ih.select (hm _ ha)

theorem Steady.mono (h : p.Steady asked') (hm : ∀ address, asked address → asked' address) :
    p.Steady asked where
  opening hq _ _ _ ha := h.opening (hq.mono hm) (hm _ ha)
  answer hq hq' _ _ ha := h.answer (hq.mono hm) (hq'.mono hm) (hm _ ha)

structure Opened (p q : Pool σ) : Prop where
  engine : q.engine = p.engine
  names : q.names = p.names
  link : ∀ r, q.link r = p.link r ∨ q.link r = { p.link r with live := true } ∧ (p.acquire r).1 = .ok ()

theorem Opened.get? (h : p.Opened q) (id : String) : q.get? id = p.get? id := by
  rw [Pool.get?, Pool.get?, h.names]

theorem Opened.select (h : p.Opened q)
    (ha : ∀ r, p.get? (Address.parse address).target = some r → (q.acquire r).1 = (p.acquire r).1) :
    p.Opened (q.select address).2 := by
  rw [Pool.select]
  cases hr : q.get? (Address.parse address).target with
  | none =>
    rw [dispatch_of_unknown hr]
    exact h
  | some r =>
    rw [dispatch_of_known hr]
    refine ⟨h.engine, h.names, ?_⟩
    intro s
    rw [Pool.use, link_on]
    split
    · next hs =>
      obtain ⟨rfl, -⟩ := hs
      rw [Link.use_slot]
      rcases Link.acquire_slot s (q.link s) q.world with hl | ⟨hl, hok⟩
      · rw [hl]
        exact h.link s
      · rw [hl]
        refine .inr ⟨?_, (ha s (by rw [← h.get?, hr])).symm.trans hok⟩
        rcases h.link s with he | ⟨he, -⟩ <;> rw [he]
    · exact h.link s

namespace Steady

theorem acquire (h : p.Steady asked) (hq : p.During asked q) (ho : p.Opened q) (ha : asked address)
    (hr : p.get? (Address.parse address).target = some r) : (q.acquire r).1 = (p.acquire r).1 := by
  change ((q.link r).acquire r q.world).1 = ((p.link r).acquire r p.world).1
  rcases ho.link r with hl | ⟨hl, hok⟩
  · rw [hl]
    rcases (p.link r).acquire_asks with ⟨a, hc⟩ | ⟨d, hd, hc⟩
    · rw [hc, hc]
    · have hv : (q.world.connect d r (p.link r).server).1 = (p.world.connect d r (p.link r).server).1 :=
        h.opening hq ha hr hd
      rw [hc, hc]
      rcases hw : p.world.connect d r (p.link r).server with ⟨a, w⟩
      rcases hw' : q.world.connect d r (p.link r).server with ⟨a', w'⟩
      rw [hw, hw'] at hv
      obtain rfl : a' = a := hv
      cases a' <;> rfl
  · -- It was opened before, and so it could be opened.
    have hb : (p.link r).broken = false := by
      by_contra hb
      change ((p.link r).acquire r p.world).1 = .ok () at hok
      rw [Link.acquire, if_pos (by simpa using hb)] at hok
      cases hok
    rw [hl, show ((p.link r).acquire r p.world).1 = .ok () from hok]
    simp [Link.acquire, hb]

theorem opened (h : p.Steady asked) (hq : p.During asked q) : p.Opened q := by
  induction hq with
  | start => exact ⟨rfl, rfl, fun _ => .inl rfl⟩
  | select hq ha ih => exact ih.select fun r => h.acquire hq ih ha

theorem select (h : p.Steady asked) (hq : p.During asked q) (ha : asked address) :
    (q.select address).1 = (p.select address).1 := by
  have ho := h.opened hq
  rw [Pool.select, Pool.select]
  cases hr : p.get? (Address.parse address).target with
  | none => rw [dispatch_of_unknown hr, dispatch_of_unknown (by rwa [ho.get?])]
  | some r =>
    have hr' : q.get? (Address.parse address).target = some r := by rwa [ho.get?]
    have hx := h.acquire hq ho ha hr
    rcases hp : (p.acquire r).1 with f | ⟨⟩
    · rw [dispatch_of_error hr hp, dispatch_of_error hr' (hx.trans hp)]
    · rw [dispatch_of_ok hr hp, dispatch_of_ok hr' (hx.trans hp), ho.engine]
      exact h.answer hq .start ha hr (hx.trans hp) hp

end Steady

section

variable {V : Storage σ} {e : Engine σ} (he : e.Durable V)
  (hk : ∀ r sql (w : World σ), V.same.r (Query.readFirst e r sql w).2.state w.state)

include he hk

theorem Reopened.select (h : Reopened V e p q) (address : String) : Reopened V e p (q.select address).2 := by
  have hq : (q.select address).2.Tended V e := h.right.perform he (a := .select address) trivial
  cases hr : q.get? (Address.parse address).target with
  | none =>
    rw [Pool.select, dispatch_of_unknown hr]
    exact h
  | some r =>
    have ho : Reopened V e p (q.acquire r).2 := (h.symm.on he .acquire).symm
    rcases ha : (q.acquire r).1 with f | ⟨⟩
    · rw [Pool.select, dispatch_of_error hr ha]
      exact ho
    · rw [Pool.select, dispatch_of_ok hr ha, h.right.engine] at hq ⊢
      exact ⟨h.left, hq, ho.names, ho.size, ho.link, V.same.trans ho.same (V.same.symm (hk _ _ _))⟩

theorem Reopened.during (h : p.Tended V e) (hq : p.During asked q) : Reopened V e p q := by
  induction hq with
  | start => exact .refl h
  | select _ _ ih => exact ih.select he hk _

theorem Tended.steady (h : p.Tended V e) : p.Steady asked where
  opening _ _ r d _ _ hd := (h.links r d hd).answer r _ _ _
  answer {q q'} hq hq' _ r _ _ ho ho' := by
    have live {k : Pool σ} (hd : p.During asked k) (ha : (k.acquire r).1 = .ok ()) :
        Reopened V e p (k.acquire r).2 ∧ V.connected r (k.acquire r).2.world.state := by
      have hr := ((Reopened.during he hk h hd).symm.on he (.acquire (r := r))).symm
      exact ⟨hr, (hr.right.lit r (live_of_acquire ha)).1⟩
    obtain ⟨hr, hc⟩ := live hq ho
    obtain ⟨hr', hc'⟩ := live hq' ho'
    rw [h.engine]
    exact (he.readFirst_answers r _ _ _ ⟨V.same.trans (V.same.symm hr.same) hr'.same, hc, hc'⟩).1

end

end Pool

end ItemGateway
