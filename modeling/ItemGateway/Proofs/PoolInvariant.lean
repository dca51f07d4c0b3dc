import ItemGateway.Proofs.CompleteServers
import ItemGateway.Proofs.PoolRuns

namespace ItemGateway

namespace Pool

variable {σ α : Type}

structure Sound (drivers : Std.TreeMap String (Driver σ)) (p : Pool σ) : Prop where
  drivers_eq : p.drivers = drivers
  named : ∀ id r, p.get? id = some r → r < p.links.size ∧ (p.link r).server.id = id
  assigned : ∀ r < p.links.size, (p.link r).driver = drivers[(p.link r).server.driver]?
  fit : ∀ r, (p.link r).Fit
  ledger : ∀ r, Ledger r (p.link r).live p.world.trail

theorem new_sound (engine : Engine σ) (drivers : List (Driver σ)) (state : σ) :
    Sound (new engine drivers state).drivers (new engine drivers state) where
  drivers_eq := rfl
  named := by simp [new, get?]
  assigned := by simp [new]
  fit := by
    intro r
    rw [link_of_size_le _ (by simp [new])]
    exact Link.vacant_fit
  ledger := by
    intro r
    rw [link_of_size_le _ (by simp [new])]
    exact .nil r

theorem keeps_on (p : Pool σ) {r : Ref} {f : Link σ → World σ → α × Link σ × World σ}
    (hm : Link.Move r (p.link r) (f (p.link r) p.world).2.1 p.world (f (p.link r) p.world).2.2)
    (s : Ref) : Link.Keeps s (p.link s) ((p.on r f).2.link s) p.world (p.on r f).2.world := by
  by_cases he : s = r
  · subst he
    rcases Nat.lt_or_ge s p.links.size with hs | hs
    · rw [p.link_on_of_lt hs f]
      exact hm.toKeeps
    · have hv := p.link_of_size_le hs
      have hv' : (p.on s f).2.link s = .vacant := link_of_size_le _ (by rw [size_on]; exact hs)
      rw [hv] at hm
      have hl : (f .vacant p.world).2.1.live = false :=
        Link.not_live_of_vacant (hm.fit Link.vacant_fit) hm.server
      rw [hv, hv']
      refine ⟨rfl, rfl, id, ?_⟩
      intro h
      have h' := hm.ledger h
      rw [hl] at h'
      change Ledger s false (f (p.link s) p.world).2.2.trail
      rw [hv]
      exact h'
  · rw [p.link_on_of_ne he]
    exact ⟨rfl, rfl, id, hm.others s he _⟩

namespace Sound

variable {drivers : Std.TreeMap String (Driver σ)} {p : Pool σ}

theorem on (h : Sound drivers p) (r : Ref) {f : Link σ → World σ → α × Link σ × World σ}
    (hf : ∀ l w, Link.Move r l (f l w).2.1 w (f l w).2.2) : Sound drivers (p.on r f).2 := by
  have hk := p.keeps_on (hf (p.link r) p.world)
  refine ⟨h.drivers_eq, ?_, ?_, fun s => (hk s).fit (h.fit s), fun s => (hk s).ledger (h.ledger s)⟩
  · intro id s hs
    rw [size_on, (hk s).server]
    exact h.named id s hs
  · intro s hs
    rw [size_on] at hs
    rw [(hk s).server, (hk s).driver]
    exact h.assigned s hs

theorem enroll (h : Sound drivers p) (s : Server) : Sound drivers (p.enroll s) := by
  have hv : p.link p.links.size = .vacant := p.link_of_size_le (Nat.le_refl _)
  refine ⟨h.drivers_eq, ?_, ?_, ?_, ?_⟩
  · intro id r hr
    rw [link_enroll]
    simp only [Pool.enroll, get?, Std.TreeMap.getElem?_insert, Array.size_push] at hr ⊢
    split at hr
    · next hc =>
      obtain rfl := Option.some.inj hr
      simpa using Std.LawfulEqCmp.eq_of_compare hc
    · obtain ⟨hlt, hid⟩ := h.named id r hr
      rw [if_neg (Nat.ne_of_lt hlt)]
      exact ⟨Nat.lt_succ_of_lt hlt, hid⟩
  · intro r hr
    rw [link_enroll]
    simp only [Pool.enroll, Array.size_push] at hr
    split
    · rw [h.drivers_eq]
    · next hne => exact h.assigned r (Nat.lt_of_le_of_ne (Nat.le_of_lt_succ hr) hne)
  · intro r
    rw [link_enroll]
    split
    · simp [Link.Fit]
    · exact h.fit r
  · intro r
    rw [link_enroll]
    split
    · next hr =>
      have hl := h.ledger r
      rw [hr, hv] at hl
      rw [hr]
      exact hl
    · exact h.ledger r

theorem clear (h : Sound drivers p) : Sound drivers { p with names := ∅ } :=
  ⟨h.drivers_eq, by simp [get?], h.assigned, h.fit, h.ledger⟩

theorem perform (h : Sound drivers p) (a : Action σ) : Sound drivers (p.perform a) :=
  perform_induction h (fun _ r _ _ ho hq => hq.on r (ho.move fun _ => Action.Lends.works))
    (fun _ s hq => hq.enroll s) h.clear

theorem run (h : Sound drivers p) (actions : List (Action σ)) : Sound drivers (p.run actions) :=
  List.foldlRecOn actions Pool.perform h fun _ hq a _ => hq.perform a

end Sound

theorem mem_of_foldl_insert {drivers : List (Driver σ)} {m : Std.TreeMap String (Driver σ)} {name : String}
    {d : Driver σ} (h : (drivers.foldl (fun m d => m.insert d.id d) m)[name]? = some d) :
    d ∈ drivers ∨ m[name]? = some d := by
  induction drivers generalizing m with
  | nil => exact .inr h
  | cons e drivers ih =>
    rcases ih h with hd | hd
    · exact .inl (List.mem_cons_of_mem e hd)
    · rw [Std.TreeMap.getElem?_insert] at hd
      split at hd
      · obtain rfl := Option.some.inj hd
        exact .inl List.mem_cons_self
      · exact .inr hd

theorem Sound.driver_mem {engine : Engine σ} {drivers : List (Driver σ)} {state : σ} {p : Pool σ}
    (h : Sound (new engine drivers state).drivers p) {r : Ref} {d : Driver σ}
    (hr : (p.link r).driver = some d) : d ∈ engine.driver :: drivers := by
  rcases Nat.lt_or_ge r p.links.size with hlt | hge
  · rw [h.assigned r hlt] at hr
    rcases mem_of_foldl_insert hr with hm | hm
    · exact hm
    · simp at hm
  · rw [p.link_of_size_le hge] at hr
    cases hr

theorem ids_increasing (p : Pool σ) : p.ids.Pairwise (· < ·) :=
  keys_increasing p.names

/-- Connections are owed to complete servers and known drivers, and no link has two of them. -/
theorem run_invariant (engine : Engine σ) (drivers : List (Driver σ)) (state : σ)
    (actions : List (Action σ)) :
    let start := new engine drivers state
    let p := start.run actions
    (∀ id r, p.get? id = some r → r < p.links.size ∧ (p.link r).server.id = id) ∧
      (∀ id id' r, p.get? id = some r → p.get? id' = some r → id = id') ∧
      p.ids.Pairwise (· < ·) ∧
      (∀ r, (p.link r).live = true →
        (Text.trimmed (p.link r).server.url ≠ "" ∧ Text.trimmed (p.link r).server.user ≠ "" ∧
          Text.trimmed (p.link r).server.password ≠ "") ∧
        ∃ d, (p.link r).driver = some d ∧ start.drivers[(p.link r).server.driver]? = some d) ∧
      p.drivers = start.drivers ∧
      (∀ r, (p.world.opens r : ℤ) - p.world.closes r = if (p.link r).live then 1 else 0) ∧
      ∀ r past, past <:+ p.world.trail → past.countP (·.opens r) ≤ past.countP (·.closes r) + 1 := by
  intro start p
  have h : Sound start.drivers p := (new_sound engine drivers state).run actions
  refine ⟨h.named, ?_, p.ids_increasing, ?_, h.drivers_eq, ?_, fun r => (h.ledger r).single⟩
  · intro id id' r hr hr'
    rw [← (h.named id r hr).2, (h.named id' r hr').2]
  · intro r hl
    obtain ⟨hc, hd⟩ := h.fit r hl
    obtain ⟨d, hd⟩ := Option.isSome_iff_exists.mp hd
    have hr : r < p.links.size := by
      by_contra hr
      rw [p.link_of_size_le (Nat.le_of_not_lt hr)] at hl
      exact Bool.false_ne_true hl
    exact ⟨(Server.isComplete_iff _).mp hc, d, hd, by rw [← h.assigned r hr, hd]⟩
  · intro r
    have hb := (h.ledger r).balance
    change ((p.world.trail.countP (·.opens r) : ℕ) : ℤ) - p.world.trail.countP (·.closes r) = _
    cases hl : (p.link r).live <;> simp only [hl, Bool.toNat_false, Bool.toNat_true] at hb <;>
      simp <;> omega

end Pool

end ItemGateway
