import ItemGateway.Proofs.FirstRows
import ItemGateway.Proofs.RegisteredLinks
import ItemGateway.Proofs.Writes

namespace ItemGateway

variable {σ α : Type}

def Engine.FillsRows (e : Engine σ) : Prop :=
  ∀ r sql w q row, (e.prepare r sql w).1 = .ok q →
    (e.step r (e.prepare r sql w).2).1 = .ok (some row) → q.columns.length = row.length

namespace Query

theorem kind_of_readFirst {e : Engine σ} (he : e.FillsRows) {r : Ref} {sql : String} {w : World σ}
    {f : Fault} (h : (readFirst e r sql w).1 = .error f) : f.kind = .execution := by
  have hread := read e r sql w
  rw [h] at hread
  generalize (readFirst e r sql w).2 = w' at hread
  cases hread with
  | unprepared | writing | unbound | unstepped | broken => rfl
  | short hp _ hs hr =>
    -- A row that fills its columns can be read.
    obtain ⟨hq, rfl⟩ := Prod.mk.inj hp
    rw [Reading.ofRow_eq_ofFirst (he r sql w.state _ _ hq (congrArg Prod.fst hs)).symm] at hr
    cases hr

theorem kind_of_execute {e : Engine σ} {r : Ref} {s : Statement} {w : World σ} {f : Fault}
    (h : (execute e r s w).1 = .error f) : f.kind = .execution := by
  unfold execute at h
  split at h
  · cases h
    rfl
  split at h
  · next hf =>
    cases h
    exact kind_of_refusal? hf
  split at h
  · cases h
    rfl
  · cases h

end Query

namespace Server

def fields (s : Server) : List (String × String) :=
  [("url", s.url), ("user", s.user), ("password", s.password)]

def blanks (s : Server) : List String :=
  (s.fields.filter fun f => Text.trimmed f.2 = "").map Prod.fst

theorem missing_eq_blanks (s : Server) : s.missing = s.blanks := by
  simp only [missing, blanks, fields, Text.trimmed_eq_empty_iff, Bool.decide_eq_true]

theorem isComplete_iff_blanks (s : Server) : s.isComplete = true ↔ s.blanks = [] := by
  rw [isComplete, missing_eq_blanks, List.isEmpty_iff]

end Server

inductive Obstacle
  | unregistered
  | broken
  | incomplete
  | driverless
  | refused

namespace Obstacle

def rank : Obstacle → ℕ
  | unregistered => 0
  | broken => 1
  | incomplete => 2
  | driverless => 3
  | refused => 4

inductive Stands (p : Pool σ) (id : String) : Obstacle → Fault → Prop
  | unregistered (hr : p.get? id = none) : Stands p id .unregistered ⟨.address, id⟩
  | broken {r : Ref} (hr : p.get? id = some r) (hb : (p.link r).broken = true) :
      Stands p id .broken
        ⟨.application, "Failed to acquire connection lock for server '" ++ id ++ "'"⟩
  | incomplete {r : Ref} (hr : p.get? id = some r) (hl : (p.link r).live = false)
      (hs : (p.link r).server.blanks ≠ []) :
      Stands p id .incomplete
        ⟨.config, "server '" ++ id ++ "' is missing " ++ String.intercalate ", " (p.link r).server.blanks⟩
  | driverless {r : Ref} (hr : p.get? id = some r) (hl : (p.link r).live = false)
      (hd : p.drivers[(p.link r).server.driver]? = none) :
      Stands p id .driverless
        ⟨.config, "no driver registered as '" ++ (p.link r).server.driver ++ "' for server '" ++ id ++ "'"⟩
  | refused {r : Ref} {d : Driver σ} {f : Fault} (hr : p.get? id = some r) (hl : (p.link r).live = false)
      (hd : p.drivers[(p.link r).server.driver]? = some d)
      (hf : (d.connect r (p.link r).server p.world.state).1 = .error f) : Stands p id .refused f

structure First (p : Pool σ) (id : String) (o : Obstacle) (f : Fault) : Prop where
  stands : o.Stands p id f
  least : ∀ o' : Obstacle, o'.rank < o.rank → ∀ f', ¬o'.Stands p id f'

theorem Stands.unique {p : Pool σ} {id : String} {o : Obstacle} {f f' : Fault} (h : o.Stands p id f)
    (h' : o.Stands p id f') : f = f' := by
  cases h with
  | unregistered | broken =>
    cases h'
    rfl
  | incomplete hr | driverless hr =>
    cases h' with
    | _ hr' =>
      cases Option.some.inj (hr.symm.trans hr')
      rfl
  | refused hr hl hd hf =>
    cases h' with
    | refused hr' hl' hd' hf' =>
      cases Option.some.inj (hr.symm.trans hr')
      cases Option.some.inj (hd.symm.trans hd')
      exact Except.error.inj (hf.symm.trans hf')

theorem First.unique {p : Pool σ} {id : String} {o o' : Obstacle} {f f' : Fault} (h : First p id o f)
    (h' : First p id o' f') : o = o' ∧ f = f' := by
  have hr : o.rank = o'.rank := by
    rcases Nat.lt_trichotomy o.rank o'.rank with hlt | he | hlt
    · exact absurd h.stands (h'.least o hlt f)
    · exact he
    · exact absurd h'.stands (h.least o' hlt f')
  obtain rfl : o = o' := by
    cases o <;> cases o' <;> first | rfl | cases hr
  exact ⟨rfl, h.stands.unique h'.stands⟩

end Obstacle

namespace Pool

structure Untouched (p : Pool σ) (o : Obstacle) (q : Pool σ) : Prop where
  pool : q = { p with world := q.world }
  idle : o ≠ .refused → q.world = p.world
  trail : ∃ new, q.world.trail = new ++ p.world.trail ∧ ∀ e ∈ new, ∃ r driver, e = .opened r driver false

theorem Sound.acquire_hindered {drivers : Std.TreeMap String (Driver σ)} {p : Pool σ} (h : Sound drivers p)
    {id : String} {r : Ref} (hr : p.get? id = some r) :
    (∃ o f, Obstacle.First p id o f ∧ (p.acquire r).1 = .error f ∧ p.Untouched o (p.acquire r).2) ∨
      (∀ o f, ¬Obstacle.Stands p id o f) ∧ (p.acquire r).1 = .ok () := by
  obtain ⟨hlt, hid⟩ := h.named id r hr
  have hd := h.assigned r hlt
  rw [← h.drivers_eq] at hd
  have ha := Link.acquired r (p.link r) p.world
  have hp : p.acquire r = (((p.link r).acquire r p.world).1,
    { p with links := p.links.setIfInBounds r ((p.link r).acquire r p.world).2.1,
             world := ((p.link r).acquire r p.world).2.2 }) := rfl
  rw [hp]
  generalize (p.link r).acquire r p.world = a at ha ⊢
  obtain ⟨a, l, w⟩ := a
  dsimp only at ha ⊢
  have same : { p with links := p.links.setIfInBounds r (p.link r), world := w } = { p with world := w } := by
    rw [set_link]
  have blanks := (p.link r).server.isComplete_iff_blanks
  cases ha with
  | broken hb =>
    refine .inl ⟨.broken, _, ⟨.broken hr hb, ?_⟩, by rw [hid]; rfl, ?_⟩
    · intro o' ho f' hs
      cases hs <;> simp_all [Obstacle.rank]
    · rw [same]
      exact ⟨rfl, fun _ => rfl, [], rfl, by simp⟩
  | live hb hl =>
    refine .inr ⟨?_, rfl⟩
    intro o f hs
    cases hs <;> simp_all
  | incomplete hb hl hc =>
    have hs : (p.link r).server.blanks ≠ [] := by simpa [hc] using blanks
    refine .inl ⟨.incomplete, _, ⟨.incomplete hr hl hs, ?_⟩, ?_, ?_⟩
    · intro o' ho f' hs
      cases hs <;> simp_all [Obstacle.rank]
    · rw [hid, Server.missing_eq_blanks]
      rfl
    · rw [same]
      exact ⟨rfl, fun _ => rfl, [], rfl, by simp⟩
  | driverless hb hl hc hn =>
    refine .inl ⟨.driverless, _, ⟨.driverless hr hl (hd.symm.trans hn), ?_⟩, by rw [hid]; rfl, ?_⟩
    · intro o' ho f' hs
      have hc := blanks.mp hc
      cases hs <;> simp_all [Obstacle.rank]
    · rw [same]
      exact ⟨rfl, fun _ => rfl, [], rfl, by simp⟩
  | refused hb hl hc hn hw =>
    refine .inl ⟨.refused, _, ⟨.refused hr hl (hd.symm.trans hn) (congrArg Prod.fst hw), ?_⟩, rfl, ?_⟩
    · intro o' ho f' hs
      have hc := blanks.mp hc
      cases hs <;> simp_all [Obstacle.rank]
    · rw [same]
      refine ⟨rfl, fun h => absurd rfl h, [_], World.trail_of_connect hw, ?_⟩
      simp [Except.isOk, Except.toBool]
  | opened hb hl hc hn hw =>
    refine .inr ⟨?_, rfl⟩
    intro o f hs
    have hc := blanks.mp hc
    have hf := congrArg Prod.fst hw
    cases hs <;> simp_all [World.connect]

structure Answered (p : Pool σ) (id : String) (a : Except Fault α × Pool σ) : Prop where
  hindered : ∀ o f, Obstacle.First p id o f → a.1 = .error f ∧ p.Untouched o a.2
  free : (¬∃ o f, Obstacle.First p id o f) →
    ∃ r, p.get? id = some r ∧ (a.2.link r).isOpen = true ∧ ∀ f, a.1 = .error f → f.kind = .execution

theorem Sound.dispatch_answered {drivers : Std.TreeMap String (Driver σ)} {p : Pool σ} (h : Sound drivers p)
    (address : String) {g : Ref → String → World σ → Except Fault α × World σ}
    (hg : ∀ r template w f, (g r template w).1 = .error f → f.kind = .execution) :
    p.Answered (Address.parse address).target (p.dispatch address g) := by
  cases hr : p.get? (Address.parse address).target with
  | none =>
    have hf : Obstacle.First p (Address.parse address).target .unregistered _ :=
      ⟨.unregistered hr, fun o ho => absurd ho (Nat.not_lt_zero _)⟩
    rw [dispatch_of_unknown hr]
    refine ⟨?_, fun hn => absurd ⟨_, _, hf⟩ hn⟩
    intro o f h'
    obtain ⟨rfl, rfl⟩ := hf.unique h'
    exact ⟨rfl, rfl, fun _ => rfl, [], rfl, by simp⟩
  | some r =>
    rcases h.acquire_hindered hr with ⟨o, f, hf, ha, hu⟩ | ⟨hn, ha⟩
    · rw [dispatch_of_error hr ha]
      refine ⟨?_, fun hn => absurd ⟨o, f, hf⟩ hn⟩
      intro o' f' h'
      obtain ⟨rfl, rfl⟩ := hf.unique h'
      exact ⟨rfl, hu⟩
    · rw [dispatch_of_ok hr ha]
      exact ⟨fun o f h' => absurd h'.stands (hn o f), fun _ => ⟨r, hr, isOpen_of_acquire ha, hg r _ _⟩⟩

/-- A request fails with the first obstacle in its way, or else in its execution only. -/
theorem first_obstacle_decides {engine : Engine σ} (h : engine.FillsRows) (drivers : List (Driver σ))
    (state : σ) (actions : List (Action σ)) (address payload : String) :
    let p := (new engine drivers state).run actions
    let id := (Address.parse address).target
    p.Answered id (p.select address) ∧ p.Answered id (p.update address payload) ∧
      p.Answered id (p.insert address payload) := by
  intro p id
  have hs : Sound (new engine drivers state).drivers p := (new_sound engine drivers state).run actions
  have he : p.engine = engine := engine_run _ actions
  refine ⟨hs.dispatch_answered address ?_, hs.dispatch_answered address ?_, hs.dispatch_answered address ?_⟩
  · intro r template w f
    rw [he]
    exact Query.kind_of_readFirst h
  · exact fun _ _ _ _ => Query.kind_of_execute
  · exact fun _ _ _ _ => Query.kind_of_execute

end Pool

def Engine.endless : Engine Unit := { Engine.idle with
  prepare := fun _ _ w => (.ok ⟨0, true, ["n"]⟩, w)
  step := fun _ w => (.ok (some [.integer 7]), w) }

def Driver.shut : Driver Unit where
  id := "shut"
  connect _ s w := (.error ⟨.io, "no way to " ++ s.id⟩, w)

namespace Pool

def hindrances : List (Action Unit) :=
    [.register { id := "a", url := ":memory:", user := "u", password := "p" },
      .register { id := "b", url := ":memory:", user := " ", driver := "other" },
      .register { id := "c", url := ":memory:", user := "u", password := "p", driver := "other" },
      .register { id := "d", url := ":memory:", user := "u", password := "p", driver := "shut" },
      .register { id := defaultServer, url := ":memory:", user := "u", password := "p" },
      .abandon 0 ⟨fun w => (.ok (), w), World.works_refl⟩]

def hindered : Pool Unit :=
  (new .endless [.shut] ()).run hindrances

theorem second_obstacle_unseen :
    Engine.endless.FillsRows ∧
      (hindered.select "b:SELECT n").1 = .error ⟨.config, "server 'b' is missing user, password"⟩ ∧
      (hindered.select "b:SELECT n").2.links = hindered.links ∧
      [ "x:SELECT n", "a:SELECT n", "c:SELECT n", "d:SELECT n", "SELECT n"].map
          (fun address => (hindered.select address).1) =
        [.error ⟨.address, "x"⟩,
          .error ⟨.application, "Failed to acquire connection lock for server 'a'"⟩,
          .error ⟨.config, "no driver registered as 'other' for server 'c'"⟩,
          .error ⟨.io, "no way to d"⟩, .ok ⟨.scalar "7", true⟩] := by
  have he : Engine.endless.FillsRows := by
    rintro r sql w q row hq hr
    cases hq
    cases hr
    rfl
  have hb : hindered.get? "b" = some 1 := rfl
  have hs : (hindered.link 1).server.blanks = ["user", "password"] := by rfl
  have hi := Obstacle.Stands.incomplete hb rfl (by rw [hs]; exact List.cons_ne_nil _ _)
  rw [hs, show "server '" ++ "b" ++ "' is missing " ++ ", ".intercalate ["user", "password"] =
    "server 'b' is missing user, password" from rfl] at hi
  have hf : Obstacle.First hindered "b" .incomplete ⟨.config, "server 'b' is missing user, password"⟩ := by
    refine ⟨hi, ?_⟩
    intro o ho f hs
    cases hs with
    | unregistered hr => cases hb.symm.trans hr
    | broken hr hl =>
      obtain rfl := Option.some.inj (hb.symm.trans hr)
      exact Bool.false_ne_true hl
    | incomplete | driverless | refused => exact absurd ho (by decide)
  have h := (first_obstacle_decides he [.shut] () hindrances "b:SELECT n" "").1
  rw [show (Address.parse "b:SELECT n").target = "b" from rfl] at h
  obtain ⟨ha, hu⟩ := h.hindered _ _ hf
  exact ⟨he, ha, congrArg Pool.links hu.pool, by rfl⟩

end Pool

end ItemGateway
