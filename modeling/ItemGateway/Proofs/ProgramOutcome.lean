import ItemGateway.Program
import ItemGateway.Proofs.ConnectedLinks
import ItemGateway.Proofs.Enrollment
import ItemGateway.Proofs.TwinGateways

namespace ItemGateway

variable {σ α : Type}

namespace Pool

structure Tidy (drivers : Std.TreeMap String (Driver σ)) (p : Pool σ) : Prop extends Sound drivers p where
  unbroken : ∀ r, (p.link r).broken = false
  registered : ∀ r, (p.link r).live = true → ∃ id, p.get? id = some r

namespace Tidy

variable {drivers : Std.TreeMap String (Driver σ)} {p : Pool σ}

theorem on (h : Tidy drivers p) {r : Ref} (hr : ∃ id, p.get? id = some r)
    {f : Link σ → World σ → α × Link σ × World σ} (hm : ∀ l w, Link.Move r l (f l w).2.1 w (f l w).2.2)
    (hs : ∀ l w, (f l w).2.1 = l ∨ (f l w).2.1 = { l with live := true }) : Tidy drivers (p.on r f).2 where
  toSound := h.toSound.on r hm
  unbroken := by
    intro s
    rw [link_on]
    split
    · rcases hs (p.link s) p.world with he | he <;> rw [he] <;> exact h.unbroken s
    · exact h.unbroken s
  registered := by
    intro s hl
    by_cases he : s = r
    · rw [he]
      exact hr
    · rw [link_on_of_ne p he] at hl
      exact h.registered s hl

theorem connectEach (h : Tidy drivers p) {order : List Ref} (ho : ∀ r ∈ order, r ∈ p.refs) :
    Tidy drivers (connectEach order p).2 := by
  have hc : Tidy drivers (Pool.connectEach order p).2 ∧ (Pool.connectEach order p).2.names = p.names := by
    apply connectEach_induction (motive := fun q => Tidy drivers q ∧ q.names = p.names) ⟨h, rfl⟩
    rintro q r hr ⟨hq, hn⟩
    refine ⟨hq.on ?_ (Link.turn_move r) ?_, hn⟩
    · obtain ⟨id, hid⟩ := mem_refs_iff.mp (ho r hr)
      exact ⟨id, by rw [get?, hn]; exact hid⟩
    · intro l w
      exact (l.turn_slot r w).imp_right fun hs => hs.2.2.2
  exact hc.1

theorem dispatch (h : Tidy drivers p) (address : String)
    {f : Ref → String → World σ → Except Fault α × World σ}
    (hf : ∀ r template, ∀ w : World σ, w.Works (f r template w).2) :
    Tidy drivers (p.dispatch address f).2 := by
  cases hr : p.get? (Address.parse address).target with
  | none =>
    rw [dispatch_of_unknown hr]
    exact h
  | some r =>
    rw [dispatch_of_known hr]
    apply h.on ⟨_, hr⟩ (Link.use_move r (hf r _))
    intro l w
    rw [Link.use_slot]
    exact (l.acquire_slot r w).imp_right And.left

theorem select (h : Tidy drivers p) (address : String) : Tidy drivers (p.select address).2 :=
  h.dispatch address fun r template w => (Query.readFirst_asks _ r template w).works

theorem update (h : Tidy drivers p) (address payload : String) : Tidy drivers (p.update address payload).2 :=
  h.dispatch address fun r _ w => (Query.execute_asks _ r _ w).works

theorem insert (h : Tidy drivers p) (address payload : String) : Tidy drivers (p.insert address payload).2 :=
  h.dispatch address fun r _ w => (Query.execute_asks _ r _ w).works

theorem closeAll (h : Tidy drivers p) :
    Sound drivers p.closeAll.2 ∧ p.closeAll.2.names = p.names ∧ ∀ r, (p.closeAll.2.link r).live = false := by
  rw [← closeIn_refs, closeIn_snd]
  refine ⟨?_, names_closeEach _ p, ?_⟩
  · exact closeEach_induction h.toSound fun q r _ hq => hq.on r (Link.release_move q.engine r)
  · intro r
    rw [link_closeEach]
    split
    · rw [Link.closed_of_sound (h.unbroken r)]
    · next hr =>
      by_contra hl
      exact hr (mem_refs_iff.mpr (h.registered r (by simpa using hl)))

end Tidy

theorem replaceAll_tidy (engine : Engine σ) (state : σ) (servers : List Server) :
    Tidy (new engine [] state).drivers ((new engine [] state).replaceAll servers) := by
  have hs := (new_sound engine [] state).perform (.replaceAll .byId servers)
  -- No link was registered before, and new ones have no connection.
  have hl (r : Ref) : (((new engine [] state).replaceAll servers).link r).live = false ∧
      (((new engine [] state).replaceAll servers).link r).broken = false := by
    apply List.foldlRecOn (motive := fun q : Pool σ => (q.link r).live = false ∧ (q.link r).broken = false)
      servers enroll
    · exact ⟨rfl, rfl⟩
    · intro q hq s _
      rw [link_enroll]
      split
      · exact ⟨rfl, rfl⟩
      · exact hq
  refine ⟨hs, fun r => (hl r).2, ?_⟩
  intro r hlive
  rw [(hl r).1] at hlive
  cases hlive

end Pool

namespace Gateway

variable {drivers : Std.TreeMap String (Driver σ)}

theorem ofConfig_tidy (engine : Engine σ) (state : σ) (c : Config) :
    Pool.Tidy (Pool.new engine [] state).drivers (ofConfig engine state c).pool :=
  (Pool.replaceAll_tidy engine state c.servers).connectEach fun _ => id

theorem refreshEach_tidy (names : List String) {g : Gateway σ} (h : g.pool.Tidy drivers) :
    (refreshEach names g).2.pool.Tidy drivers := by
  induction names generalizing g with
  | nil => exact h
  | cons item names ih =>
    apply ih
    cases ha : (g.binding? item).bind Binding.select with
    | none =>
      simp only [refreshItem, ha]
      exact h
    | some address =>
      rw [pool_refreshItem ha]
      exact h.select address

theorem perform_tidy {g : Gateway σ} (h : g.pool.Tidy drivers) (c : Command) :
    (g.perform c).2.pool.Tidy drivers := by
  cases c with
  | select address => exact h.select address
  | update address payload => exact h.update address payload
  | insert address payload => exact h.insert address payload
  | poll => exact refreshEach_tidy g.names h
  | items => exact h

theorem runToEnd_closed {g : Gateway σ} (h : g.pool.Tidy drivers) (c : Command) :
    Pool.Sound drivers (g.runToEnd c).2.pool ∧ ∀ r, ((g.runToEnd c).2.pool.link r).live = false := by
  obtain ⟨hs, -, hl⟩ := (perform_tidy h c).closeAll
  exact ⟨hs, hl⟩

end Gateway

def Command.Fails (g : Gateway σ) : Command → Prop
  | .select address => ∃ f, (g.pool.select address).1 = .error f
  | .update address payload => ∃ f, (g.pool.update address payload).1 = .error f
  | .insert address payload => ∃ f, (g.pool.insert address payload).1 = .error f
  | .poll | .items => False

theorem Gateway.perform_fails_iff (g : Gateway σ) (c : Command) :
    (∃ f, (g.perform c).1 = .error f) ↔ c.Fails g := by
  cases c with
  | select address =>
    simp only [perform, Command.Fails]
    cases (g.pool.select address).1 <;> simp [Except.map]
  | update address payload =>
    simp only [perform, Command.Fails]
    cases (g.pool.update address payload).1 <;> simp [Except.map]
  | insert address payload =>
    simp only [perform, Command.Fails]
    cases (g.pool.insert address payload).1 <;> simp [Except.map]
  | poll | items => simp [perform, Command.Fails]

theorem Gateway.transcript_runToEnd (g : Gateway σ) (c : Command) :
    (c.Fails g ∧ (g.runToEnd c).1.code = 1 ∧ (g.runToEnd c).1.out = []) ∨
      ¬c.Fails g ∧ (g.runToEnd c).1.code = 0 := by
  rw [← g.perform_fails_iff c]
  simp only [runToEnd]
  rcases (g.perform c).1 with f | printed
  · exact .inl ⟨⟨f, rfl⟩, rfl, rfl⟩
  · exact .inr ⟨by simp, rfl⟩

namespace Program

theorem run_of_usage {defaultPath : String} {args : List String} {e : UsageFault}
    (h : CommandLine.parse defaultPath args = .error e) (engine : Engine σ) (state : σ)
    (read : String → Except Fault String) :
    run engine state read defaultPath args =
      (⟨2, [], (e.message :: "" :: CommandLine.usage).map .note⟩, none) := by
  simp only [run, h]

theorem run_of_unloaded {defaultPath : String} {args : List String} {line : CommandLine} {f : Fault}
    {read : String → Except Fault String} (h : CommandLine.parse defaultPath args = .ok line)
    (hl : load read line = .error f) (engine : Engine σ) (state : σ) :
    run engine state read defaultPath args =
      (Transcript.after (loadLog line (.error f)) ⟨1, [], [.note f.message]⟩, none) := by
  simp only [run, h, hl]

theorem run_of_loaded {defaultPath : String} {args : List String} {line : CommandLine} {c : Config}
    {read : String → Except Fault String} (h : CommandLine.parse defaultPath args = .ok line)
    (hl : load read line = .ok c) (engine : Engine σ) (state : σ) :
    run engine state read defaultPath args =
      (((Gateway.ofConfig engine state c).runToEnd line.command).1.after
          (loadLog line (.ok c) ++ Gateway.ofConfigLog engine state c),
        some ((Gateway.ofConfig engine state c).runToEnd line.command).2) := by
  simp only [run, h, hl]

/-- Every connection that was opened is closed in the end, whatever the command comes to. -/
theorem exit_code_and_closing (engine : Engine σ) (state : σ) (read : String → Except Fault String)
    (defaultPath : String) (args : List String) :
    let a := run engine state read defaultPath args
    (a.1.code = 2 ↔ ∃ e, CommandLine.parse defaultPath args = .error e) ∧
      (∀ e, CommandLine.parse defaultPath args = .error e →
        a.2 = none ∧
          ∀ {τ : Type} (engine' : Engine τ) (state' : τ) (read' : String → Except Fault String),
            run engine' state' read' defaultPath args = (a.1, none)) ∧
      (∀ line, CommandLine.parse defaultPath args = .ok line →
        (a.1.code = 1 ↔ (∃ f, load read line = .error f) ∨
            ∃ c, load read line = .ok c ∧ line.command.Fails (Gateway.ofConfig engine state c)) ∧
          (a.1.code = 0 ↔
            ∃ c, load read line = .ok c ∧ ¬line.command.Fails (Gateway.ofConfig engine state c)) ∧
          (a.2.isSome = true ↔ ∃ c, load read line = .ok c)) ∧
      (a.1.code ≠ 0 → a.1.out = []) ∧
      ∀ g, a.2 = some g →
        (∀ id r, g.pool.get? id = some r → (g.pool.link r).isOpen = false ∧ (g.pool.link r).live = false) ∧
          ∀ r, g.pool.world.opens r = g.pool.world.closes r := by
  intro a
  rcases hp : CommandLine.parse defaultPath args with e | line
  · have ha : a = (⟨2, [], (e.message :: "" :: CommandLine.usage).map .note⟩, none) :=
      run_of_usage hp engine state read
    rw [ha]
    refine ⟨by simp, ?_, by simp, fun _ => rfl, by simp⟩
    intro _ _
    exact ⟨rfl, fun engine' state' read' => run_of_usage hp engine' state' read'⟩
  rcases hl : load read line with f | c
  · rw [show a = _ from run_of_unloaded hp hl engine state]
    refine ⟨by simp, by simp, ?_, fun _ => rfl, by simp⟩
    rintro _ ⟨⟩
    simp [hl]
  let g := Gateway.ofConfig engine state c
  have ha : a = ((g.runToEnd line.command).1.after _, some (g.runToEnd line.command).2) :=
    run_of_loaded hp hl engine state
  obtain ⟨hs, hdark⟩ := Gateway.runToEnd_closed (Gateway.ofConfig_tidy engine state c) line.command
  have hend : ∀ k, some (g.runToEnd line.command).2 = some k →
      (∀ id r, k.pool.get? id = some r → (k.pool.link r).isOpen = false ∧ (k.pool.link r).live = false) ∧
        ∀ r, k.pool.world.opens r = k.pool.world.closes r := by
    rintro _ ⟨⟩
    refine ⟨fun _ r _ => ⟨by rw [Link.isOpen, hdark r, Bool.false_and], hdark r⟩, ?_⟩
    intro r
    have hb := (hs.ledger r).balance
    rwa [hdark r] at hb
  rw [ha]
  rcases g.transcript_runToEnd line.command with ⟨hf, hcode, hout⟩ | ⟨hf, hcode⟩
  · refine ⟨by simp [hcode], by simp, ?_, fun _ => hout, hend⟩
    rintro _ ⟨⟩
    exact ⟨iff_of_true hcode (.inr ⟨c, hl, hf⟩), by simp [hcode, hl, hf, g], by simp [hl]⟩
  · refine ⟨by simp [hcode], by simp, ?_, fun hn => absurd hcode hn, hend⟩
    rintro _ ⟨⟩
    exact ⟨by simp [hcode, hl, hf, g], iff_of_true hcode ⟨c, hl, hf⟩, by simp [hl]⟩

end Program

end ItemGateway
