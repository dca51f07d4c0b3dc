import ItemGateway.Proofs.FailingServer
import ItemGateway.Proofs.IndistinctConfigs
import ItemGateway.Proofs.IndistinctPools
import ItemGateway.Proofs.ProgramOutcome

namespace ItemGateway

variable {σ α : Type} {same : σ → σ → Prop}

namespace Gateway

inductive Indistinct (same : σ → σ → Prop) (g : Gateway σ) : Gateway σ → Prop
  | intro (q : Pool σ) (h : g.pool.Indistinct same q) : Indistinct same g { g with pool := q }

theorem observe_congruent (item : String) (value : Option String) :
    Congruent (Indistinct same) (Indistinct same) fun g : Gateway σ => g.observe item value := by
  rintro g _ ⟨q, h⟩
  by_cases hl : g.lastValue? item = some value
  · have hl' : ({ g with pool := q } : Gateway σ).lastValue? item = some value := hl
    simp only [observe, if_pos hl, if_pos hl']
    exact ⟨trivial, .intro q h⟩
  · have hl' : ({ g with pool := q } : Gateway σ).lastValue? item ≠ some value := hl
    simp only [observe, if_neg hl, if_neg hl']
    exact ⟨trivial, .intro q h⟩

theorem refreshItem_congruent (item : String) :
    Congruent (Indistinct same) (Indistinct same) fun g : Gateway σ => g.refreshItem item := by
  rintro g _ ⟨q, h⟩
  simp only [refreshItem, binding?]
  split
  · exact ⟨rfl, .intro q h⟩
  next address _ =>
  obtain ⟨a, p', q', hp, hq, h'⟩ := (Pool.select_congruent address).answer h
  simp only [hp, hq]
  rcases a with f | s
  · exact ⟨rfl, .intro q' h'⟩
  · obtain ⟨ha, h'⟩ := observe_congruent item s.reading.value? { g with pool := p' } _ (.intro q' h')
    exact ⟨congrArg Except.ok ha, h'⟩

theorem refreshEach_congruent (names : List String) :
    Congruent (Indistinct same) (Indistinct same) (refreshEach (σ := σ) names) := by
  intro g k h
  induction names generalizing g k with
  | nil => exact ⟨rfl, h⟩
  | cons item names ih =>
    obtain ⟨ha, h⟩ := refreshItem_congruent item _ _ h
    obtain ⟨hb, h⟩ := ih _ _ h
    dsimp only at ha hb
    refine ⟨?_, h⟩
    simp only [refreshEach, ha, hb]

theorem refresh_congruent : Congruent (Indistinct same) (Indistinct same) (refresh (σ := σ)) := by
  rintro g _ ⟨q, h⟩
  exact refreshEach_congruent g.names _ _ (.intro q h)

theorem command_congruent (item text : String) :
    Congruent (Indistinct same) (Indistinct same) fun g : Gateway σ => g.command item text := by
  rintro g _ ⟨q, h⟩
  let k : Gateway σ := { g with pool := q }
  change (g.command item text).1 = (k.command item text).1 ∧
    (g.command item text).2.Indistinct same (k.command item text).2
  cases hb : g.binding? item with
  | none =>
    rw [command_of_unbound text hb, command_of_unbound (g := k) text hb]
    exact ⟨rfl, .intro q h⟩
  | some b =>
    cases hn : b.insert with
    | some address =>
      rw [command_of_insert text hb hn, command_of_insert (g := k) text hb hn]
      obtain ⟨ha, h'⟩ := Pool.insert_congruent address (normalizeCommand text) _ _ h
      exact ⟨congrArg (Except.map Outcome.inserted) ha, .intro _ h'⟩
    | none =>
      cases hu : b.update with
      | none =>
        rw [command_of_readOnly text hb hn hu, command_of_readOnly (g := k) text hb hn hu]
        exact ⟨rfl, .intro q h⟩
      | some address =>
        by_cases hl : g.lastValue? item = some (some (normalizeCommand text))
        · rw [command_of_repeat hb hn hu hl, command_of_repeat (g := k) hb hn hu hl]
          exact ⟨rfl, .intro q h⟩
        · rw [command_of_update hb hn hu hl, command_of_update (g := k) hb hn hu hl]
          obtain ⟨ha, h'⟩ := Pool.update_congruent address (normalizeCommand text) _ _ h
          exact ⟨congrArg (Except.map Outcome.updated) ha, .intro _ h'⟩

section

variable {g k : Gateway σ} (h : g.Indistinct same k)
include h

theorem Indistinct.refreshItemLog (item : String) : g.refreshItemLog item = k.refreshItemLog item := by
  obtain ⟨q, h⟩ := h
  simp only [Gateway.refreshItemLog, binding?, h.selectLog]

theorem Indistinct.refreshLog : g.refreshLog = k.refreshLog := by
  have hn : g.names = k.names := by
    obtain ⟨q, -⟩ := h
    rfl
  rw [Gateway.refreshLog, Gateway.refreshLog, hn]
  apply LogLine.along_congr _ _ k.names h
  · intro g k hg item
    have ha : (g.refreshItem item).1 = (k.refreshItem item).1 := (refreshItem_congruent item g k hg).1
    rw [hg.refreshItemLog, ha]
  · exact fun g k hg item => (refreshItem_congruent item g k hg).2

theorem Indistinct.commandLog (item text : String) : g.commandLog item text = k.commandLog item text := by
  obtain ⟨q, h⟩ := h
  simp only [Gateway.commandLog, binding?, lastValue?, h.insertLog, h.updateLog]
  rfl

theorem Indistinct.shutdownLog : g.shutdownLog = k.shutdownLog := by
  obtain ⟨q, h⟩ := h
  rw [Gateway.shutdownLog, Gateway.shutdownLog, ← h.refs]
  exact h.closeLog _

theorem Indistinct.performLog (c : Command) : g.performLog c = k.performLog c := by
  cases c with
  | select address =>
    obtain ⟨q, h⟩ := h
    exact h.selectLog address
  | update address payload =>
    obtain ⟨q, h⟩ := h
    exact h.updateLog address payload
  | insert address payload =>
    obtain ⟨q, h⟩ := h
    exact h.insertLog address payload
  | poll => exact h.refreshLog
  | items => rfl

end

theorem step_congruent (s : Step) :
    Congruent (Indistinct same) (Indistinct same) fun g : Gateway σ => g.step s := by
  rintro g _ ⟨q, h⟩
  cases s with
  | select address =>
    obtain ⟨ha, h'⟩ := Pool.select_congruent address _ _ h
    exact ⟨congrArg Reply.row ha, .intro _ h'⟩
  | update address payload =>
    obtain ⟨ha, h'⟩ := Pool.update_congruent address payload _ _ h
    exact ⟨congrArg Reply.rows ha, .intro _ h'⟩
  | insert address payload =>
    obtain ⟨ha, h'⟩ := Pool.insert_congruent address payload _ _ h
    exact ⟨congrArg Reply.rows ha, .intro _ h'⟩
  | acquire r =>
    obtain ⟨ha, h'⟩ := Pool.acquire_congruent r _ _ h
    exact ⟨congrArg Reply.acquired ha, .intro _ h'⟩
  | release r =>
    obtain ⟨ha, h'⟩ := Pool.release_congruent r _ _ h
    exact ⟨congrArg Reply.released ha, .intro _ h'⟩
  | read r sql =>
    obtain ⟨ha, h'⟩ := Pool.use_congruent r (World.readFirst_congruent (r := r) h.respects sql) _ _ h
    simp only [step, ← h.engine]
    exact ⟨congrArg Reply.row ha, .intro _ h'⟩
  | execute r s =>
    obtain ⟨ha, h'⟩ := Pool.use_congruent r (World.execute_congruent (r := r) h.respects s) _ _ h
    simp only [step, ← h.engine]
    exact ⟨congrArg Reply.rows ha, .intro _ h'⟩
  | refreshItem item =>
    obtain ⟨ha, h'⟩ := refreshItem_congruent item _ _ (.intro q h)
    exact ⟨congrArg Reply.change ha, h'⟩
  | command item text =>
    obtain ⟨ha, h'⟩ := command_congruent item text _ _ (.intro q h)
    exact ⟨congrArg Reply.outcome ha, h'⟩
  | refresh =>
    obtain ⟨ha, h'⟩ := refresh_congruent _ _ (.intro q h)
    exact ⟨congrArg Reply.changes ha, h'⟩
  | connectAll tour =>
    obtain ⟨ha, h'⟩ := Pool.connectEach_congruent (tour.order g.pool.refs) _ _ h
    simp only [step, ← h.refs]
    exact ⟨congrArg Reply.report ha, .intro _ h'⟩
  | closeAll tour =>
    obtain ⟨ha, h'⟩ := Pool.closeIn_congruent (tour.order g.pool.refs) _ _ h
    simp only [step, ← h.refs]
    exact ⟨congrArg Reply.closing ha, .intro _ h'⟩

theorem perform_congruent (c : Command) :
    Congruent (Indistinct same) (Indistinct same) fun g : Gateway σ => g.perform c := by
  rintro g _ ⟨q, h⟩
  cases c with
  | select address =>
    obtain ⟨ha, h'⟩ := Pool.select_congruent address _ _ h
    exact ⟨congrArg (Except.map Printed.ofSelection) ha, .intro _ h'⟩
  | update address payload =>
    obtain ⟨ha, h'⟩ := Pool.update_congruent address payload _ _ h
    exact ⟨congrArg (Except.map _) ha, .intro _ h'⟩
  | insert address payload =>
    obtain ⟨ha, h'⟩ := Pool.insert_congruent address payload _ _ h
    exact ⟨congrArg (Except.map _) ha, .intro _ h'⟩
  | poll =>
    obtain ⟨ha, h'⟩ := refresh_congruent _ _ (.intro q h)
    refine ⟨?_, h'⟩
    simp only [perform, ha]
  | items => exact ⟨rfl, .intro q h⟩

theorem shutdown_congruent : Congruent (Indistinct same) (Indistinct same) (shutdown (σ := σ)) := by
  rintro g _ ⟨q, h⟩
  obtain ⟨ha, h'⟩ := Pool.closeAll_congruent _ _ h
  exact ⟨ha, .intro _ h'⟩

theorem runToEnd_congruent (c : Command) :
    Congruent (Indistinct same) (Indistinct same) fun g : Gateway σ => g.runToEnd c := by
  intro g k h
  have hlog := h.performLog c
  obtain ⟨a, g₁, k₁, hg, hk, h⟩ := (perform_congruent c).answer h
  have hclosing := h.shutdownLog
  obtain ⟨b, g₂, k₂, hg', hk', h⟩ := shutdown_congruent.answer h
  simp only [runToEnd, hg, hk, hg', hk', hlog, hclosing]
  exact ⟨trivial, h⟩

section

variable {engine : Engine σ} (he : engine.Respects same) {state state' : σ} (hs : same state state') {c d : Config}
  (h : c.Indistinct d)
include he hs h

theorem replaceAll_indistinct : ((Pool.new engine [] state).replaceAll c.servers).Indistinct same
    ((Pool.new engine [] state').replaceAll d.servers) :=
  (Pool.new_indistinct he (List.forall_mem_nil _) hs).replaceIn _ h.servers

theorem ofConfig_indistinct : (ofConfig engine state c).Indistinct same (ofConfig engine state' d) := by
  rw [ofConfig, ofConfig, ← h.items, ← h.interval]
  exact .intro _ (Pool.connectAll_congruent _ _ (replaceAll_indistinct he hs h)).2

theorem ofConfigLog_eq : ofConfigLog engine state c = ofConfigLog engine state' d := by
  have hnew : (Pool.new engine [] state).Indistinct same (Pool.new engine [] state') :=
    Pool.new_indistinct he (List.forall_mem_nil _) hs
  have hall := replaceAll_indistinct he hs h
  have hreport := (Pool.connectAll_congruent _ _ hall).1
  simp only [ofConfigLog, hreport, h.driver, hall.refs, hnew.refs, hall.connectLog, hnew.replaceLog _ h.servers]

end

end Gateway

end ItemGateway
