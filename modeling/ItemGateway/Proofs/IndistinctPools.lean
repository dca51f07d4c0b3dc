import ItemGateway.Proofs.ClosedLinks
import ItemGateway.Proofs.DispatchFrame
import ItemGateway.Proofs.IndistinctLinks
import Mathlib.Data.List.Forall2

namespace ItemGateway

theorem LogLine.along_eq {β γ : Type} {R : β → β → Prop} {S : γ → γ → Prop} {log : β → γ → List LogLine}
    {step : β → γ → β} (hlog : ∀ s t, R s t → ∀ a b, S a b → log s a = log t b)
    (hstep : ∀ s t, R s t → ∀ a b, S a b → R (step s a) (step t b)) {as bs : List γ}
    (h : List.Forall₂ S as bs) {s t : β} (hr : R s t) : along log step as s = along log step bs t := by
  induction h generalizing s t with
  | nil => rfl
  | cons hab _ ih => rw [along, along, hlog _ _ hr _ _ hab, ih (hstep _ _ hr _ _ hab)]

theorem LogLine.along_congr {β γ : Type} {R : β → β → Prop} {log : β → γ → List LogLine} {step : β → γ → β}
    (hlog : ∀ s t, R s t → ∀ a, log s a = log t a) (hstep : ∀ s t, R s t → ∀ a, R (step s a) (step t a))
    (as : List γ) {s t : β} (hr : R s t) : along log step as s = along log step as t := by
  apply along_eq (R := R) (S := Eq) _ _ (List.forall₂_refl as) hr
  · rintro s t h a _ rfl
    exact hlog s t h a
  · rintro s t h a _ rfl
    exact hstep s t h a

namespace Pool

variable {σ α : Type} {same : σ → σ → Prop} {p q : Pool σ}

structure Indistinct (same : σ → σ → Prop) (p q : Pool σ) : Prop where
  engine : p.engine = q.engine
  drivers : p.drivers = q.drivers
  names : p.names = q.names
  size : p.links.size = q.links.size
  link : ∀ r, (p.link r).Indistinct same (q.link r)
  world : p.world.Indistinct same q.world
  respects : p.engine.Respects same
  blind : ∀ (id : String) (d : Driver σ), p.drivers[id]? = some d → d.Blind same

theorem new_indistinct {engine : Engine σ} {drivers : List (Driver σ)} (he : engine.Respects same)
    (hd : ∀ d ∈ drivers, d.Blind same) {state state' : σ} (hs : same state state') :
    (new engine drivers state).Indistinct same (new engine drivers state') where
  engine := rfl
  drivers := rfl
  names := rfl
  size := rfl
  link r := by
    rw [link_of_size_le _ (by simp [new]), link_of_size_le _ (by simp [new])]
    exact .intro _ (.refl _) (by rintro d ⟨⟩)
  world := ⟨hs, rfl⟩
  respects := he
  blind id d h := by
    rcases mem_of_foldl_insert h with hm | hm
    · rcases List.mem_cons.mp hm with rfl | hm
      · exact he.driver
      · exact hd d hm
    · simp at hm

namespace Indistinct

theorem get? (h : p.Indistinct same q) (id : String) : p.get? id = q.get? id := by
  rw [Pool.get?, Pool.get?, h.names]

theorem refs (h : p.Indistinct same q) : p.refs = q.refs := by
  rw [Pool.refs, Pool.refs, h.names]

theorem resolve (h : p.Indistinct same q) (address : String) : p.resolve address = q.resolve address := by
  rw [Pool.resolve, Pool.resolve, h.get?]

theorem openIds (h : p.Indistinct same q) : p.openIds = q.openIds := by
  have hl (r : Ref) : (p.link r).isOpen = (q.link r).isOpen := (h.link r).isOpen
  simp only [Pool.openIds, h.names, hl]

theorem debug (h : p.Indistinct same q) : p.debug = q.debug := by
  unfold Pool.debug Pool.ids
  rw [h.names, h.drivers]

end Indistinct

theorem Indistinct.on (h : p.Indistinct same q) (r : Ref) {f : Link σ → World σ → α × Link σ × World σ}
    (hf : Link.Blind same f) : (p.on r f).1 = (q.on r f).1 ∧ (p.on r f).2.Indistinct same (q.on r f).2 := by
  obtain ⟨a, l, k, v, w, hp, hq, hl, hw⟩ := hf _ _ _ _ (h.link r) h.world
  have hsize : (p.on r f).2.links.size = (q.on r f).2.links.size := by
    rw [size_on, size_on, h.size]
  refine ⟨?_, h.engine, h.drivers, h.names, hsize, ?_, ?_, h.respects, h.blind⟩
  · simp only [Pool.on, hp, hq]
  · intro s
    rw [link_on, link_on, ← h.size]
    split
    · next hs =>
      rw [hs.1, hp, hq]
      exact hl
    · exact h.link s
  · simpa only [Pool.on, hp, hq] using hw

theorem acquire_congruent (r : Ref) :
    Congruent (Indistinct same) (Indistinct same) fun p : Pool σ => p.acquire r :=
  fun _ _ h => h.on r Link.acquire_blind

theorem Indistinct.acquireLog (h : p.Indistinct same q) (r : Ref) : p.acquireLog r = q.acquireLog r :=
  Link.acquireLog_eq (h.link r) h.world r

theorem release_congruent (r : Ref) :
    Congruent (Indistinct same) (Indistinct same) fun p : Pool σ => p.release r := by
  intro p q h
  have ha := h.on r (Link.release_blind (r := r) h.respects)
  rwa [← Pool.release, h.engine] at ha

theorem use_congruent (r : Ref) {f : World σ → Except Fault α × World σ}
    (hf : Congruent (World.Indistinct same) (World.Indistinct same) f) :
    Congruent (Indistinct same) (Indistinct same) fun p => p.use r f :=
  fun _ _ h => h.on r (Link.use_blind hf)

theorem abandon_congruent (r : Ref) {f : World σ → World σ}
    (hf : ∀ v w, World.Indistinct same v w → World.Indistinct same (f v) (f w)) :
    Congruent (Indistinct same) (Indistinct same) fun p => p.abandon r f :=
  fun _ _ h => h.on r (Link.abandon_blind hf)

theorem Indistinct.enroll (h : p.Indistinct same q) {s t : Server} (hs : s.Indistinct t) :
    (p.enroll s).Indistinct same (q.enroll t) where
  engine := h.engine
  drivers := h.drivers
  names := by simp only [Pool.enroll, h.names, h.size, hs.id]
  size := by simp only [Pool.enroll, Array.size_push, h.size]
  link r := by
    rw [link_enroll, link_enroll, ← h.size, ← h.drivers, ← hs.driver]
    split
    · exact .intro t hs (h.blind s.driver)
    · exact h.link r
  world := h.world
  respects := h.respects
  blind := h.blind

theorem Indistinct.clear (h : p.Indistinct same q) :
    Indistinct same { p with names := ∅ } { q with names := ∅ } :=
  ⟨h.engine, h.drivers, rfl, h.size, h.link, h.world, h.respects, h.blind⟩

theorem Indistinct.retire (h : p.Indistinct same q) (r : Ref) : (p.retire r).Indistinct same (q.retire r) :=
  (release_congruent r p q h).2

theorem Indistinct.register (h : p.Indistinct same q) {s t : Server} (hs : s.Indistinct t) :
    (p.register s).Indistinct same (q.register t) := by
  simp only [Pool.register, ← h.names, ← hs.id]
  split
  · exact h.enroll hs
  · exact (h.enroll hs).retire _

theorem Indistinct.enrollEach (h : p.Indistinct same q) {servers servers' : List Server}
    (hs : List.Forall₂ Server.Indistinct servers servers') :
    (servers.foldl Pool.enroll p).Indistinct same (servers'.foldl Pool.enroll q) := by
  apply List.rel_foldl (P := Indistinct same) (R := Server.Indistinct) _ h hs
  intro p q hp s t hst
  exact hp.enroll hst

theorem Indistinct.replaceIn (h : p.Indistinct same q) (order : List Ref) {servers servers' : List Server}
    (hs : List.Forall₂ Server.Indistinct servers servers') :
    (p.replaceIn order servers).Indistinct same (q.replaceIn order servers') := by
  apply List.rel_foldl (P := Indistinct same) (R := Eq) _ (h.clear.enrollEach hs) (List.forall₂_refl order)
  rintro p q hp r _ rfl
  exact hp.retire r

section

variable (h : p.Indistinct same q)
include h

theorem Indistinct.enrollLog {s t : Server} (hs : s.Indistinct t) : p.enrollLog s = q.enrollLog t := by
  simp only [Pool.enrollLog, h.drivers, hs.driver, hs.display]

theorem Indistinct.retireLog (r : Ref) : p.retireLog r = q.retireLog r := by
  have ha : (p.release r).1 = (q.release r).1 := (release_congruent r p q h).1
  rw [Pool.retireLog, Pool.retireLog, ha]

theorem Indistinct.registerLog {s t : Server} (hs : s.Indistinct t) : p.registerLog s = q.registerLog t := by
  simp only [Pool.registerLog, ← h.names, ← hs.id, h.enrollLog hs, (h.enroll hs).retireLog]

theorem Indistinct.replaceLog (order : List Ref) {servers servers' : List Server}
    (hs : List.Forall₂ Server.Indistinct servers servers') :
    p.replaceLog order servers = q.replaceLog order servers' := by
  rw [Pool.replaceLog, Pool.replaceLog]
  congr 1
  · exact LogLine.along_eq (fun _ _ hp _ _ => hp.enrollLog) (fun _ _ hp _ _ => hp.enroll) hs h.clear
  · exact LogLine.along_congr (fun _ _ hp => hp.retireLog) (fun _ _ hp => hp.retire) order
      (h.clear.enrollEach hs)

end

theorem connectOne_congruent (r : Ref) :
    Congruent (Indistinct same) (Indistinct same) fun p : Pool σ => p.connectOne r := by
  intro p q h
  simp only [connectOne_eq_on]
  exact h.on r Link.turn_blind

theorem Indistinct.connectOneLog (h : p.Indistinct same q) (r : Ref) : p.connectOneLog r = q.connectOneLog r := by
  have hs := (h.link r).server
  have ha : (p.acquire r).1 = (q.acquire r).1 := (acquire_congruent r p q h).1
  simp only [Pool.connectOneLog, hs.isComplete, hs.display, hs.id, h.acquireLog r, ha]

theorem connectEach_congruent (order : List Ref) :
    Congruent (Indistinct same) (Indistinct same) (connectEach (σ := σ) order) := by
  intro p q h
  induction order generalizing p q with
  | nil => exact ⟨rfl, h⟩
  | cons r order ih =>
    obtain ⟨ha, h⟩ := connectOne_congruent r _ _ h
    obtain ⟨hb, h⟩ := ih _ _ h
    dsimp only at ha hb
    refine ⟨?_, h⟩
    simp only [connectEach, ha, hb]

theorem Indistinct.connectLog (h : p.Indistinct same q) (order : List Ref) :
    Pool.connectLog order p = Pool.connectLog order q := by
  apply LogLine.along_congr _ _ order h
  · exact fun _ _ hp => hp.connectOneLog
  · exact fun p q hp r => (connectOne_congruent r p q hp).2

theorem connectAll_congruent : Congruent (Indistinct same) (Indistinct same) (connectAll (σ := σ)) := by
  intro p q h
  rw [connectAll, connectAll, ← h.refs]
  exact connectEach_congruent p.refs p q h

theorem closeEach_congruent (order : List Ref) :
    Congruent (Indistinct same) (Indistinct same) (closeEach (σ := σ) order) := by
  intro p q h
  induction order generalizing p q with
  | nil => exact ⟨rfl, h⟩
  | cons r order ih =>
    obtain ⟨ha, h⟩ := release_congruent r _ _ h
    obtain ⟨hb, h⟩ := ih _ _ h
    refine ⟨?_, h⟩
    simp only [closeEach, ha, hb]

theorem Indistinct.closeLog (h : p.Indistinct same q) (order : List Ref) :
    Pool.closeLog order p = Pool.closeLog order q := by
  rw [Pool.closeLog, Pool.closeLog, (closeEach_congruent order p q h).1]

theorem closeIn_congruent (order : List Ref) :
    Congruent (Indistinct same) (Indistinct same) (closeIn (σ := σ) order) := by
  intro p q h
  obtain ⟨faults, p', q', hp, hq, h⟩ := (closeEach_congruent order).answer h
  simp only [closeIn, hp, hq]
  rcases faults with _ | ⟨f, faults⟩ <;> exact ⟨rfl, h⟩

theorem closeAll_congruent : Congruent (Indistinct same) (Indistinct same) (closeAll (σ := σ)) := by
  intro p q h
  rw [← closeIn_refs, ← closeIn_refs, ← h.refs]
  exact closeIn_congruent p.refs p q h

theorem Indistinct.dispatch (h : p.Indistinct same q) (address : String)
    {f : Ref → String → World σ → Except Fault α × World σ}
    (hf : ∀ r template, Congruent (World.Indistinct same) (World.Indistinct same) (f r template)) :
    (p.dispatch address f).1 = (q.dispatch address f).1 ∧
      (p.dispatch address f).2.Indistinct same (q.dispatch address f).2 := by
  simp only [Pool.dispatch, h.resolve]
  split
  · exact ⟨rfl, h⟩
  · exact use_congruent _ (hf _ _) _ _ h

theorem Indistinct.dispatchLog (h : p.Indistinct same q) (address : String) (lead : List LogLine)
    (answer : Except Fault α) : p.dispatchLog address lead answer = q.dispatchLog address lead answer := by
  simp only [Pool.dispatchLog, h.resolve, h.acquireLog]

theorem select_congruent (address : String) :
    Congruent (Indistinct same) (Indistinct same) fun p : Pool σ => p.select address := by
  intro p q h
  simp only [Pool.select, ← h.engine]
  exact h.dispatch address fun _ template => World.readFirst_congruent h.respects template

theorem update_congruent (address payload : String) :
    Congruent (Indistinct same) (Indistinct same) fun p : Pool σ => p.update address payload := by
  intro p q h
  simp only [Pool.update, ← h.engine]
  exact h.dispatch address fun _ _ => World.execute_congruent h.respects _

theorem insert_congruent (address payload : String) :
    Congruent (Indistinct same) (Indistinct same) fun p : Pool σ => p.insert address payload := by
  intro p q h
  simp only [Pool.insert, ← h.engine]
  exact h.dispatch address fun _ _ => World.execute_congruent h.respects _

section

variable (h : p.Indistinct same q)
include h

theorem Indistinct.selectLog (address : String) : p.selectLog address = q.selectLog address := by
  have ha : (p.select address).1 = (q.select address).1 := (select_congruent address p q h).1
  rw [Pool.selectLog, Pool.selectLog, ha, h.dispatchLog]

theorem Indistinct.updateLog (address payload : String) :
    p.updateLog address payload = q.updateLog address payload := by
  have ha : (p.update address payload).1 = (q.update address payload).1 :=
    (update_congruent address payload p q h).1
  rw [Pool.updateLog, Pool.updateLog, ha, h.dispatchLog]

theorem Indistinct.insertLog (address payload : String) :
    p.insertLog address payload = q.insertLog address payload := by
  have ha : (p.insert address payload).1 = (q.insert address payload).1 :=
    (insert_congruent address payload p q h).1
  rw [Pool.insertLog, Pool.insertLog, ha, h.dispatchLog]

end

end Pool

end ItemGateway
