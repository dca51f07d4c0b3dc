import ItemGateway.Proofs.LinkMoves
import Mathlib.Logic.Function.Basic

/-!
One link kept apart from the others: what is asked of it they do not feel, and what is asked of them does
not depend on it. If the engine and the drivers keep a link apart, then so do statements and the operations
on links.
-/

namespace ItemGateway

variable {σ α β : Type} {x : Ref} {same : Setoid σ}

/-- In two states that are the same but for `x`, every other link gets the same answer and leaves the states
the same. Nothing but `x` feels what is asked of `x`. -/
structure Apart (x : Ref) (same : Setoid σ) (f : Ref → σ → α × σ) : Prop where
  others : ∀ {r}, r ≠ x → ∀ {v w}, same.r v w → (f r v).1 = (f r w).1 ∧ same.r (f r v).2 (f r w).2
  unfelt : ∀ w, same.r (f x w).2 w

namespace Apart

theorem congruent {f : Ref → σ → α × σ} (h : Apart x same f) {r : Ref} (hr : r ≠ x) :
    Congruent same.r same.r (f r) :=
  fun _ _ hs => h.others hr hs

theorem answer {f : Ref → σ → α × σ} (h : Apart x same f) {r : Ref} (hr : r ≠ x) {v w : σ}
    (hs : same.r v w) : ∃ a v' w', f r v = (a, v') ∧ f r w = (a, w') ∧ same.r v' w' :=
  (h.congruent hr).answer hs

theorem stays {f : Ref → σ → α × σ} (h : Apart x same f) {v w : σ} (hs : same.r w v) :
    same.r (f x w).2 v :=
  same.trans (h.unfelt w) hs

theorem trace {f : Ref → σ → α × σ} (h : Apart x same f) (w : σ) :
    ∃ a w', f x w = (a, w') ∧ same.r w' w :=
  ⟨_, _, rfl, h.unfelt w⟩

end Apart

structure Engine.KeepsApart (e : Engine σ) (x : Ref) (same : Setoid σ) : Prop where
  openDatabase : ∀ path, Apart x same fun r => e.openDatabase r path
  enforceForeignKeys : Apart x same e.enforceForeignKeys
  close : Apart x same fun r w => (e.closeRefusal? r w, e.close r w)
  prepare : ∀ sql, Apart x same fun r => e.prepare r sql
  step : Apart x same e.step
  execute : ∀ bound, Apart x same fun r => e.execute r bound

def Driver.KeepsApart (d : Driver σ) (x : Ref) (same : Setoid σ) : Prop :=
  ∀ s, Apart x same fun r => d.connect r s

theorem Engine.KeepsApart.driver {e : Engine σ} (h : e.KeepsApart x same) :
    e.driver.KeepsApart x same := by
  intro s
  let path := Server.databasePath s.url
  constructor
  · intro r hr v w hs
    obtain ⟨a, v₁, w₁, hv, hw, hs⟩ := (h.openDatabase path).answer hr hs
    simp only [Engine.driver, path] at hv hw ⊢
    rw [hv, hw]
    rcases a with cause | -
    · exact ⟨rfl, hs⟩
    obtain ⟨a, v₂, w₂, hv, hw, hs⟩ := h.enforceForeignKeys.answer hr hs
    dsimp only
    rw [hv, hw]
    rcases a with cause | - <;> exact ⟨rfl, hs⟩
  · intro w
    obtain ⟨a, w₁, hw, hs⟩ := (h.openDatabase path).trace w
    simp only [Engine.driver, path] at hw ⊢
    rw [hw]
    rcases a with cause | -
    · exact hs
    obtain ⟨a, w₂, hw, ht⟩ := h.enforceForeignKeys.trace w₁
    dsimp only
    rw [hw]
    rcases a with cause | - <;> exact same.trans ht hs

def Engine.separate (e : Engine σ) : Engine (Ref → σ) where
  openDatabase r path w := ((e.openDatabase r path (w r)).1, Function.update w r (e.openDatabase r path (w r)).2)
  enforceForeignKeys r w :=
    ((e.enforceForeignKeys r (w r)).1, Function.update w r (e.enforceForeignKeys r (w r)).2)
  close r w := Function.update w r (e.close r (w r))
  closeRefusal? r w := e.closeRefusal? r (w r)
  prepare r sql w := ((e.prepare r sql (w r)).1, Function.update w r (e.prepare r sql (w r)).2)
  step r w := ((e.step r (w r)).1, Function.update w r (e.step r (w r)).2)
  execute r bound w := ((e.execute r bound (w r)).1, Function.update w r (e.execute r bound (w r)).2)

def elsewhere (σ : Type) (x : Ref) : Setoid (Ref → σ) where
  r v w := ∀ r ≠ x, v r = w r
  iseqv := ⟨fun _ _ _ => rfl, fun h r hr => (h r hr).symm, fun h h' r hr => (h r hr).trans (h' r hr)⟩

theorem apart_update (f : Ref → σ → α × σ) (x : Ref) :
    Apart x (elsewhere σ x) fun r w => ((f r (w r)).1, Function.update w r (f r (w r)).2) where
  others := by
    intro r hr v w hs
    rw [hs r hr]
    refine ⟨rfl, ?_⟩
    intro s hs'
    dsimp only
    by_cases he : s = r
    · subst he
      rw [Function.update_self, Function.update_self]
    · rw [Function.update_of_ne he, Function.update_of_ne he, hs s hs']
  unfelt := by
    intro w r hr
    exact Function.update_of_ne hr _ _

theorem Engine.separate_keepsApart (e : Engine σ) (x : Ref) :
    e.separate.KeepsApart x (elsewhere σ x) where
  openDatabase path := apart_update (fun r => e.openDatabase r path) x
  enforceForeignKeys := apart_update e.enforceForeignKeys x
  close := apart_update (fun r s => (e.closeRefusal? r s, e.close r s)) x
  prepare sql := apart_update (fun r => e.prepare r sql) x
  step := apart_update e.step x
  execute bound := apart_update (fun r => e.execute r bound) x

namespace World

def alike (x : Ref) (same : Setoid σ) : Setoid (World σ) where
  r v w := same.r v.state w.state ∧ v.trail.filter (·.link ≠ x) = w.trail.filter (·.link ≠ x)
  iseqv :=
    ⟨fun w => ⟨same.refl w.state, rfl⟩, fun h => ⟨same.symm h.1, h.2.symm⟩,
      fun h h' => ⟨same.trans h.1 h'.1, h.2.trans h'.2⟩⟩

theorem apart_record {f : Ref → σ → α × σ} (h : Apart x same f) (event : Ref → α → Event)
    (he : ∀ r a, (event r a).link = r) :
    Apart x (alike x same) fun r w =>
      ((f r w.state).1, ⟨(f r w.state).2, event r (f r w.state).1 :: w.trail⟩) where
  others := by
    intro r hr v w hs
    obtain ⟨ha, ht⟩ := h.others hr hs.1
    refine ⟨ha, ht, ?_⟩
    rw [ha, List.filter_cons, List.filter_cons, hs.2]
  unfelt := fun w => ⟨h.unfelt w.state, by simp [he]⟩

variable {e : Engine σ}

theorem connect_apart {d : Driver σ} (h : d.KeepsApart x same) (s : Server) :
    Apart x (alike x same) fun r w => World.connect d r s w :=
  apart_record (h s) (fun r a => .opened r d.id a.isOk) fun _ _ => rfl

theorem close_apart (h : e.KeepsApart x same) : Apart x (alike x same) fun r w => World.close e r w :=
  apart_record h.close (fun r _ => .closed r) fun _ _ => rfl

theorem prepare_apart (h : e.KeepsApart x same) (sql : String) :
    Apart x (alike x same) fun r w => World.prepare e r sql w :=
  apart_record (h.prepare sql) (fun r _ => .prepared r sql) fun _ _ => rfl

theorem step_apart (h : e.KeepsApart x same) : Apart x (alike x same) fun r w => World.step e r w :=
  apart_record h.step (fun r _ => .stepped r) fun _ _ => rfl

theorem execute_apart (h : e.KeepsApart x same) (bound : Option String) :
    Apart x (alike x same) fun r w => World.execute e r bound w :=
  apart_record (h.execute bound) (fun r _ => .executed r bound) fun _ _ => rfl

end World

theorem Query.readFirst_apart {e : Engine σ} (h : e.KeepsApart x same) (sql : String) :
    Apart x (World.alike x same) fun r w => Query.readFirst e r sql w where
  others := by
    intro r hr v w
    exact Query.readFirst_congruent ((World.prepare_apart h sql).congruent hr)
      ((World.step_apart h).congruent hr) v w
  unfelt := by
    intro w
    let near (v : World σ) : Prop := (World.alike x same).r v w
    exact Query.readFirst_keeps (I := near) (J := near) (fun _ => (World.prepare_apart h sql).stays)
      (fun _ => (World.step_apart h).stays) ((World.alike x same).refl w)

theorem Query.execute_apart {e : Engine σ} (h : e.KeepsApart x same) (s : Statement) :
    Apart x (World.alike x same) fun r w => Query.execute e r s w where
  others := by
    intro r hr v w
    exact Query.execute_congruent ((World.prepare_apart h s.sql).congruent hr)
      ((World.execute_apart h (Query.boundValue s)).congruent hr) (fun _ _ hs => hs) v w
  unfelt := by
    intro w
    let near (v : World σ) : Prop := (World.alike x same).r v w
    exact Query.execute_keeps (I := near) (J := near) (K := near)
      (fun _ => (World.prepare_apart h s.sql).stays) (fun _ => (World.execute_apart h _).stays) (fun _ => id)
      ((World.alike x same).refl w)

namespace Link

def KeepsApart (l : Link σ) (x : Ref) (same : Setoid σ) : Prop :=
  ∀ d, l.driver = some d → d.KeepsApart x same

structure Local (x : Ref) (same : Setoid σ) (f : Ref → Link σ → World σ → α × Link σ × World σ) :
    Prop where
  move : ∀ r l w, Move r l (f r l w).2.1 w (f r l w).2.2
  others : ∀ {l : Link σ}, l.KeepsApart x same → ∀ {r}, r ≠ x → ∀ {v w}, (World.alike x same).r v w →
    ∃ a l' v' w', f r l v = (a, l', v') ∧ f r l w = (a, l', w') ∧ (World.alike x same).r v' w'
  unfelt : ∀ {l : Link σ}, l.KeepsApart x same → ∀ w, (World.alike x same).r (f x l w).2.2 w

theorem acquire_local : Local x same (acquire (σ := σ)) where
  move := acquire_move
  others := by
    intro l hk r hr v w hs
    rcases l.acquire_asks with ⟨a, ha⟩ | ⟨d, hd, ha⟩
    · exact ⟨a, l, v, w, ha r v, ha r w, hs⟩
    obtain ⟨a, v', w', hv, hw, ht⟩ := (World.connect_apart (hk d hd) l.server).answer hr hs
    rw [ha, ha, hv, hw]
    rcases a with f | - <;> exact ⟨_, _, v', w', rfl, rfl, ht⟩
  unfelt := by
    intro l hk w
    rcases l.acquire_asks with ⟨a, ha⟩ | ⟨d, hd, ha⟩
    · simpa only [ha] using (World.alike x same).refl w
    obtain ⟨a, w', hw, ht⟩ := (World.connect_apart (hk d hd) l.server).trace w
    rw [ha, hw]
    rcases a with f | - <;> exact ht

theorem release_local {e : Engine σ} (h : e.KeepsApart x same) : Local x same (release e) where
  move := release_move e
  others := by
    intro l hk r hr v w hs
    obtain ⟨a, v', w', hv, hw, ht⟩ := (World.close_apart h).answer hr hs
    simp only [release, hv, hw]
    split
    · exact ⟨_, _, v, w, rfl, rfl, hs⟩
    split
    · rcases a with - | cause <;> exact ⟨_, _, v', w', rfl, rfl, ht⟩
    · exact ⟨_, _, v, w, rfl, rfl, hs⟩
  unfelt := by
    intro l hk w
    obtain ⟨a, w', hw, ht⟩ := (World.close_apart h).trace w
    simp only [release, hw]
    split
    · exact (World.alike x same).refl w
    split
    · rcases a with - | cause <;> exact ht
    · exact (World.alike x same).refl w

theorem use_local {f : Ref → World σ → Except Fault α × World σ} (hf : Apart x (World.alike x same) f)
    (hw : ∀ r, ∀ w : World σ, w.Works (f r w).2) : Local x same fun r => use r (f r) where
  move := fun r => use_move r (hw r)
  others := by
    intro l hk r hr v w hs
    obtain ⟨a, l', v₁, w₁, hv₁, hw₁, hs₁⟩ := acquire_local.others hk hr hs
    simp only [use, hv₁, hw₁]
    rcases a with e | -
    · exact ⟨_, _, v₁, w₁, rfl, rfl, hs₁⟩
    obtain ⟨a, v₂, w₂, hv₂, hw₂, hs₂⟩ := hf.answer hr hs₁
    simp only [hv₂, hw₂]
    exact ⟨a, l', v₂, w₂, rfl, rfl, hs₂⟩
  unfelt := by
    intro l hk w
    have hs := acquire_local.unfelt hk w
    simp only [use]
    split
    · next ha =>
      rw [ha] at hs
      exact hs
    · next ha =>
      rw [ha] at hs
      exact (World.alike x same).trans (hf.unfelt _) hs

theorem turn_local : Local x same (turn (σ := σ)) where
  move := turn_move
  others := by
    intro l hk r hr v w hs
    obtain ⟨a, l', v', w', hv, hw, ht⟩ := acquire_local.others hk hr hs
    simp only [turn, hv, hw]
    split
    · exact ⟨_, _, v, w, rfl, rfl, hs⟩
    rcases a with f | - <;> exact ⟨_, _, v', w', rfl, rfl, ht⟩
  unfelt := by
    intro l hk w
    have hs := acquire_local.unfelt hk w
    unfold turn
    split
    · exact (World.alike x same).refl w
    split <;> next ha =>
      rw [ha] at hs
      exact hs

end Link

end ItemGateway
