import ItemGateway.Query

namespace ItemGateway

variable {σ α β : Type} {R S : β → β → Prop} {f : β → α × β}

def Congruent (R S : β → β → Prop) (f : β → α × β) : Prop :=
  ∀ v w, R v w → (f v).1 = (f w).1 ∧ S (f v).2 (f w).2

theorem Congruent.answer (h : Congruent R S f) {v w : β} (hr : R v w) :
    ∃ a v' w', f v = (a, v') ∧ f w = (a, w') ∧ S v' w' :=
  ⟨(f v).1, (f v).2, (f w).2, rfl, Prod.ext (h v w hr).1.symm rfl, (h v w hr).2⟩

theorem Congruent.weaken {S' : β → β → Prop} (h : Congruent R S f) (hs : ∀ v w, S v w → S' v w) :
    Congruent R S' f :=
  fun v w hr => (h v w hr).imp_right (hs _ _)

def Diagonal (I : β → Prop) (v w : β) : Prop :=
  v = w ∧ I v

theorem congruent_diagonal {I J : β → Prop} : Congruent (Diagonal I) (Diagonal J) f ↔ ∀ w, I w → J (f w).2 := by
  constructor
  · intro h w hi
    exact (h w w ⟨rfl, hi⟩).2.2
  · rintro h v _ ⟨rfl, hi⟩
    exact ⟨rfl, rfl, h v hi⟩

namespace Query

variable {e : Engine σ} {r : Ref} {sql : String} {s : Statement} {B C : World σ → World σ → Prop}

theorem readFirst_congruent {R : World σ → World σ → Prop} (hp : Congruent R B (World.prepare e r sql))
    (hs : Congruent B B (World.step e r)) : Congruent R B (readFirst e r sql) := by
  intro v w hr
  obtain ⟨a, v₁, w₁, hv, hw, hr⟩ := hp.answer hr
  simp only [readFirst, hv, hw]
  rcases a with cause | q
  · exact ⟨rfl, hr⟩
  dsimp only
  split
  · exact ⟨rfl, hr⟩
  split
  · exact ⟨rfl, hr⟩
  obtain ⟨a, v₂, w₂, hv, hw, hr⟩ := hs.answer hr
  simp only [hv, hw]
  rcases a with cause | _ | cells
  · exact ⟨rfl, hr⟩
  · exact ⟨rfl, hr⟩
  dsimp only
  split
  · exact ⟨rfl, hr⟩
  obtain ⟨a, v₃, w₃, hv, hw, hr⟩ := hs.answer hr
  simp only [hv, hw]
  rcases a with cause | next <;> exact ⟨rfl, hr⟩

theorem execute_congruent {R : World σ → World σ → Prop} (hp : Congruent R B (World.prepare e r s.sql))
    (hx : Congruent B C (World.execute e r (boundValue s))) (hc : ∀ v w, B v w → C v w) :
    Congruent R C (execute e r s) := by
  intro v w hr
  obtain ⟨a, v₁, w₁, hv, hw, hr⟩ := hp.answer hr
  simp only [execute, hv, hw]
  rcases a with cause | q
  · exact ⟨rfl, hc _ _ hr⟩
  dsimp only
  split
  · exact ⟨rfl, hc _ _ hr⟩
  obtain ⟨a, v₂, w₂, hv, hw, hr⟩ := hx.answer hr
  simp only [hv, hw]
  rcases a with cause | n <;> exact ⟨rfl, hr⟩

variable {I J K : World σ → Prop} {w : World σ}

theorem readFirst_keeps (hp : ∀ w, I w → J (w.prepare e r sql).2) (hs : ∀ w, J w → J (w.step e r).2)
    (h : I w) : J (readFirst e r sql w).2 :=
  congruent_diagonal.mp (readFirst_congruent (congruent_diagonal.mpr hp) (congruent_diagonal.mpr hs)) w h

theorem execute_keeps (hp : ∀ w, I w → J (w.prepare e r s.sql).2)
    (hx : ∀ w, J w → K (w.execute e r (boundValue s)).2) (hk : ∀ w, J w → K w) (h : I w) :
    K (execute e r s w).2 :=
  congruent_diagonal.mp
    (execute_congruent (congruent_diagonal.mpr hp) (congruent_diagonal.mpr hx) fun _ _ => And.imp_right (hk _))
    w h

end Query

end ItemGateway
