import ItemGateway.Proofs.RowFields
import ItemGateway.Query

namespace ItemGateway

variable {σ : Type}

namespace Reading

def ofFirst (names : List String) : Option (List Cell) → Reading
  | none => absent
  | some cells =>
    match names, cells with
    | [_], [.null] => absent
    | [_], [c] => scalar c.display
    | names, cells => row (names.zip (cells.map Cell.display))

theorem ofRow_eq_ofFirst {names : List String} {cells : List Cell} (h : cells.length = names.length) :
    ofRow names cells = .ok (ofFirst names (some cells)) := by
  match names, cells with
  | [], [] => rfl
  | [_], [c] => cases c <;> rfl
  | a :: b :: names, cells =>
    rw [ofRow_of_two_le h.symm (by simp)]
    rfl

end Reading

namespace Query

def Steppable (q : Prepared) : Prop :=
  q.readOnly = true ∧ q.parameters = 0

inductive Read (e : Engine σ) (r : Ref) (sql : String) (w : World σ) : Except Fault Selection → World σ → Prop
  | unprepared {cause : String} {w₁ : World σ} (hp : w.prepare e r sql = (.error cause, w₁)) :
      Read e r sql w (.error (.prepareRefused cause)) w₁
  | writing {q : Prepared} {w₁ : World σ} (hp : w.prepare e r sql = (.ok q, w₁)) (hq : q.readOnly = false) :
      Read e r sql w (.error (.notReadOnly sql)) w₁
  | unbound {q : Prepared} {w₁ : World σ} (hp : w.prepare e r sql = (.ok q, w₁)) (hq : q.readOnly = true)
      (hn : 0 < q.parameters) : Read e r sql w (.error (.openParameters q.parameters)) w₁
  | unstepped {q : Prepared} {cause : String} {w₁ w₂ : World σ} (hp : w.prepare e r sql = (.ok q, w₁))
      (hq : Steppable q) (hs : w₁.step e r = (.error cause, w₂)) :
      Read e r sql w (.error (.stepFailed cause)) w₂
  | empty {q : Prepared} {w₁ w₂ : World σ} (hp : w.prepare e r sql = (.ok q, w₁)) (hq : Steppable q)
      (hs : w₁.step e r = (.ok none, w₂)) : Read e r sql w (.ok ⟨.absent, false⟩) w₂
  | short {q : Prepared} {cells : List Cell} {f : Fault} {w₁ w₂ : World σ}
      (hp : w.prepare e r sql = (.ok q, w₁)) (hq : Steppable q) (hs : w₁.step e r = (.ok (some cells), w₂))
      (hr : Reading.ofRow q.columns cells = .error f) : Read e r sql w (.error f) w₂
  | broken {q : Prepared} {cells : List Cell} {reading : Reading} {cause : String} {w₁ w₂ w₃ : World σ}
      (hp : w.prepare e r sql = (.ok q, w₁)) (hq : Steppable q) (hs : w₁.step e r = (.ok (some cells), w₂))
      (hr : Reading.ofRow q.columns cells = .ok reading) (ht : w₂.step e r = (.error cause, w₃)) :
      Read e r sql w (.error (.stepFailed cause)) w₃
  | row {q : Prepared} {cells : List Cell} {reading : Reading} {next : Option (List Cell)} {w₁ w₂ w₃ : World σ}
      (hp : w.prepare e r sql = (.ok q, w₁)) (hq : Steppable q) (hs : w₁.step e r = (.ok (some cells), w₂))
      (hr : Reading.ofRow q.columns cells = .ok reading) (ht : w₂.step e r = (.ok next, w₃)) :
      Read e r sql w (.ok ⟨reading, next.isSome⟩) w₃

theorem read (e : Engine σ) (r : Ref) (sql : String) (w : World σ) :
    Read e r sql w (readFirst e r sql w).1 (readFirst e r sql w).2 := by
  unfold readFirst
  split
  · next hp => exact .unprepared hp
  next q w₁ hp =>
  split
  · next hq => exact .writing hp (by simpa using hq)
  next hq =>
  have hq : q.readOnly = true := by simpa using hq
  split
  · next hn => exact .unbound hp hq hn
  next hn =>
  have hq : Steppable q := ⟨hq, Nat.eq_zero_of_not_pos hn⟩
  split
  · next hs => exact .unstepped hp hq hs
  · next hs => exact .empty hp hq hs
  next cells w₂ hs =>
  split
  · next hr => exact .short hp hq hs hr
  next reading hr =>
  split
  · next ht => exact .broken hp hq hs hr ht
  · next ht => exact .row hp hq hs hr ht

end Query

def Engine.listed : Engine (List (List Cell)) where
  openDatabase _ _ rows := (.ok (), rows)
  enforceForeignKeys _ rows := (.ok (), rows)
  close _ rows := rows
  prepare _ sql rows := (.ok ⟨0, "SELECT".toList.isPrefixOf sql.toList, ["a", "b"]⟩, rows)
  step _ rows := (.ok rows.head?, rows.tail)
  execute _ _ rows := (.ok 0, rows)

end ItemGateway
