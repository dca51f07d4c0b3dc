import ItemGateway.Text.Blank
import ItemGateway.Fault

namespace ItemGateway

inductive Direction
  | select
  | update
  | insert
  deriving DecidableEq, Repr

def Direction.mark : Direction → List Char
  | select => ['<']
  | update => ['>']
  | insert => ['>', '>']

structure Binding where
  select : Option String := none
  update : Option String := none
  insert : Option String := none
  deriving DecidableEq, Repr

namespace Binding

def isSeparator (c : Char) : Bool :=
  Text.isBlank c || c = ','

def opening? : List Char → Option (Direction × List Char)
  | '<' :: '[' :: s => some (.select, s)
  | '>' :: '>' :: '[' :: s => some (.insert, s)
  | '>' :: '[' :: s => some (.update, s)
  | _ => none

def endsClosed (s : List Char) : Bool :=
  (s.reverse.dropWhile isSeparator).head? = some ']'

def isValidText (s : List Char) : Bool :=
  match opening? s with
  | some (_, rest) => endsClosed rest
  | none => false

/-- An address ends at the first closing bracket before a separator or the end. -/
def address? : List Char → Option (List Char × List Char)
  | [] => none
  | [c] => if c = ']' then some ([], []) else none
  | c :: d :: s =>
    if c = ']' && isSeparator d then some ([], s)
    else (address? (d :: s)).map fun (a, rest) => (c :: a, rest)

def leading? (s : List Char) : Option (Direction × List Char × List Char) :=
  match opening? s with
  | some (dir, rest) => (address? rest).map fun (a, rest) => (dir, a, rest)
  | none => none

theorem length_lt_of_opening? {s rest : List Char} {dir : Direction}
    (h : opening? s = some (dir, rest)) : rest.length < s.length := by
  unfold opening? at h
  split at h
  case h_4 => simp at h
  all_goals
    obtain ⟨-, rfl⟩ := Prod.mk.inj (Option.some.inj h)
    simp only [List.length_cons]
    omega

theorem length_le_of_address? {s a rest : List Char} (h : address? s = some (a, rest)) :
    rest.length ≤ s.length := by
  fun_induction address? s generalizing a with
  | case1 => simp at h
  | case2 => simp_all
  | case3 => simp at h
  | case4 => simp_all; omega
  | case5 c d s hc ih =>
    obtain ⟨⟨b, r⟩, hs, he⟩ := Option.map_eq_some_iff.1 h
    obtain ⟨-, rfl⟩ := Prod.mk.inj he
    have := ih hs
    simp only [List.length_cons] at this ⊢
    omega

theorem length_lt_of_leading? {s a rest : List Char} {dir : Direction}
    (h : leading? s = some (dir, a, rest)) : rest.length < s.length := by
  unfold leading? at h
  split at h
  · next ho =>
    simp only [Option.map_eq_some_iff, Prod.mk.injEq, Prod.exists] at h
    obtain ⟨b, r, hs, -, -, rfl⟩ := h
    exact Nat.lt_of_le_of_lt (length_le_of_address? hs) (length_lt_of_opening? ho)
  · simp at h

def entries (s : List Char) : List (Direction × List Char) :=
  match _h : leading? s with
  | some (dir, a, rest) => (dir, a) :: entries rest
  | none =>
    match s with
    | [] => []
    | _ :: rest => entries rest
termination_by s.length
decreasing_by
  · exact length_lt_of_leading? ‹_›
  · simp

def put (b : Binding) (dir : Direction) (address : String) : Binding :=
  match dir with
  | .select => { b with select := some address }
  | .update => { b with update := some address }
  | .insert => { b with insert := some address }

def ofEntries (es : List (Direction × List Char)) : Binding :=
  es.foldl (fun b e => b.put e.1 (String.ofList e.2)) {}

def parse (text : String) : Except Fault Binding :=
  let s := Text.trim text.toList
  if isValidText s then .ok (ofEntries (entries s))
  else .error (.invalidBinding (String.ofList s))

def address (b : Binding) : Direction → Option String
  | .select => b.select
  | .update => b.update
  | .insert => b.insert

def isWritable (b : Binding) : Bool :=
  b.update.isSome || b.insert.isSome

def renderEntry (dir : Direction) (address : List Char) : List Char :=
  dir.mark ++ '[' :: (address ++ [']'])

def render (b : Binding) : String :=
  String.ofList (List.intercalate [' '] ([Direction.select, .update, .insert].filterMap fun dir =>
    (b.address dir).map fun a => renderEntry dir a.toList))

end Binding

end ItemGateway
