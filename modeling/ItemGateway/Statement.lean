import ItemGateway.Log
import ItemGateway.Payload

namespace ItemGateway

namespace Template

/-- The rest after a leading `value=` and one more character of the same line. -/
def fragment? (t : List Char) : Option (List Char) :=
  match "value=".toList.isPrefixOf? t with
  | some (c :: rest) => if c = '\n' then none else some rest
  | _ => none

theorem length_of_isPrefixOf? {p t rest : List Char} (h : p.isPrefixOf? t = some rest) :
    t.length = p.length + rest.length := by
  induction p generalizing t with
  | nil =>
    obtain rfl := Option.some.inj h
    simp
  | cons a p ih =>
    cases t with
    | nil => nomatch h
    | cons b t =>
      change (if a == b then p.isPrefixOf? t else none) = some rest at h
      split at h
      · simp [ih h]; omega
      · simp at h

theorem length_lt_of_fragment? {t rest : List Char} (h : fragment? t = some rest) :
    rest.length < t.length := by
  unfold fragment? at h
  split at h
  · next hp =>
    have := length_of_isPrefixOf? hp
    split at h <;> simp_all
    omega
  · simp at h

def fillFragments (value : List Char) (t : List Char) : List Char :=
  match _h : fragment? t with
  | some rest => "value=".toList ++ value ++ fillFragments value rest
  | none =>
    match t with
    | [] => []
    | c :: rest => c :: fillFragments value rest
termination_by t.length
decreasing_by
  · exact length_lt_of_fragment? ‹_›
  · simp

def fillMarks : List (List Char) → List Char → List Char
  | [], t => t
  | _, [] => []
  | x :: xs, c :: t => if c = '?' then x ++ fillMarks xs t else c :: fillMarks (x :: xs) t

def fillUpdate (template value : String) : String :=
  String.ofList (fillFragments value.toList template.toList)

def fillInsert (template value time : String) : String :=
  String.ofList (fillMarks [value.toList, '\'' :: (time.toList ++ ['\''])] template.toList)

end Template

inductive Statement
  | filled (sql : String)
  | bound (sql : String) (value : String)
  deriving DecidableEq, Repr

namespace Statement

def sql : Statement → String
  | filled sql => sql
  | bound sql _ => sql

def ofUpdate (template : String) (p : Payload) : Statement :=
  match p.field? Payload.valueKey with
  | some value => filled (Template.fillUpdate template value)
  | none => bound template p.raw

def ofInsert (template : String) (p : Payload) : Statement :=
  match p.field? Payload.valueKey, p.field? Payload.timeKey with
  | some value, some time => filled (Template.fillInsert template value time)
  | _, _ => bound template p.raw

def lackLog (p : Payload) (keys : List String) : List LogLine :=
  match keys.find? fun key => p.isNamed && (p.field? key).isNone with
  | none => []
  | some key => [⟨.warn, (Fault.fieldMissing p.raw key).message ++ "; binding it as a single value"⟩]

end Statement

end ItemGateway
