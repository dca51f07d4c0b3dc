import ItemGateway.Toml.Section

/-!
The tree of a TOML document. A table is put together from the sections below its path, in their
order. One that is read as a value and begins like a moment ends with the section that begins it;
what stands below it and is left unread goes to the tables around it, under its key once more.
-/

namespace ItemGateway.Toml

def momentKey : String := "$__toml_private_datetime"

def isMomentTable : Entries → Bool
  | (k, _) :: _ => k = momentKey
  | [] => false

structure Draft where
  path : List String
  header : Option (List String) := none
  entries : Entries := []

namespace Draft

def add (d : Draft) (es : Entries) : Draft :=
  { d with entries := d.entries ++ es }

def meet? (d : Draft) (s : Section) : Option Draft :=
  match d.header with
  | none => some { d with header := some s.path }
  | some header =>
    if header = s.path then none
    else if s.path.length < header.length then some { d with header := some s.path }
    else some d

end Draft

namespace Section

def startsElement (path : List String) (s : Section) : Bool :=
  s.isArray && s.path = path

def firstBelow? (path : List String) (ss : List Section) :
    Option (List Section × Section × List Section) :=
  match ss.span (!path.isPrefixOf ·.path) with
  | (before, s :: after) => some (before, s, after)
  | (_, []) => none

mutual

/-- The number bounds the steps. -/
def table? (isValue : List String → Bool) :
    Nat → Draft → List Section → Option (Entries × List Section)
  | 0, _, _ => none
  | n + 1, d, unread =>
    if isValue d.path && isMomentTable d.entries then some (d.entries, unread)
    else
      match firstBelow? d.path unread with
      | none => some (d.entries, unread)
      | some (before, s, after) => do
        let d ← d.meet? s
        match s.path.drop d.path.length with
        | [] => if s.isArray then none else table? isValue n (d.add s.entries) (before ++ after)
        | key :: keys =>
          let path := d.path ++ [key]
          let (v, unread) ←
            if s.isArray && keys.isEmpty then
              (elements? isValue n path before (s :: after)).map (.map .array id)
            else (table? isValue n { path } unread).map (.map .table id)
          table? isValue n (d.add [(key, v)]) unread

def elements? (isValue : List String → Bool) :
    Nat → List String → List Section → List Section → Option (List Value × List Section)
  | 0, _, _, _ => none
  | _ + 1, _, left, [] => some ([], left)
  | n + 1, path, left, s :: later => do
    let (window, later) := later.span (!startsElement path ·)
    let (es, left) ←
      table? isValue n { path, header := some path, entries := s.entries } (left ++ window)
    let (vs, unread) ← elements? isValue n path left later
    some (.table es :: vs, unread)

end

def steps : List Section → Nat
  | [] => 2
  | s :: ss => 2 * s.path.length + 1 + steps ss

end Section

def document? (isValue : List String → Bool) (text : String) : Option Entries :=
  match Section.ofText? text with
  | some ss => (Section.table? isValue (Section.steps ss) { path := [] } ss).map Prod.fst
  | none => none

end ItemGateway.Toml
