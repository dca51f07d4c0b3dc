import ItemGateway.Toml.Value

namespace ItemGateway.Toml

structure Section where
  path : List String
  isArray : Bool := false
  entries : Entries := []

namespace Section

def endLine? (ts : List Token) : Option (List Token) :=
  match Token.skipBlank ts with
  | [] => some []
  | .newline :: ts => some ts
  | .comment :: .newline :: ts => some ts
  | [.comment] => some []
  | _ => none

def header? (ts : List Token) : Option (Section × List Token) := do
  let inner := Token.leftBracket.eat? ts
  let (path, ts) ← Value.keys? (Token.skipBlank (inner.getD ts))
  let ts ← Token.rightBracket.eat? ts
  let ts ← if inner.isSome then Token.rightBracket.eat? ts else some ts
  let ts ← endLine? ts
  some ({ path, isArray := inner.isSome }, ts)

def entry? (ts : List Token) : Option ((List String × Value) × List Token) := do
  let (keys, ts) ← Value.keys? ts
  let ts ← Token.equals.eat? ts
  let (v, ts) ← Value.ofTokens? (Token.skipBlank ts)
  let ts ← endLine? ts
  some ((keys, v), ts)

def close (s : Section) (rest : List Section) : List Section :=
  if s.path.isEmpty && s.entries.isEmpty then rest else s :: rest

def collect? : Nat → Section → List Token → Option (List Section)
  | _, current, [] => some (current.close [])
  | 0, _, _ => none
  | n + 1, current, .blank _ :: ts => collect? n current ts
  | n + 1, current, .newline :: ts => collect? n current ts
  | n + 1, current, .comment :: ts => collect? n current ts
  | n + 1, current, .leftBracket :: ts =>
    match header? ts with
    | some (s, ts) => (collect? n s ts).map current.close
    | none => none
  | n + 1, current, ts =>
    match entry? ts with
    | none => none
    | some ((keys, v), ts) =>
      match addEntry keys v current.entries with
      | some entries => collect? n { current with entries } ts
      | none => none

def ofText? (text : String) : Option (List Section) :=
  match Token.ofText? text with
  | some ts => collect? ts.length { path := [] } ts
  | none => none

end Section

end ItemGateway.Toml
