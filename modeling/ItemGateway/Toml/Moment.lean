namespace ItemGateway.Toml.Moment

def digits? : Nat → Nat → List Char → Option (Nat × List Char)
  | 0, acc, s => some (acc, s)
  | n + 1, acc, c :: s =>
    if c.isDigit then digits? n (10 * acc + (c.toNat - '0'.toNat)) s else none
  | _ + 1, _, [] => none

def char? (c : Char) : List Char → Option (List Char)
  | d :: s => if d = c then some s else none
  | [] => none

def date? (s : List Char) : Option (List Char) := do
  let (_, s) ← digits? 4 0 s
  let s ← char? '-' s
  let (month, s) ← digits? 2 0 s
  let s ← char? '-' s
  let (day, s) ← digits? 2 0 s
  if 1 ≤ month ∧ month ≤ 12 ∧ 1 ≤ day ∧ day ≤ 31 then some s else none

def fraction? : List Char → Option (List Char)
  | '.' :: s => if (s.takeWhile Char.isDigit).isEmpty then none else some (s.dropWhile Char.isDigit)
  | s => some s

def time? (s : List Char) : Option (List Char) := do
  let (hour, s) ← digits? 2 0 s
  let s ← char? ':' s
  let (minute, s) ← digits? 2 0 s
  let s ← char? ':' s
  let (second, s) ← digits? 2 0 s
  let s ← fraction? s
  if hour ≤ 24 ∧ minute ≤ 59 ∧ second ≤ 59 then some s else none

def offset? : List Char → Option (List Char)
  | [] => some []
  | c :: s =>
    if c = 'Z' || c = 'z' then some s
    else if c = '+' || c = '-' then do
      let (_, s) ← digits? 2 0 s
      let s ← char? ':' s
      let (_, s) ← digits? 2 0 s
      some s
    else none

def isTimeMark (c : Char) : Bool :=
  c = 'T' || c = 't' || c = ' '

def rest? (s : List Char) : Option (List Char) :=
  if s[2]? = some ':' then time? s
  else do
    let s ← date? s
    match s with
    | c :: t => if isTimeMark c then (time? t).bind offset? else some (c :: t)
    | [] => some []

def isValid (text : String) : Bool :=
  rest? text.toList = some []

end ItemGateway.Toml.Moment
