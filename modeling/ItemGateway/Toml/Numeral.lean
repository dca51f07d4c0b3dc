import ItemGateway.Number.Double

namespace ItemGateway.Toml.Numeral

def digitValue? (base : Nat) (c : Char) : Option Nat :=
  let d :=
    if c.isDigit then c.toNat - '0'.toNat
    else if 'a' ≤ c ∧ c ≤ 'f' then c.toNat - 'a'.toNat + 10
    else if 'A' ≤ c ∧ c ≤ 'F' then c.toNat - 'A'.toNat + 10
    else base
  if d < base then some d else none

inductive Progress
  | start
  | digit
  | loneZero
  | underscore (afterZero : Bool)

def run? (base : Nat) (leadingZeros : Bool) : Progress → List Char → Option (List Nat × List Char)
  | .digit, [] | .loneZero, [] => some ([], [])
  | .start, [] | .underscore _, [] => none
  | p, c :: s =>
    match digitValue? base c, p with
    | some d, .start =>
      let p := if d = 0 && !leadingZeros then .loneZero else .digit
      (run? base leadingZeros p s).map fun (ds, rest) => (d :: ds, rest)
    | some _, .loneZero | some _, .underscore true => none
    | some d, .digit | some d, .underscore false =>
      (run? base leadingZeros .digit s).map fun (ds, rest) => (d :: ds, rest)
    | none, .start | none, .underscore _ => none
    | none, .digit =>
      if c = '_' then run? base leadingZeros (.underscore false) s else some ([], c :: s)
    | none, .loneZero =>
      if c = '_' then run? base leadingZeros (.underscore true) s else some ([], c :: s)

def digits? (base : Nat) (leadingZeros : Bool) (s : List Char) : Option (List Nat × List Char) :=
  run? base leadingZeros .start s

def sign : List Char → Bool × List Char
  | '-' :: s => (true, s)
  | '+' :: s => (false, s)
  | s => (false, s)

def value (base : Nat) (ds : List Nat) : Nat :=
  ds.foldl (fun n d => base * n + d) 0

def inRange? (n : Int) : Option Int :=
  if -(Nat.pow 2 63 : Nat) ≤ n ∧ n < (Nat.pow 2 63 : Nat) then some n else none

def integer? (base : Nat) (s : List Char) : Option Int :=
  let (negative, s) := if base = 10 then sign s else (false, s)
  match digits? base (base ≠ 10) s with
  | some (ds, []) =>
    let n : Int := value base ds
    inRange? (if negative then -n else n)
  | _ => none

inductive Tail
  | none
  | exponent (negative : Bool) (digits : List Nat)
  | cutOff

def tail? : List Char → Option Tail
  | [] => some .none
  | c :: s =>
    if c ≠ 'e' && c ≠ 'E' then none
    else if s.isEmpty then some .cutOff
    else
      let (negative, s) := sign s
      match digits? 10 true s with
      | some (ds, []) => some (.exponent negative ds)
      | _ => none

def float? (negative : Bool) (whole fraction : List Nat) (exponent : Int) : Option Number.Double :=
  let x := Number.Double.ofDecimal negative (whole ++ fraction) (exponent - fraction.length)
  if x.isFinite then some x else none

end ItemGateway.Toml.Numeral
