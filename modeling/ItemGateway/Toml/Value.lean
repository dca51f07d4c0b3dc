import ItemGateway.Toml.Moment
import ItemGateway.Toml.Numeral
import ItemGateway.Toml.Token

namespace ItemGateway.Toml

inductive Value
  | text (s : String)
  | integer (n : Int)
  | float (x : Number.Double)
  | boolean (b : Bool)
  | moment (s : String)
  | array (elements : List Value)
  | table (entries : List (String × Value))
  /-- A table that dotted keys made, and that more of them may extend. -/
  | dotted (entries : List (String × Value))

abbrev Entries := List (String × Value)

/-! ### Tables -/

def alterEntry (key : String) (f : Option Value → Option Value) : Entries → Option Entries
  | [] => (f none).map fun v => [(key, v)]
  | (k, v) :: es =>
    if k = key then (f (some v)).map fun v => (k, v) :: es
    else (alterEntry key f es).map ((k, v) :: ·)

def addEntry : List String → Value → Entries → Option Entries
  | [], _, _ => none
  | [key], v, es => some (es ++ [(key, v)])
  | key :: keys, v, es =>
    alterEntry key (fun
      | none => (addEntry keys v []).map .dotted
      | some (.dotted inner) => (addEntry keys v inner).map .dotted
      | some _ => none) es

/-! ### Scalars -/

namespace Value

abbrev Result := Option (Value × List Token)

def floatFrom (negative : Bool) (whole fraction : List Nat) (tail : List Char)
    (ts : List Token) : Result :=
  match Numeral.tail? tail with
  | none => none
  | some .none => finish false [] ts
  | some (.exponent down ds) => finish down ds ts
  | some .cutOff =>
    match (Token.plus.eat? ts).getD ts with
    | .bare s :: ts =>
      match Numeral.digits? 10 true s.toList with
      | some (ds, []) => finish false ds ts
      | _ => none
    | _ => none
where
  finish (down : Bool) (ds : List Nat) (ts : List Token) : Result :=
    let e : Int := Numeral.value 10 ds
    (Numeral.float? negative whole fraction (if down then -e else e)).map (.float ·, ts)

def floatOf (s : List Char) (ts : List Token) : Result :=
  let (negative, s) := Numeral.sign s
  match Numeral.digits? 10 false s with
  | some (whole, tail) => floatFrom negative whole [] tail ts
  | none => none

def floatWithFraction (s fraction : List Char) (ts : List Token) : Result :=
  let (negative, s) := Numeral.sign s
  match Numeral.digits? 10 false s, Numeral.digits? 10 true fraction with
  | some (whole, []), some (fraction, tail) => floatFrom negative whole fraction tail ts
  | _, _ => none

def ofWord? : String → Option Value
  | "inf" => some (.float (.infinite false))
  | "-inf" => some (.float (.infinite true))
  | "nan" | "-nan" => some (.float .nan)
  | _ => none

def decimal (s : String) (ts : List Token) : Result :=
  match ts with
  | .period :: .bare fraction :: ts => floatWithFraction s.toList fraction.toList ts
  | .period :: _ => none
  | ts =>
    match ofWord? s with
    | some v => some (v, ts)
    | none => (Numeral.integer? 10 s.toList).map (.integer ·, ts)

def number (s : String) (ts : List Token) : Result :=
  match s.toList with
  | '0' :: 'x' :: ds => (Numeral.integer? 16 ds).map (.integer ·, ts)
  | '0' :: 'o' :: ds => (Numeral.integer? 8 ds).map (.integer ·, ts)
  | '0' :: 'b' :: ds => (Numeral.integer? 2 ds).map (.integer ·, ts)
  | cs => if cs.contains 'e' || cs.contains 'E' then floatOf cs ts else decimal s ts

structure Joint where
  mark : Token
  sign : String
  optional : Bool

def join (text : String) : List Joint → List Token → Option (String × List Token)
  | [], ts => some (text, ts)
  | j :: js, ts =>
    match j.mark.eat? ts with
    | some (.bare s :: ts) => join (text ++ j.sign ++ s) js ts
    | some _ => none
    | none => if j.optional then join text js ts else none

def afterMinutes : List Joint :=
  [⟨.colon, ":", false⟩, ⟨.period, ".", true⟩, ⟨.plus, "+", true⟩, ⟨.colon, ":", true⟩]

def joinTime (s : String) : List Token → String × List Token
  | .blank " " :: .bare t :: ts => (s ++ " " ++ t, ts)
  | ts => (s, ts)

def momentFrom (s : String) (colon : Bool) (ts : List Token) : Result :=
  let (s, ts) := joinTime s ts
  let r :=
    if colon then
      match ts with
      | .bare minutes :: ts => join (s ++ minutes) afterMinutes ts
      | _ => none
    else if ts.head? = some .colon then join s (⟨.colon, ":", false⟩ :: afterMinutes) ts
    else some (s, ts)
  r.map fun (s, ts) => (.moment s, ts)

def looksLikeMoment (s : List Char) : Bool :=
  s.contains 'T' || s.contains 't' ||
    (s.tail.contains '-' && !hasPair 'e' '-' s && !hasPair 'E' '-' s)
where
  hasPair (a b : Char) : List Char → Bool
    | c :: d :: s => (c = a && d = b) || hasPair a b (d :: s)
    | _ => false

def numberOrMoment (s : String) (ts : List Token) : Result :=
  if looksLikeMoment s.toList then momentFrom s false ts
  else
    match ts with
    | .colon :: ts => momentFrom (s ++ ":") true ts
    | ts => number s ts

def ofBare (s : String) (ts : List Token) : Result :=
  if s = "true" then some (.boolean true, ts)
  else if s = "false" then some (.boolean false, ts)
  else if s = "inf" || s = "nan" then numberOrMoment s ts
  else
    match s.toList with
    | c :: _ => if c = '-' || c.isDigit then numberOrMoment s ts else none
    | [] => none

/-! ### Keys -/

def key? : List Token → Option (String × List Token)
  | .bare s :: ts => some (s, ts)
  | .quoted s false :: ts => some (s, ts)
  | _ => none

theorem length_lt_of_key? {ts rest : List Token} {s : String} (h : key? ts = some (s, rest)) :
    rest.length < ts.length := by
  unfold key? at h
  split at h <;> simp_all

def keys? (ts : List Token) : Option (List String × List Token) :=
  match _h : key? ts with
  | none => none
  | some (k, rest) =>
    match _hp : Token.period.eat? (Token.skipBlank rest) with
    | some rest => (keys? (Token.skipBlank rest)).map fun (ks, rest) => (k :: ks, rest)
    | none => some ([k], Token.skipBlank rest)
termination_by ts.length
decreasing_by
  have h₁ := length_lt_of_key? ‹_›
  have h₂ := Token.length_lt_of_eat? ‹_›
  have h₃ := Token.length_skipBlank_le
  exact Nat.lt_of_le_of_lt (h₃ _) (Nat.lt_of_lt_of_le h₂ (Nat.le_trans (h₃ _) (Nat.le_of_lt h₁)))

/-! ### Arrays and tables -/

def skipGap : List Token → List Token
  | .blank _ :: ts => skipGap ts
  | .newline :: ts => skipGap ts
  | .comment :: ts => skipGap ts
  | ts => ts

mutual

/-- The first argument bounds the calls; twice the number of tokens is enough. -/
def read? : Nat → List Token → Result
  | _ + 1, .quoted s _ :: ts => some (.text s, ts)
  | _ + 1, .bare s :: ts => ofBare s ts
  | _ + 1, .plus :: .bare s :: ts => number s ts
  | n + 1, .leftBracket :: ts => (elements? n (skipGap ts)).map fun (vs, ts) => (.array vs, ts)
  | n + 1, .leftBrace :: ts =>
    match Token.rightBrace.eat? (Token.skipBlank ts) with
    | some ts => some (.table [], ts)
    | none => (fields? n [] (Token.skipBlank ts)).map fun (es, ts) => (.table es, ts)
  | _, _ => none

def elements? : Nat → List Token → Option (List Value × List Token)
  | 0, _ => none
  | n + 1, ts =>
    match Token.rightBracket.eat? ts with
    | some ts => some ([], ts)
    | none =>
      match read? n ts with
      | none => none
      | some (v, ts) =>
        match Token.comma.eat? (skipGap ts) with
        | some ts => (elements? n (skipGap ts)).map fun (vs, ts) => (v :: vs, ts)
        | none => (Token.rightBracket.eat? (skipGap ts)).map ([v], ·)

def fields? : Nat → Entries → List Token → Option (Entries × List Token)
  | 0, _, _ => none
  | n + 1, es, ts => do
    let (keys, ts) ← keys? ts
    let ts ← Token.equals.eat? ts
    let (v, ts) ← read? n (Token.skipBlank ts)
    let es ← addEntry keys v es
    match Token.skipBlank ts with
    | .rightBrace :: ts => some (es, ts)
    | .comma :: ts => fields? n es (Token.skipBlank ts)
    | _ => none

end

def ofTokens? (ts : List Token) : Result :=
  read? (2 * ts.length) ts

end Value

end ItemGateway.Toml
