namespace ItemGateway.Number

/-- A finite number has the magnitude `significand * 2 ^ exponent`. -/
inductive Double
  | nan
  | infinite (negative : Bool)
  | finite (negative : Bool) (significand : Nat) (exponent : Int)
  deriving DecidableEq, Repr

namespace Double

def leastExponent : Int := -1074

def greatestExponent : Int := 971

def firstNormal : Nat := Nat.pow 2 52

def ofBits (bits : Nat) : Double :=
  let negative := bits / Nat.pow 2 63 % 2 = 1
  let e : Nat := bits / Nat.pow 2 52 % Nat.pow 2 11
  let f : Nat := bits % Nat.pow 2 52
  if e = 2047 then if f = 0 then .infinite negative else .nan
  else if e = 0 then .finite negative f leastExponent
  else .finite negative (firstNormal + f) ((e : Int) - 1075)

def roundQuotient (num den : Nat) : Nat :=
  let q := num / den
  let r := num % den
  if 2 * r < den then q else if den < 2 * r then q + 1 else q + q % 2

def scaleUp (e : Int) (b n : Nat) : Nat :=
  n * Nat.pow b e.toNat

def exponentFor (num den : Nat) : Int :=
  let e := (num.log2 : Int) - den.log2 - 52
  let e := if scaleUp (-e) 2 num < firstNormal * scaleUp e 2 den then e - 1 else e
  max e leastExponent

def ofQuotient (negative : Bool) (num den : Nat) : Double :=
  let e := exponentFor num den
  let m := roundQuotient (scaleUp (-e) 2 num) (scaleUp e 2 den)
  let (m, e) := if m = 2 * firstNormal then (firstNormal, e + 1) else (m, e)
  if greatestExponent < e then .infinite negative else .finite negative m e

def ofDecimal (negative : Bool) (digits : List Nat) (scale : Int) : Double :=
  let n := digits.foldl (fun n d => 10 * n + d) 0
  let top := (digits.dropWhile (· = 0)).length + scale
  if n = 0 || top < -400 then .finite negative 0 leastExponent
  else if 400 < top then .infinite negative
  else ofQuotient negative (scaleUp scale 10 n) (scaleUp (-scale) 10 1)

def isFinite : Double → Bool
  | .finite .. => true
  | _ => false

end Double

end ItemGateway.Number
