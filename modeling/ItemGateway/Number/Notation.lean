import ItemGateway.Number.Shortest

namespace ItemGateway.Number

/-- An exponent is written below the power `plainFrom` of the leading digit, and from `plainBelow` on. -/
structure Layout where
  plainFrom : Option Int
  plainBelow : Option Int
  keepsPlace : Bool

namespace Layout

def cell : Layout := ⟨some (-4), some 16, true⟩

def setting : Layout := ⟨none, none, false⟩

def isPlain (l : Layout) (power : Int) : Bool :=
  l.plainFrom.all (· ≤ power) && l.plainBelow.all (power < ·)

def zeros (n : Int) : List Char :=
  List.replicate n.toNat '0'

def place (l : Layout) : List Char :=
  if l.keepsPlace then ['.', '0'] else []

def plain (l : Layout) (ds : List Char) (k : Int) : List Char :=
  let whole := ds.length + k
  if 0 ≤ k then ds ++ zeros k ++ l.place
  else if 0 < whole then ds.take whole.toNat ++ '.' :: ds.drop whole.toNat
  else '0' :: '.' :: zeros (-whole) ++ ds

def scientific (ds : List Char) (power : Int) : List Char :=
  ds.take 1 ++ (if ds.length = 1 then [] else '.' :: ds.drop 1) ++ 'e' :: (toString power).toList

def magnitude (l : Layout) (m : Nat) (e : Int) : List Char :=
  if m = 0 then '0' :: l.place
  else
    let (d, k) := Shortest.digits m e
    let ds := Nat.toDigits 10 d
    let power := ds.length - 1 + k
    if l.isPlain power then l.plain ds k else scientific ds power

def write (l : Layout) : Double → String
  | .nan => "NaN"
  | .infinite negative => if negative then "-inf" else "inf"
  | .finite negative m e => String.ofList ((if negative then ['-'] else []) ++ l.magnitude m e)

end Layout

end ItemGateway.Number
