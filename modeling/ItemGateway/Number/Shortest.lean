import ItemGateway.Number.Double

namespace ItemGateway.Number.Shortest

structure Interval where
  low : Nat
  mid : Nat
  high : Nat
  den : Nat
  closed : Bool

/-- Half a step lies on either side, but below a power of two the steps are half as long. -/
def Interval.around (m : Nat) (e : Int) : Interval :=
  let below := if m = Double.firstNormal ∧ Double.leastExponent < e then 1 else 2
  let scale := Double.scaleUp (e - 2) 2
  ⟨scale (4 * m - below), scale (4 * m), scale (4 * m + 2), Double.scaleUp (2 - e) 2 1, m % 2 = 0⟩

def Interval.contains (i : Interval) (d : Nat) (k : Int) : Bool :=
  let n := Double.scaleUp k 10 d * i.den
  let s := Double.scaleUp (-k) 10 1
  if i.closed then i.low * s ≤ n && n ≤ i.high * s else i.low * s < n && n < i.high * s

def Interval.floor (i : Interval) (k : Int) : Nat :=
  Double.scaleUp (-k) 10 i.mid / Double.scaleUp k 10 i.den

def Interval.nearerAbove (i : Interval) (d : Nat) (k : Int) : Bool :=
  Double.scaleUp k 10 (2 * d + 1) * i.den ≤ 2 * Double.scaleUp (-k) 10 i.mid

def Interval.pick (i : Interval) (k : Int) : Option Nat :=
  let d := i.floor k
  match i.contains d k, i.contains (d + 1) k with
  | true, true => some (if i.nearerAbove d k then d + 1 else d)
  | true, false => some d
  | false, true => some (d + 1)
  | false, false => none

def Interval.search (i : Interval) : Nat → Int → Nat × Int
  | 0, k => (i.floor k, k)
  | n + 1, k =>
    match i.pick k with
    | some d => (d, k)
    | none => i.search n (k - 1)

def Interval.magnitude (i : Interval) : Int :=
  let k := ((i.mid.log2 : Int) - i.den.log2 - 1) * 30103 / 100000
  if 0 < i.floor (k + 1) then k + 1 else if 0 < i.floor k then k else k - 1

def dropZeros : Nat → Nat → Int → Nat × Int
  | 0, d, k => (d, k)
  | n + 1, d, k => if d % 10 = 0 then dropZeros n (d / 10) (k + 1) else (d, k)

def digits (m : Nat) (e : Int) : Nat × Int :=
  let i := Interval.around m e
  let (d, k) := i.search 17 i.magnitude
  dropZeros 17 d k

end ItemGateway.Number.Shortest
