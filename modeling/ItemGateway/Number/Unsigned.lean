namespace ItemGateway.Number

inductive UnsignedFault
  | empty
  | invalidDigit
  | tooLarge
  deriving DecidableEq

def UnsignedFault.message : UnsignedFault → String
  | .empty => "cannot parse integer from empty string"
  | .invalidDigit => "invalid digit found in string"
  | .tooLarge => "number too large to fit in target type"

def digitValue (c : Char) : Nat :=
  c.toNat - '0'.toNat

def readDigits (bound : Nat) : Nat → List Char → Except UnsignedFault Nat
  | n, [] => .ok n
  | n, c :: cs =>
    if !c.isDigit then .error .invalidDigit
    else if bound ≤ 10 * n + digitValue c then .error .tooLarge
    else readDigits bound (10 * n + digitValue c) cs

def readUnsigned : List Char → Except UnsignedFault Nat
  | [] => .error .empty
  | ['+'] => .error .invalidDigit
  | '+' :: cs => readDigits (Nat.pow 2 64) 0 cs
  | cs => readDigits (Nat.pow 2 64) 0 cs

end ItemGateway.Number
