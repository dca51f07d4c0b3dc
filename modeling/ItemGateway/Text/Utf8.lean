/-!
Reading bytes as UTF-8. Bytes that are no encoded character become the replacement character, one
for each longest run that could have begun a character.
-/

namespace ItemGateway.Text

def replacement : Char := '\ufffd'

structure Pending where
  rest : Nat
  low : Nat
  high : Nat
  bits : Nat

inductive Scan
  | char (c : Char)
  | more (p : Pending)
  | broken

/-- The first byte of a character tells its length, and rules out long forms and surrogates. -/
def lead (b : Nat) : Scan :=
  if b < 0x80 then .char (Char.ofNat b)
  else if b < 0xC2 then .broken
  else if b < 0xE0 then .more ⟨1, 0x80, 0xBF, b - 0xC0⟩
  else if b = 0xE0 then .more ⟨2, 0xA0, 0xBF, 0⟩
  else if b = 0xED then .more ⟨2, 0x80, 0x9F, 0x0D⟩
  else if b < 0xF0 then .more ⟨2, 0x80, 0xBF, b - 0xE0⟩
  else if b = 0xF0 then .more ⟨3, 0x90, 0xBF, 0⟩
  else if b < 0xF4 then .more ⟨3, 0x80, 0xBF, b - 0xF0⟩
  else if b = 0xF4 then .more ⟨3, 0x80, 0x8F, 4⟩
  else .broken

def Pending.next (p : Pending) (b : Nat) : Scan :=
  if b < p.low || p.high < b then .broken
  else if p.rest = 1 then .char (Char.ofNat (p.bits * 64 + (b - 0x80)))
  else .more ⟨p.rest - 1, 0x80, 0xBF, p.bits * 64 + (b - 0x80)⟩

def Scan.emit : Scan → List Char × Option Pending
  | .char c => ([c], none)
  | .more p => ([], some p)
  | .broken => ([replacement], none)

def advance : Option Pending → Nat → List Char × Option Pending
  | none, b => (lead b).emit
  | some p, b =>
    match p.next b with
    | .broken => (replacement :: (lead b).emit.1, (lead b).emit.2)
    | s => s.emit

def decodeFrom : Option Pending → List UInt8 → List Char
  | none, [] => []
  | some _, [] => [replacement]
  | s, b :: bs => (advance s b.toNat).1 ++ decodeFrom (advance s b.toNat).2 bs

def decodeLossy (bytes : List UInt8) : String :=
  String.ofList (decodeFrom none bytes)

end ItemGateway.Text
