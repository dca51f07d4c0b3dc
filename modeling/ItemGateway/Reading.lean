import ItemGateway.Fault
import ItemGateway.Number.Notation
import ItemGateway.Text.Utf8

namespace ItemGateway

inductive Cell
  | null
  | integer (n : Int)
  | real (x : Number.Double)
  | text (bytes : List UInt8)
  | blob (size : Nat)

def Cell.display : Cell → String
  | null => "NULL"
  | integer n => toString n
  | real x => Number.Layout.cell.write x
  | text bytes => Text.decodeLossy bytes
  | blob size => "<BLOB: " ++ toString size ++ " bytes>"

inductive Reading
  | absent
  | scalar (text : String)
  | row (cells : List (String × String))
  deriving DecidableEq, Repr

namespace Reading

def nameCells : Nat → List String → List Cell → Except Fault (List (String × String))
  | _, [], _ => .ok []
  | index, _ :: _, [] => .error (.noColumn index)
  | index, name :: names, c :: cells =>
    (nameCells (index + 1) names cells).map ((name, c.display) :: ·)

/-- A lone cell that is null counts as no value. -/
def ofRow : List String → List Cell → Except Fault Reading
  | [_], [] => .error (.noColumn 0)
  | [_], .null :: _ => .ok .absent
  | [_], c :: _ => .ok (.scalar c.display)
  | names, cells => (nameCells 0 names cells).map .row

def field (cell : String × String) : String :=
  cell.1 ++ "=" ++ cell.2

def value? : Reading → Option String
  | absent => none
  | scalar text => some text
  | row cells => some (String.intercalate "&" (cells.map field))

end Reading

structure Selection where
  reading : Reading
  more : Bool
  deriving DecidableEq, Repr

end ItemGateway
