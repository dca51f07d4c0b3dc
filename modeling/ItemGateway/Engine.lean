import ItemGateway.Reading
import ItemGateway.Server

/-!
The world outside: SQL engines and the drivers that open connections to them, as functions on a state
of their own, and a trail of everything that was asked of them.
-/

namespace ItemGateway

abbrev Ref := Nat

structure Prepared where
  parameters : Nat
  readOnly : Bool
  columns : List String

/-- Rows and executions are those of the statement prepared last on the connection of the link. -/
structure Engine (σ : Type) where
  openDatabase : Ref → Option String → σ → Except String Unit × σ
  enforceForeignKeys : Ref → σ → Except String Unit × σ
  close : Ref → σ → σ
  /-- Why closing would be reported as failed; the connection is given up all the same. -/
  closeRefusal? : Ref → σ → Option String := fun _ _ => none
  prepare : Ref → String → σ → Except String Prepared × σ
  step : Ref → σ → Except String (Option (List Cell)) × σ
  execute : Ref → Option String → σ → Except String Nat × σ

structure Driver (σ : Type) where
  id : String
  connect : Ref → Server → σ → Except Fault Unit × σ

variable {σ : Type}

def Engine.driver (e : Engine σ) : Driver σ where
  id := defaultDriver
  connect r s w :=
    match e.openDatabase r (Server.databasePath s.url) w with
    | (.error cause, w) => (.error (.openRefused s.url s.id cause), w)
    | (.ok (), w) =>
      match e.enforceForeignKeys r w with
      | (.error cause, w) => (.error ⟨.database, cause⟩, w)
      | (.ok (), w) => (.ok (), w)

inductive Event
  | opened (link : Ref) (driver : String) (success : Bool)
  | closed (link : Ref)
  | prepared (link : Ref) (sql : String)
  | stepped (link : Ref)
  | executed (link : Ref) (bound : Option String)
  deriving DecidableEq, Repr

/-- The trail has the latest event first. -/
structure World (σ : Type) where
  state : σ
  trail : List Event := []

namespace World

def connect (d : Driver σ) (r : Ref) (s : Server) (w : World σ) : Except Fault Unit × World σ :=
  let a := d.connect r s w.state
  (a.1, ⟨a.2, .opened r d.id a.1.isOk :: w.trail⟩)

def close (e : Engine σ) (r : Ref) (w : World σ) : Option String × World σ :=
  (e.closeRefusal? r w.state, ⟨e.close r w.state, .closed r :: w.trail⟩)

def prepare (e : Engine σ) (r : Ref) (sql : String) (w : World σ) :
    Except String Prepared × World σ :=
  let a := e.prepare r sql w.state
  (a.1, ⟨a.2, .prepared r sql :: w.trail⟩)

def step (e : Engine σ) (r : Ref) (w : World σ) :
    Except String (Option (List Cell)) × World σ :=
  let a := e.step r w.state
  (a.1, ⟨a.2, .stepped r :: w.trail⟩)

def execute (e : Engine σ) (r : Ref) (bound : Option String) (w : World σ) :
    Except String Nat × World σ :=
  let a := e.execute r bound w.state
  (a.1, ⟨a.2, .executed r bound :: w.trail⟩)

def attempts (driver : String) (w : World σ) : Nat :=
  w.trail.countP fun
    | .opened _ id _ => id = driver
    | _ => false

end World

end ItemGateway
