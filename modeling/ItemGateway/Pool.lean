import ItemGateway.Link
import Std.Data.TreeMap.Basic

/-!
The pool of servers. Every link ever made keeps its place, so a reference stays good after its id is
given to another link; the names say which links are registered now.
-/

namespace ItemGateway

structure Pool (σ : Type) where
  engine : Engine σ
  drivers : Std.TreeMap String (Driver σ)
  links : Array (Link σ)
  names : Std.TreeMap String Ref
  world : World σ

inductive Standing
  | opened
  | skipped
  | failed (f : Fault)
  deriving DecidableEq, Repr

abbrev Report := List (String × Standing)

namespace Report

def opened (r : Report) : List String :=
  r.filterMap fun (id, s) => if s = .opened then some id else none

def skipped (r : Report) : List String :=
  r.filterMap fun (id, s) => if s = .skipped then some id else none

def failed (r : Report) : List (String × Fault) :=
  r.filterMap fun
    | (id, .failed f) => some (id, f)
    | _ => none

end Report

namespace Pool

variable {σ α : Type}

def new (engine : Engine σ) (drivers : List (Driver σ)) (state : σ) : Pool σ where
  engine
  drivers := (engine.driver :: drivers).foldl (fun m d => m.insert d.id d) ∅
  links := #[]
  names := ∅
  world := { state }

def link (p : Pool σ) (r : Ref) : Link σ :=
  p.links.getD r .vacant

def on (p : Pool σ) (r : Ref) (f : Link σ → World σ → α × Link σ × World σ) : α × Pool σ :=
  let a := f (p.link r) p.world
  (a.1, { p with links := p.links.setIfInBounds r a.2.1, world := a.2.2 })

def acquire (p : Pool σ) (r : Ref) : Except Fault Unit × Pool σ :=
  p.on r (Link.acquire r)

def acquireLog (p : Pool σ) (r : Ref) : List LogLine :=
  (p.link r).acquireLog r p.world

def use (p : Pool σ) (r : Ref) (f : World σ → Except Fault α × World σ) :
    Except Fault α × Pool σ :=
  p.on r (Link.use r f)

def release (p : Pool σ) (r : Ref) : Except Fault Bool × Pool σ :=
  p.on r (Link.release p.engine r)

def abandon (p : Pool σ) (r : Ref) (f : World σ → World σ := id) : Except Fault Unit × Pool σ :=
  p.on r (Link.abandon r f)

def enroll (p : Pool σ) (s : Server) : Pool σ :=
  { p with
    links := p.links.push { server := s, driver := p.drivers[s.driver]? }
    names := p.names.insert s.id p.links.size }

def enrollLog (p : Pool σ) (s : Server) : List LogLine :=
  match p.drivers[s.driver]? with
  | some _ => []
  | none => [⟨.warn, "no driver registered as '" ++ s.driver ++ "' for " ++ s.display⟩]

def retire (p : Pool σ) (r : Ref) : Pool σ :=
  (p.release r).2

def retireLog (p : Pool σ) (r : Ref) : List LogLine :=
  (Fault.ofResult (p.release r).1).map (.ofFault .warn)

def register (p : Pool σ) (s : Server) : Pool σ :=
  match p.names[s.id]? with
  | none => p.enroll s
  | some old => (p.enroll s).retire old

def registerLog (p : Pool σ) (s : Server) : List LogLine :=
  match p.names[s.id]? with
  | none => p.enrollLog s
  | some old => p.enrollLog s ++ (p.enroll s).retireLog old

def replaceIn (order : List Ref) (p : Pool σ) (servers : List Server) : Pool σ :=
  order.foldl retire (servers.foldl enroll { p with names := ∅ })

def replaceLog (order : List Ref) (p : Pool σ) (servers : List Server) : List LogLine :=
  let p := { p with names := ∅ }
  LogLine.along enrollLog enroll servers p ++ LogLine.along retireLog retire order (servers.foldl enroll p)

def get? (p : Pool σ) (id : String) : Option Ref :=
  p.names[id]?

def ids (p : Pool σ) : List String :=
  p.names.keys

def refs (p : Pool σ) : List Ref :=
  p.names.values

def replaceAll (p : Pool σ) (servers : List Server) : Pool σ :=
  p.replaceIn p.refs servers

def connectOne (p : Pool σ) (r : Ref) : (String × Standing) × Pool σ :=
  let s := (p.link r).server
  if !s.isComplete then ((s.id, .skipped), p)
  else
    match p.acquire r with
    | (.ok (), p) => ((s.id, .opened), p)
    | (.error f, p) => ((s.id, .failed f), p)

def connectOneLog (p : Pool σ) (r : Ref) : List LogLine :=
  let s := (p.link r).server
  if !s.isComplete then [⟨.warn, "more information needed: " ++ s.display⟩]
  else
    p.acquireLog r ++ (Fault.ofResult (p.acquire r).1).map fun f =>
      ⟨.error, "failed to connect server " ++ s.id ++ ": " ++ f.message⟩

def connectEach : List Ref → Pool σ → Report × Pool σ
  | [], p => ([], p)
  | r :: rs, p =>
    let a := p.connectOne r
    let b := connectEach rs a.2
    (a.1 :: b.1, b.2)

def connectLog (order : List Ref) (p : Pool σ) : List LogLine :=
  LogLine.along connectOneLog (fun p r => (p.connectOne r).2) order p

def connectAll (p : Pool σ) : Report × Pool σ :=
  connectEach p.refs p

def closeEach : List Ref → Pool σ → List Fault × Pool σ
  | [], p => ([], p)
  | r :: rs, p =>
    let a := p.release r
    let b := closeEach rs a.2
    (Fault.ofResult a.1 ++ b.1, b.2)

def closeLog (order : List Ref) (p : Pool σ) : List LogLine :=
  (closeEach order p).1.map (.ofFault .error)

def closeAll (p : Pool σ) : Except Fault Unit × Pool σ :=
  match closeEach p.refs p with
  | ([], p) => (.ok (), p)
  | (faults, p) => (.error (.notClosed faults), p)

def openIds (p : Pool σ) : List String :=
  p.names.toList.filterMap fun (id, r) => if (p.link r).isOpen then some id else none

def debug (p : Pool σ) : String :=
  let list (xs : List String) := "[" ++ String.intercalate ", " (xs.map Text.quoted) ++ "]"
  "ServerRegistry \x7b servers: " ++ list p.ids ++ ", drivers: " ++ list p.drivers.keys ++ " \x7d"

end Pool

end ItemGateway
