import ItemGateway.Engine
import ItemGateway.Log

/-!
A link owns the one connection to its server. The connection is opened when it is first needed, and
only if the server is complete and its driver known. A caller that dies while it uses the connection
breaks the lock on it for good.
-/

namespace ItemGateway

structure Link (σ : Type) where
  server : Server
  driver : Option (Driver σ)
  live : Bool := false
  broken : Bool := false

namespace Link

variable {σ α : Type}

def vacant : Link σ where
  server := { id := "" }
  driver := none

def isOpen (l : Link σ) : Bool :=
  l.live && !l.broken

def acquire (r : Ref) (l : Link σ) (w : World σ) : Except Fault Unit × Link σ × World σ :=
  if l.broken then (.error (.brokenLock l.server.id), l, w)
  else if l.live then (.ok (), l, w)
  else if !l.server.isComplete then (.error (.blankFields l.server.id l.server.missing), l, w)
  else
    match l.driver with
    | none => (.error (.noDriver l.server.driver l.server.id), l, w)
    | some d =>
      match w.connect d r l.server with
      | (.error f, w) => (.error f, l, w)
      | (.ok (), w) => (.ok (), { l with live := true }, w)

def acquireLog (r : Ref) (l : Link σ) (w : World σ) : List LogLine :=
  if l.live then []
  else
    match (l.acquire r w).1 with
    | .error _ => []
    | .ok () => [⟨.info, "Opened connection for " ++ l.server.display⟩]

def use (r : Ref) (f : World σ → Except Fault α × World σ) (l : Link σ) (w : World σ) :
    Except Fault α × Link σ × World σ :=
  match l.acquire r w with
  | (.error e, l, w) => (.error e, l, w)
  | (.ok (), l, w) => ((f w).1, l, (f w).2)

def release (e : Engine σ) (r : Ref) (l : Link σ) (w : World σ) :
    Except Fault Bool × Link σ × World σ :=
  if l.broken then (.error (.brokenLock l.server.id), l, w)
  else if l.live then
    match w.close e r with
    | (some cause, w) => (.error (.closeRefused l.server.id cause), { l with live := false }, w)
    | (none, w) => (.ok true, { l with live := false }, w)
  else (.ok false, l, w)

/-- A caller gets hold of the connection, lets `f` work on it and dies. -/
def abandon (r : Ref) (f : World σ → World σ) (l : Link σ) (w : World σ) :
    Except Fault Unit × Link σ × World σ :=
  match l.acquire r w with
  | (.error e, l, w) => (.error e, l, w)
  | (.ok (), l, w) => (.ok (), { l with broken := true }, f w)

def debug (l : Link σ) : String :=
  let state := if l.broken then "None" else if l.live then "Some(true)" else "Some(false)"
  "ServerHandle \x7b descriptor: " ++ l.server.debug ++ ", open: " ++ state ++ " \x7d"

end Link

end ItemGateway
