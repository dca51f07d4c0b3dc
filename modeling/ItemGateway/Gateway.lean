import ItemGateway.Binding
import ItemGateway.Query

/-!
The gateway between items and servers. It keeps the last value of every item, so that a refresh
reports changes only and an update is not sent twice in a row.
-/

namespace ItemGateway

def defaultInterval : Nat := 60000

structure Gateway (σ : Type) where
  pool : Pool σ
  items : Std.TreeMap String Binding
  last : Std.TreeMap String (Option String) := ∅
  interval : Nat := defaultInterval

structure Change where
  item : String
  value : Option String
  deriving DecidableEq, Repr

inductive Outcome
  | inserted (rows : Nat)
  | updated (rows : Nat)
  | unchanged
  | notWritable
  deriving DecidableEq, Repr

namespace Gateway

variable {σ : Type}

def names (g : Gateway σ) : List String :=
  g.items.keys

def binding? (g : Gateway σ) (item : String) : Option Binding :=
  g.items[item]?

def lastValue? (g : Gateway σ) (item : String) : Option (Option String) :=
  g.last[item]?

def remember (g : Gateway σ) (item : String) (value : Option String) : Gateway σ :=
  { g with last := g.last.insert item value }

def observe (g : Gateway σ) (item : String) (value : Option String) : Option Change × Gateway σ :=
  if g.lastValue? item = some value then (none, g)
  else (some ⟨item, value⟩, g.remember item value)

def refreshItem (g : Gateway σ) (item : String) : Except Fault (Option Change) × Gateway σ :=
  match (g.binding? item).bind Binding.select with
  | none => (.ok none, g)
  | some address =>
    match g.pool.select address with
    | (.error f, pool) => (.error f, { g with pool })
    | (.ok s, pool) =>
      let a := { g with pool }.observe item s.reading.value?
      (.ok a.1, a.2)

def refreshItemLog (g : Gateway σ) (item : String) : List LogLine :=
  match (g.binding? item).bind Binding.select with
  | none => []
  | some address => g.pool.selectLog address

def changes : Except Fault (Option Change) → List Change
  | .ok c => c.toList
  | .error _ => []

def refreshEach : List String → Gateway σ → List Change × Gateway σ
  | [], g => ([], g)
  | item :: items, g =>
    let a := g.refreshItem item
    let b := refreshEach items a.2
    (changes a.1 ++ b.1, b.2)

def refresh (g : Gateway σ) : List Change × Gateway σ :=
  refreshEach g.names g

def refreshLog (g : Gateway σ) : List LogLine :=
  let line (item : String) (f : Fault) : LogLine :=
    ⟨.error, "failed to select value for " ++ item ++ ": " ++ f.message⟩
  LogLine.along
    (fun g item => g.refreshItemLog item ++ (Fault.ofResult (g.refreshItem item).1).map (line item))
    (fun g item => (g.refreshItem item).2) g.names g

def command (g : Gateway σ) (item text : String) : Except Fault Outcome × Gateway σ :=
  match g.binding? item with
  | none => (.error (.unboundItem item), g)
  | some b =>
    let payload := normalizeCommand text
    match b.insert, b.update with
    | some address, _ =>
      let a := g.pool.insert address payload
      (a.1.map .inserted, { g with pool := a.2 })
    | none, some address =>
      if g.lastValue? item = some (some payload) then (.ok .unchanged, g)
      else
        -- The last value is stored before the update is sent, and stays if it fails.
        let a := g.pool.update address payload
        (a.1.map .updated, { g.remember item (some payload) with pool := a.2 })
    | none, none => (.ok .notWritable, g)

def commandLog (g : Gateway σ) (item text : String) : List LogLine :=
  match g.binding? item with
  | none => []
  | some b =>
    let payload := normalizeCommand text
    match b.insert, b.update with
    | some address, _ => g.pool.insertLog address payload
    | none, some address =>
      if g.lastValue? item = some (some payload) then [] else g.pool.updateLog address payload
    | none, none => []

def shutdown (g : Gateway σ) : Except Fault Unit × Gateway σ :=
  let a := g.pool.closeAll
  (a.1, { g with pool := a.2 })

def shutdownLog (g : Gateway σ) : List LogLine :=
  g.pool.closeLog g.pool.refs

end Gateway

end ItemGateway
