import ItemGateway.CommandLine
import ItemGateway.ConfigFile

namespace ItemGateway

inductive ErrorLine
  | log (line : LogLine)
  | note (text : String)
  deriving DecidableEq, Repr

def ErrorLine.note? : ErrorLine → Option String
  | log _ => none
  | note text => some text

structure Transcript where
  code : Nat
  out : List String
  stderr : List ErrorLine
  deriving DecidableEq, Repr

namespace Transcript

def err (t : Transcript) : List String :=
  t.stderr.filterMap ErrorLine.note?

def after (log : List LogLine) (t : Transcript) : Transcript :=
  { t with stderr := log.map .log ++ t.stderr }

@[simp] theorem code_after (log : List LogLine) (t : Transcript) : (t.after log).code = t.code := rfl

@[simp] theorem out_after (log : List LogLine) (t : Transcript) : (t.after log).out = t.out := rfl

def text (lines : List String) : String :=
  String.join (lines.map (· ++ "\n"))

end Transcript

structure Printed where
  answer : List String := []
  notes : List String := []
  deriving DecidableEq, Repr

namespace Printed

def ofSelection (s : Selection) : Printed :=
  let notes := if s.more then ["query returned more than one row; showing the first"] else []
  match s.reading.value? with
  | some value => { answer := [value], notes }
  | none => { notes := notes ++ ["no row"] }

def ofChange (c : Change) : String :=
  c.item ++ ": " ++ c.value.getD "(no row)"

def directions (b : Binding) : List String :=
  (if b.select.isSome then ["select"] else []) ++ (if b.update.isSome then ["update"] else []) ++
    (if b.insert.isSome then ["insert"] else [])

def ofItem (item : String × Binding) : String :=
  item.1 ++ " (" ++ String.intercalate ", " (directions item.2) ++ ")"

end Printed

def Transcript.ofResult (r : Except Fault Printed) (closing : List ErrorLine) : Transcript :=
  match r with
  | .ok p => ⟨0, p.answer, p.notes.map .note ++ closing⟩
  | .error f => ⟨1, [], closing ++ [.note f.message]⟩

namespace Gateway

variable {σ : Type}

def perform (g : Gateway σ) : Command → Except Fault Printed × Gateway σ
  | .select address =>
    let a := g.pool.select address
    (a.1.map .ofSelection, { g with pool := a.2 })
  | .update address payload =>
    let a := g.pool.update address payload
    (a.1.map fun n => { answer := [toString n ++ " row(s) updated"] }, { g with pool := a.2 })
  | .insert address payload =>
    let a := g.pool.insert address payload
    (a.1.map fun n => { answer := [toString n ++ " row(s) inserted"] }, { g with pool := a.2 })
  | .poll =>
    let a := g.refresh
    (.ok { answer := a.1.map Printed.ofChange }, a.2)
  | .items =>
    (.ok { answer := ("refresh every " ++ toString g.interval ++ " ms") ::
      g.items.toList.map Printed.ofItem }, g)

def performLog (g : Gateway σ) : Command → List LogLine
  | .select address => g.pool.selectLog address
  | .update address payload => g.pool.updateLog address payload
  | .insert address payload => g.pool.insertLog address payload
  | .poll => g.refreshLog
  | .items => []

def runToEnd (g : Gateway σ) (c : Command) : Transcript × Gateway σ :=
  let a := g.perform c
  let b := a.2.shutdown
  let closing := a.2.shutdownLog.map .log ++ (Fault.ofResult b.1).map fun f => .note f.message
  ((Transcript.ofResult a.1 closing).after (g.performLog c), b.2)

end Gateway

namespace Program

variable {σ : Type}

def load (read : String → Except Fault String) (line : CommandLine) : Except Fault Config :=
  (read line.config).bind Config.parse

def loadLog (line : CommandLine) (a : Except Fault Config) : List LogLine :=
  ⟨.info, "Loading configuration from " ++ line.config⟩ ::
    match a with
    | .error _ => []
    | .ok c => c.log

def run (engine : Engine σ) (state : σ) (read : String → Except Fault String)
    (defaultPath : String) (args : List String) : Transcript × Option (Gateway σ) :=
  match CommandLine.parse defaultPath args with
  | .error e => (⟨2, [], (e.message :: "" :: CommandLine.usage).map .note⟩, none)
  | .ok line =>
    match load read line with
    | .error f => (Transcript.after (loadLog line (.error f)) ⟨1, [], [.note f.message]⟩, none)
    | .ok c =>
      let a := (Gateway.ofConfig engine state c).runToEnd line.command
      (a.1.after (loadLog line (.ok c) ++ Gateway.ofConfigLog engine state c), some a.2)

end Program

end ItemGateway
