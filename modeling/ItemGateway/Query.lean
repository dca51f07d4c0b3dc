import ItemGateway.Address
import ItemGateway.Pool
import ItemGateway.Statement

namespace ItemGateway

namespace Query

variable {σ : Type}

def readFirst (e : Engine σ) (r : Ref) (sql : String) (w : World σ) :
    Except Fault Selection × World σ :=
  match w.prepare e r sql with
  | (.error cause, w) => (.error (.prepareRefused cause), w)
  | (.ok q, w) =>
    if !q.readOnly then (.error (.notReadOnly sql), w)
    else if 0 < q.parameters then (.error (.openParameters q.parameters), w)
    else
      match w.step e r with
      | (.error cause, w) => (.error (.stepFailed cause), w)
      | (.ok none, w) => (.ok ⟨.absent, false⟩, w)
      | (.ok (some cells), w) =>
        match Reading.ofRow q.columns cells with
        | .error f => (.error f, w)
        | .ok reading =>
          match w.step e r with
          | (.error cause, w) => (.error (.stepFailed cause), w)
          | (.ok next, w) => (.ok ⟨reading, next.isSome⟩, w)

def refusal? (s : Statement) (parameters : Nat) : Option Fault :=
  match s, parameters with
  | .filled _, 0 => none
  | .filled sql, n => some (.unfilledPlaceholders n sql)
  | .bound _ _, 1 => none
  | .bound sql value, 0 => some (.noPlaceholder value sql)
  | .bound sql _, n => some (.extraPlaceholders n sql)

def boundValue : Statement → Option String
  | .filled _ => none
  | .bound _ value => some value

def execute (e : Engine σ) (r : Ref) (s : Statement) (w : World σ) :
    Except Fault Nat × World σ :=
  match w.prepare e r s.sql with
  | (.error cause, w) => (.error (.prepareRefused cause), w)
  | (.ok q, w) =>
    match refusal? s q.parameters with
    | some f => (.error f, w)
    | none =>
      match w.execute e r (boundValue s) with
      | (.error cause, w) => (.error (.executionFailed cause), w)
      | (.ok n, w) => (.ok n, w)

end Query

namespace Pool

variable {σ α : Type}

structure Resolution where
  server : String
  template : String
  link : Option Ref

def resolve (p : Pool σ) (address : String) : Resolution :=
  let a := Address.parse address
  ⟨a.target, a.template, p.get? a.target⟩

def dispatch (p : Pool σ) (address : String)
    (f : Ref → String → World σ → Except Fault α × World σ) : Except Fault α × Pool σ :=
  let a := p.resolve address
  match a.link with
  | none => (.error (.unknownServer a.server), p)
  | some r => p.use r (f r a.template)

def dispatchLog (p : Pool σ) (address : String) (lead : List LogLine) (answer : Except Fault α) : List LogLine :=
  let a := p.resolve address
  match a.link with
  | none => [⟨.error, "no SQL server found.[" ++ address ++ "]"⟩]
  | some r =>
    lead ++ p.acquireLog r ++ (Fault.ofResult answer).map fun f =>
      ⟨.error, "failed to execute on server " ++ a.server ++ ": " ++ f.message ++ " [" ++ a.template ++ "]"⟩

def select (p : Pool σ) (address : String) : Except Fault Selection × Pool σ :=
  p.dispatch address fun r template => Query.readFirst p.engine r template

def selectLog (p : Pool σ) (address : String) : List LogLine :=
  p.dispatchLog address [] (p.select address).1

def update (p : Pool σ) (address payload : String) : Except Fault Nat × Pool σ :=
  p.dispatch address fun r template =>
    Query.execute p.engine r (.ofUpdate template (.parse payload))

def updateLog (p : Pool σ) (address payload : String) : List LogLine :=
  p.dispatchLog address (Statement.lackLog (.parse payload) [Payload.valueKey]) (p.update address payload).1

def insert (p : Pool σ) (address payload : String) : Except Fault Nat × Pool σ :=
  p.dispatch address fun r template =>
    Query.execute p.engine r (.ofInsert template (.parse payload))

def insertLog (p : Pool σ) (address payload : String) : List LogLine :=
  p.dispatchLog address (Statement.lackLog (.parse payload) [Payload.valueKey, Payload.timeKey])
    (p.insert address payload).1

end Pool

end ItemGateway
