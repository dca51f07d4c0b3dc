import ItemGateway.Fault

/-!
The log. What an operation writes there is a function of its own beside the operation, and depends on the state in
which the operation finds things.
-/

namespace ItemGateway

inductive Severity
  | info
  | warn
  | error
  deriving DecidableEq, Repr

structure LogLine where
  severity : Severity
  text : String
  deriving DecidableEq, Repr

namespace LogLine

def ofFault (severity : Severity) (f : Fault) : LogLine :=
  ⟨severity, f.message⟩

/-- What is written along a walk, each step of which writes before it is taken. -/
def along {σ α : Type} (log : σ → α → List LogLine) (step : σ → α → σ) : List α → σ → List LogLine
  | [], _ => []
  | a :: as, s => log s a ++ along log step as (step s a)

end LogLine

end ItemGateway
