namespace ItemGateway

inductive Fault.Kind
  | database
  | config
  | address
  | substitution
  | execution
  | connection
  | binding
  | io
  | toml
  | application
  deriving DecidableEq, Repr

structure Fault where
  kind : Fault.Kind
  detail : String
  deriving DecidableEq, Repr

namespace Fault

def message (f : Fault) : String :=
  match f.kind with
  | .database => "Database error: " ++ f.detail
  | .config => "Configuration error: " ++ f.detail
  | .address => "Address resolution error: no server registered as '" ++ f.detail ++ "'"
  | .substitution => "Substitution error: " ++ f.detail
  | .execution => "Execution error: " ++ f.detail
  | .connection => "Connection error: " ++ f.detail
  | .binding => "Binding error: " ++ f.detail
  | .io => "I/O error: " ++ f.detail
  | .toml => "TOML error"
  | .application => "Application error: " ++ f.detail

def ofResult {α : Type} : Except Fault α → List Fault
  | .ok _ => []
  | .error f => [f]

/-! ### Servers and their links -/

def unknownServer (id : String) : Fault :=
  ⟨.address, id⟩

def blankFields (id : String) (fields : List String) : Fault :=
  ⟨.config, s!"server '{id}' is missing " ++ String.intercalate ", " fields⟩

def noDriver (driver id : String) : Fault :=
  ⟨.config, s!"no driver registered as '{driver}' for server '{id}'"⟩

def openRefused (url id cause : String) : Fault :=
  ⟨.connection, s!"failed to open {url} for server '{id}': {cause}"⟩

def brokenLock (id : String) : Fault :=
  ⟨.application, s!"Failed to acquire connection lock for server '{id}'"⟩

def closeRefused (id cause : String) : Fault :=
  ⟨.connection, s!"failed to close connection for server '{id}': {cause}"⟩

def notClosed (faults : List Fault) : Fault :=
  let count := faults.length
  ⟨.connection, s!"failed to close {count} connection(s): " ++ String.intercalate "; " (faults.map message)⟩

/-! ### Statements -/

def prepareRefused (cause : String) : Fault :=
  ⟨.execution, s!"Failed to prepare statement: {cause}"⟩

def notReadOnly (sql : String) : Fault :=
  ⟨.execution, s!"select template is not read-only: {sql}"⟩

def openParameters (count : Nat) : Fault :=
  ⟨.execution, s!"Query execution failed: Wrong number of parameters passed to query. Got 0, needed {count}"⟩

def stepFailed (cause : String) : Fault :=
  ⟨.execution, s!"Result processing failed: {cause}"⟩

def noColumn (index : Nat) : Fault :=
  ⟨.database, s!"Invalid column index: {index}"⟩

def unfilledPlaceholders (count : Nat) (sql : String) : Fault :=
  ⟨.execution, s!"statement still has {count} unfilled placeholder(s): {sql}"⟩

def noPlaceholder (value sql : String) : Fault :=
  ⟨.execution, s!"template has no placeholder for value '{value}': {sql}"⟩

def extraPlaceholders (count : Nat) (sql : String) : Fault :=
  ⟨.execution, s!"statement has {count} placeholders, single value binds one: {sql}"⟩

def fieldMissing (raw key : String) : Fault :=
  ⟨.substitution, s!"named payload '{raw}' has no '{key}' field"⟩

def executionFailed (cause : String) : Fault :=
  ⟨.execution, s!"Statement execution failed: {cause}"⟩

/-! ### Items -/

def invalidBinding (text : String) : Fault :=
  ⟨.binding, s!"bindingConfig '{text}' doesn't contain a valid binding configuration"⟩

def unboundItem (item : String) : Fault :=
  ⟨.binding, s!"no binding for item '{item}'"⟩

/-! ### Configuration -/

def noProperties : Fault :=
  ⟨.config, "The SQL database URL is missing - please configure the url parameter"⟩

def invalidRefresh (text cause : String) : Fault :=
  ⟨.config, s!"invalid refresh '{text}': {cause}"⟩

def notScalar (key found : String) : Fault :=
  ⟨.config, s!"key '{key}' must be a scalar, found {found}"⟩

def unreadableToml : Fault :=
  ⟨.toml, ""⟩

def io (cause : String) : Fault :=
  ⟨.io, cause⟩

end Fault

end ItemGateway
