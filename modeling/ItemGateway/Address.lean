import ItemGateway.Text.Split

namespace ItemGateway

def defaultServer : String := "DefaultServer"

structure Address where
  server : Option String
  template : String
  deriving DecidableEq, Repr

namespace Address

def isQuote (c : Char) : Bool :=
  c = '\'' || c = '"'

/-- A server id ends at the first colon after its first character, and holds no quote. -/
def split : List Char → Option (List Char × List Char)
  | [] => none
  | c :: s =>
    match Text.cut ':' s with
    | none => none
    | some (id, template) =>
      if isQuote c || id.any isQuote then none else some (c :: id, template)

def parse (raw : String) : Address :=
  match split raw.toList with
  | none => ⟨none, raw⟩
  | some (id, template) => ⟨some (String.ofList id), String.ofList template⟩

def target (a : Address) : String :=
  a.server.getD defaultServer

end Address

end ItemGateway
