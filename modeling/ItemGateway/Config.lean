import ItemGateway.Gateway
import ItemGateway.Number.Unsigned

namespace ItemGateway

abbrev Texts := Std.TreeMap String String

structure Config where
  servers : List Server
  interval : Nat
  driver : String
  items : Std.TreeMap String Binding := ∅
  rejected : List (String × Fault) := []

inductive Server.Field
  | url
  | user
  | password
  deriving DecidableEq, Repr

def Server.Field.name : Server.Field → String
  | url => "url"
  | user => "user"
  | password => "password"

def Server.set (s : Server) (value : String) : Server.Field → Server
  | .url => { s with url := value }
  | .user => { s with user := value }
  | .password => { s with password := value }

namespace Config

def ownerOf? (key : List Char) (f : Server.Field) : Option (List Char) :=
  (('.' :: f.name.toList).reverse.isPrefixOf? key.reverse).map List.reverse

def serverKey? (key : String) : Option (String × Server.Field) :=
  [Server.Field.url, .user, .password].findSome? fun f =>
    match ownerOf? key.toList f with
    | some id => if id.contains '\n' then none else some (String.ofList id, f)
    | none => none

def addProperty (servers : Std.TreeMap String Server) (key value : String) :
    Std.TreeMap String Server :=
  match serverKey? key with
  | none => servers
  | some (id, f) => servers.insert id (((servers[id]?).getD { id }).set value f)

def defaultOf (props : Texts) : Server where
  id := defaultServer
  url := props.getD "url" ""
  user := props.getD "user" ""
  password := props.getD "password" ""

def serversOf (props : Texts) : Std.TreeMap String Server :=
  (props.foldl addProperty ∅).insert defaultServer (defaultOf props)

def word? (props : Texts) (key : String) : Option String :=
  ((props[key]?).map Text.trimmed).filter (· ≠ "")

def driverOf (props : Texts) : String :=
  (word? props "driver").getD defaultDriver

def intervalOf (props : Texts) : Except Fault Nat :=
  match word? props "refresh" with
  | none => .ok defaultInterval
  | some text =>
    match Number.readUnsigned text.toList with
    | .ok n => .ok n
    | .error e => .error (.invalidRefresh text e.message)

def ofProperties (props : Texts) : Except Fault Config :=
  if props.isEmpty then .error .noProperties
  else
    let driver := driverOf props
    (intervalOf props).map fun interval =>
      { servers := (serversOf props).values.map fun s => { s with driver }, interval, driver }

def withItems (c : Config) (items : Texts) : Config :=
  { c with
    items := items.foldl (fun m name text =>
      match Binding.parse text with
      | .ok b => m.insert name b
      | .error _ => m) c.items
    rejected := c.rejected ++ items.toList.flatMap fun (name, text) =>
      (Fault.ofResult (Binding.parse text)).map (name, ·) }

def log (c : Config) : List LogLine :=
  c.rejected.map fun (name, f) => ⟨.error, "item " ++ name ++ ": " ++ f.message⟩

def server? (c : Config) (id : String) : Option Server :=
  c.servers.find? (·.id = id)

end Config

def Gateway.ofConfig {σ : Type} (engine : Engine σ) (state : σ) (c : Config) : Gateway σ where
  pool := (((Pool.new engine [] state).replaceAll c.servers).connectAll).2
  items := c.items
  interval := c.interval

def Gateway.ofConfigLog {σ : Type} (engine : Engine σ) (state : σ) (c : Config) : List LogLine :=
  let empty := Pool.new engine [] state
  let p := empty.replaceAll c.servers
  let report := p.connectAll.1
  let opened := report.opened.length
  let skipped := report.skipped.length
  let failed := report.failed.length
  empty.replaceLog empty.refs c.servers ++ p.connectLog p.refs ++
    [⟨.info, s!"Connected {opened} server(s) with driver " ++ c.driver ++
      s!", skipped {skipped}, failed {failed}"⟩]

end ItemGateway
