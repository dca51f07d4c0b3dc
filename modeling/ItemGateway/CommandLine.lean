namespace ItemGateway

inductive Command
  | select (address : String)
  | update (address payload : String)
  | insert (address payload : String)
  | poll
  | items
  deriving DecidableEq, Repr

inductive UsageFault
  | pathMissing
  | noCommand
  | unrecognized (words : List String)
  deriving DecidableEq, Repr

def UsageFault.message : UsageFault → String
  | pathMissing => "--config needs a path"
  | noCommand => "no command given"
  | unrecognized words => "unrecognized arguments: " ++ String.intercalate " " words

def Command.ofWords : List String → Except UsageFault Command
  | ["select", address] => .ok (.select address)
  | ["update", address, payload] => .ok (.update address payload)
  | ["insert", address, payload] => .ok (.insert address payload)
  | ["poll"] => .ok .poll
  | ["items"] => .ok .items
  | [] => .error .noCommand
  | words => .error (.unrecognized words)

structure CommandLine where
  config : String
  command : Command
  deriving DecidableEq, Repr

namespace CommandLine

def isFlag (arg : String) : Bool :=
  arg = "--config" || arg = "-c"

/-- Takes out every flag with the argument after it. Gives the last path and the words that are left. -/
def scan (path : String) : List String → Option (String × List String)
  | [] => some (path, [])
  | [arg] => if isFlag arg then none else some (path, [arg])
  | arg :: next :: args =>
    if isFlag arg then scan next args
    else (scan path (next :: args)).map fun (path, words) => (path, arg :: words)

def parse (defaultPath : String) (args : List String) : Except UsageFault CommandLine :=
  match scan defaultPath args with
  | none => .error .pathMissing
  | some (config, words) => (Command.ofWords words).map fun command => { config, command }

def usage : List String :=
  [ "Usage: sqlbridge [--config <path>] <command>",
    "",
    "Commands:",
    "  select <address>             Run a select address and print the first row",
    "  update <address> <payload>   Run an update address with a payload",
    "  insert <address> <payload>   Run an insert address with a payload",
    "  poll                         Refresh every configured item once",
    "  items                        Show the refresh interval and configured items" ]

end CommandLine

end ItemGateway
