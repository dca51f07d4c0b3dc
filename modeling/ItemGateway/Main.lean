import ItemGateway.Files
import ItemGateway.Program

/-!
The program on the command line of an operating system. No SQL engine is linked in, so every database
is refused when it is to be opened.
-/

namespace ItemGateway

def noEngine : Engine Unit where
  openDatabase _ _ w := (.error "no SQL engine is linked in", w)
  enforceForeignKeys _ w := (.ok (), w)
  close _ w := w
  prepare _ _ w := (.error "no SQL engine is linked in", w)
  step _ w := (.ok none, w)
  execute _ _ w := (.ok 0, w)

def configPath (configHome home : Option String) : String :=
  let dir := match configHome.filter (·.startsWith "/"), home.filter (· ≠ "") with
    | some dir, _ => dir
    | none, some home => home ++ "/.config"
    | none, none => "."
  dir ++ "/sqlbridge/bridge.toml"

/-- The number that Linux gives a fault; some calls give it with its sign turned. -/
def faultNumber (code : UInt32) : UInt32 :=
  min code (0 - code)

def describe : IO.Error → String
  | .noFileOrDirectory .. => Files.PathFault.notFound.message
  | .inappropriateType _ code _ =>
    (if faultNumber code = 21 then Files.PathFault.isDirectory else .notDirectory).message
  | .invalidArgument _ code details =>
    if faultNumber code = 36 then Files.PathFault.nameTooLong.message
    else s!"{details} (os error {faultNumber code})"
  | .permissionDenied .. => "Permission denied (os error 13)"
  | .otherError code details => s!"{details} (os error {faultNumber code})"
  | e => toString e

def LogLine.print (line : LogLine) : String :=
  let severity := match line.severity with
    | .info => "INFO "
    | .warn => "WARN "
    | .error => "ERROR "
  severity ++ line.text

def ErrorLine.print : ErrorLine → String
  | log line => line.print
  | note text => text

def readText (path : String) : IO (Except Fault String) := do
  try
    match Files.decode (← IO.FS.readBinFile path) with
    | .ok text => return .ok text
    | .error e => return .error (.io e.message)
  catch e => return .error (.io (describe e))

end ItemGateway

open ItemGateway in
def main (args : List String) : IO UInt32 := do
  let path := configPath (← IO.getEnv "XDG_CONFIG_HOME") (← IO.getEnv "HOME")
  let content ← match CommandLine.parse path args with
    | .ok line => readText line.config
    | .error _ => pure (.ok "")
  let (t, _) := Program.run noEngine () (fun _ => content) path args
  IO.print (Transcript.text t.out)
  IO.eprint (Transcript.text (t.stderr.map ErrorLine.print))
  return t.code.toUInt32
