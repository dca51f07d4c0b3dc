import ItemGateway.Fault

namespace ItemGateway

structure Files where
  contents : List (List String × ByteArray)

namespace Files

inductive Entry
  | file (bytes : ByteArray)
  | directory

def entry? (files : Files) (path : List String) : Option Entry :=
  match files.contents.lookup path with
  | some bytes => some (.file bytes)
  | none =>
    if path.isEmpty || files.contents.any (fun f => path.isPrefixOf f.1) then some .directory
    else none

inductive PathFault
  | nulByte
  | notFound
  | notDirectory
  | isDirectory
  | nameTooLong
  | notText
  deriving DecidableEq, Repr

def PathFault.message : PathFault → String
  | nulByte => "file name contained an unexpected NUL byte"
  | notFound => "No such file or directory (os error 2)"
  | notDirectory => "Not a directory (os error 20)"
  | isDirectory => "Is a directory (os error 21)"
  | nameTooLong => "File name too long (os error 36)"
  | notText => "stream did not contain valid UTF-8"

def outside : Files := ⟨[]⟩

def maxPart : Nat := 255

def maxPath : Nat := 4095

def walk (files : Files) : List String → List String → Except PathFault Entry
  | place, [] =>
    match files.entry? place with
    | some e => .ok e
    | none => .error .notFound
  | place, part :: parts =>
    match files.entry? place with
    | none => .error .notFound
    | some (.file _) => .error .notDirectory
    | some .directory =>
      if part = "" || part = "." then walk files place parts
      else if part = ".." then
        if place.isEmpty then walk outside [] parts else walk files place.dropLast parts
      else if maxPart < part.utf8ByteSize then .error .nameTooLong
      else walk files (place ++ [part]) parts

def parts (path : String) : List String :=
  (path.toList.splitOn '/').map String.ofList

def origin (files : Files) (path : String) : Files :=
  if path.toList.head? = some '/' then outside else files

def read (files : Files) (path : String) : Except PathFault ByteArray :=
  if path.toList.contains '\x00' then .error .nulByte
  else if path = "" then .error .notFound
  else if maxPath < path.utf8ByteSize then .error .nameTooLong
  else
    match (files.origin path).walk [] (parts path) with
    | .error e => .error e
    | .ok .directory => .error .isDirectory
    | .ok (.file bytes) => .ok bytes

def decode (bytes : ByteArray) : Except PathFault String :=
  match String.fromUTF8? bytes with
  | some text => .ok text
  | none => .error .notText

def readText (files : Files) (path : String) : Except Fault String :=
  match (files.read path).bind decode with
  | .ok text => .ok text
  | .error e => .error (.io e.message)

end Files

end ItemGateway
