import ItemGateway.Text.Split
import Std.Data.TreeMap.Basic

namespace ItemGateway

inductive Payload
  | single (raw : String)
  | named (raw : String) (fields : Std.TreeMap String String)

namespace Payload

def valueKey : String := "value"

def timeKey : String := "time"

def looksNamed (line : List Char) : Bool :=
  ((line.dropWhile (· ≠ '=')).dropWhile (· ≠ '&')).contains '='

def isNamedText (s : List Char) : Bool :=
  (s.splitOn '\n').any looksNamed

def segmentField (s : List Char) : String × String :=
  match Text.cut '=' s with
  | none => (String.ofList s, "")
  | some (key, value) => (String.ofList key, String.ofList value)

def segments (s : List Char) : List (String × String) :=
  ((s.splitOn '&').filter (!·.isEmpty)).map segmentField

def collect (fields : List (String × String)) : Std.TreeMap String String :=
  fields.foldl (fun m f => m.insert f.1 f.2) ∅

def parse (raw : String) : Payload :=
  if isNamedText raw.toList then .named raw (collect (segments raw.toList)) else .single raw

def raw : Payload → String
  | single raw => raw
  | named raw _ => raw

def isNamed : Payload → Bool
  | single _ => false
  | named .. => true

def field? (p : Payload) (key : String) : Option String :=
  match p with
  | single _ => none
  | named _ fields => fields[key]?

end Payload

def normalizeCommand (command : String) : String :=
  if command.toList.contains '&' then command
  else "time=" ++ command ++ "&value=" ++ command

end ItemGateway
