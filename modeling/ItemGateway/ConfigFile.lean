import ItemGateway.Config
import ItemGateway.Toml.Document

/-!
Configuration files. The table `bridge` holds the properties, each a scalar, and the table `items`
the bindings of items, each a text.
-/

namespace ItemGateway

namespace Toml.Value

def textOf? : Value → Option String
  | text s => some s
  | _ => none

def entries? : Value → Option Entries
  | table es | dotted es => some es
  | moment s => some [(momentKey, .text s)]
  | _ => none

mutual

def isSound : Value → Bool
  | text _ | integer _ | float _ | boolean _ => true
  | moment s => Moment.isValid s
  | array vs => areSound vs
  | table es => isSoundTable es
  | dotted es => isSoundTable es

def areSound : List Value → Bool
  | [] => true
  | v :: vs => isSound v && areSound vs

def isSoundTable : List (String × Value) → Bool
  | [] => true
  | (k, v) :: es =>
    if k = momentKey then (textOf? v).any Moment.isValid
    else isSound v && entriesAreSound [k] es

def entriesAreSound (seen : List String) : List (String × Value) → Bool
  | [] => true
  | (k, v) :: es => !seen.contains k && isSound v && entriesAreSound (k :: seen) es

end

def scalar? : Value → Option String
  | text s => some s
  | integer n => some (toString n)
  | float x => some (Number.Layout.setting.write x)
  | boolean b => some (if b then "true" else "false")
  | _ => none

def kindOfEntries (es : Entries) : String :=
  if isMomentTable es then "datetime" else "table"

def kind : Value → String
  | text _ => "string"
  | integer _ => "integer"
  | float _ => "float"
  | boolean _ => "boolean"
  | moment _ => "datetime"
  | array _ => "array"
  | table es | dotted es => kindOfEntries es

end Toml.Value

structure ConfigFile where
  properties : Std.TreeMap String Toml.Value
  items : Texts

namespace ConfigFile

open Toml (Value Entries)

/-- What is below the table of properties is read as values, and nothing else is. -/
def isProperty : List String → Bool
  | key :: _ :: _ => key = "bridge"
  | _ => false

def only? (es : Entries) (key : String) : Option (Option Value) :=
  match es.filter (·.1 = key) with
  | [] => some none
  | [(_, v)] => some (some v)
  | _ => none

def properties? (v : Value) : Option (Std.TreeMap String Value) := do
  let es ← v.entries?
  if es.all (·.2.isSound) then some (es.foldl (fun m e => m.insert e.1 e.2) ∅) else none

def items? (v : Value) : Option Texts := do
  let es ← v.entries?
  let texts ← es.mapM fun e => e.2.textOf?.map (e.1, ·)
  some (texts.foldl (fun m e => m.insert e.1 e.2) ∅)

def parse? (text : String) : Option ConfigFile := do
  let es ← Toml.document? isProperty text
  let properties ← (← only? es "bridge").bind properties?
  let items ← match ← only? es "items" with
    | none => some ∅
    | some v => items? v
  some { properties, items }

def texts (properties : Std.TreeMap String Value) : Except Fault Texts :=
  properties.foldl (fun texts key v =>
    match texts, v.scalar? with
    | .error f, _ => .error f
    | .ok texts, some text => .ok (texts.insert key text)
    | .ok _, none => .error (.notScalar key v.kind)) (.ok ∅)

end ConfigFile

def Config.parse (text : String) : Except Fault Config :=
  match ConfigFile.parse? text with
  | none => .error .unreadableToml
  | some file =>
    match ConfigFile.texts file.properties with
    | .error f => .error f
    | .ok props => (Config.ofProperties props).map (·.withItems file.items)

end ItemGateway
