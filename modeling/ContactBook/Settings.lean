/-
**Settings.**

The settings have built-in values.  A file may replace them, and variables of the environment
replace both.  The file is the one of exactly the given name, if there is one with a known ending,
or else the one of that name with an ending added, first `toml` and then `json`; a missing file
changes nothing.  A variable counts when its name begins with the prefix; capitals do not matter.

A source may also name a place inside the value of a key.  A value that is put together from
parts has no one place that it comes from.

Main definitions:

* `ContactBook.Settings` — the settings;
* `ContactBook.Settings.Surroundings` — files and environment;
* `ContactBook.Settings.load` — the settings in given surroundings.
-/

import ContactBook.Fault
import ContactBook.Filter.Policy
import ContactBook.Json.Decoder
import ContactBook.Settings.Path
import ContactBook.Settings.Toml.Document
import ContactBook.Store.Location

set_option autoImplicit false

namespace ContactBook

/-- What can be set. -/
structure Settings where
  bind : String
  database : String
  log : String
  exposeErrorDetails : Bool
  filterPolicy : Policy

/-- Where the store is kept. -/
def Settings.location (s : Settings) : Location := .ofText s.database

namespace Settings

/-- The files there are, by name, with their texts, and the variables of the environment. -/
structure Surroundings where
  files : List (String × String) := []
  environment : List (String × String) := []

/-! ### Layers -/

/-- The values of all keys, each with the place it comes from. -/
abbrev Layers := List (String × Sourced)

/-- The built-in values. -/
def builtIn : Layers :=
  [("bind", ⟨.text "127.0.0.1:8080", none⟩), ("database", ⟨.text ":memory:", none⟩),
    ("log", ⟨.text "info", none⟩), ("expose_error_details", ⟨.switch false, none⟩),
    ("filter_policy", ⟨.text "lenient", none⟩)]

/-- The value of a key; one that has none is nothing and comes from nowhere. -/
def valueOf (layers : Layers) (key : String) : Sourced :=
  ((layers.find? fun l => l.1 == key).map Prod.snd).getD ⟨.nothing, none⟩

/-- The values with another one for a key. -/
def replaceValue (key : String) (s : Sourced) (layers : Layers) : Layers :=
  if layers.any fun l => l.1 == key then
    layers.map fun l => if l.1 == key then (key, s) else l
  else layers ++ [(key, s)]

/-- The values after a source has set a key, or a place inside. -/
def set (layers : Layers) (origin key : String) (v : Value) : Layers :=
  let path := Path.ofText key
  replaceValue path.key ((valueOf layers path.key).setAt origin v path.steps) layers

/-- The values after a source has set all its keys. -/
def setAll (layers : Layers) (origin : String) (entries : List (String × Value)) : Layers :=
  entries.foldl (fun layers (key, v) => set layers origin key v) layers

/-! ### Files -/

/-- The formats of files. -/
inductive Format where
  | toml
  | json
  deriving DecidableEq, Repr

/-- The ending of the last part of a name: what follows its last point, unless the part begins with
that point. -/
def ending (part : String) : String :=
  let cs := part.toList
  let after := (cs.reverse.takeWhile (· != '.')).reverse
  if after.length + 1 < cs.length then String.ofList after else ""

/-- The format that an ending stands for. -/
def formatOfEnding? (ending : String) : Option Format :=
  if ending == "toml" then some .toml else if ending == "json" then some .json else none

/-- A file: its name, its format and its text. -/
structure File where
  name : String
  format : Format
  text : String

/-- A name of a file in parts, between slashes, without those that lead nowhere. -/
def nameParts (name : String) : List String :=
  ((name.toList.splitOnP (· == '/')).map String.ofList).filter fun part => part != "" && part != "."

/-- Whether a name can be that of a file as it is, and not only with an ending added. -/
def endsInPart (name : String) : Bool :=
  match (name.toList.splitOnP (· == '/')).getLast? with
  | some last => !last.isEmpty && last != ['.']
  | none => false

/-- A name of a file in its plain form. -/
def plainName (name : String) : String :=
  (if name.toList.head? == some '/' then "/" else "") ++ String.intercalate "/" (nameParts name)

/-- The text of the file of a name. -/
def Surroundings.text? (s : Surroundings) (name : String) : Option String :=
  (s.files.find? fun f => f.1 == name).map Prod.snd

/-- The file of a name with an ending added. -/
def Surroundings.fileWith? (s : Surroundings) (name ending : String) (format : Format) :
    Option File :=
  let name := name ++ "." ++ ending
  (s.text? name).map fun text => ⟨name, format, text⟩

/-- The file that a name means. -/
def Surroundings.file? (s : Surroundings) (name : String) : Option File :=
  match (nameParts name).getLast? with
  | none => none
  | some last =>
    let plain := plainName name
    match if endsInPart name then s.text? plain else none with
    | some text => (formatOfEnding? (ending last)).map fun format => ⟨plain, format, text⟩
    | none => (s.fileWith? plain "toml" .toml).or (s.fileWith? plain "json" .json)

mutual

/-- A JSON value as a value of settings. -/
def ofJson : Json.Value → Value
  | .null => .nothing
  | .bool b => .switch b
  | .number (.integer i) => .integer i
  | .number (.double x) => .real (.finite x)
  | .string s => .text s
  | .array items => .list (ofJsonItems items)
  | .object members => .table (ofJsonMembers members)

/-- JSON values as values of settings. -/
def ofJsonItems : List Json.Value → List Value
  | [] => []
  | v :: rest => ofJson v :: ofJsonItems rest

/-- The members of a JSON object as values of settings. -/
def ofJsonMembers : List (String × Json.Value) → List (String × Value)
  | [] => []
  | m :: rest => ofJsonMember m :: ofJsonMembers rest

/-- A member of a JSON object as a value of settings. -/
def ofJsonMember : String × Json.Value → String × Value
  | (name, v) => (name, ofJson v)

end

/-- The value that is written in a file. -/
def File.value (f : File) : Except Fault Value :=
  let text := String.ofList (Text.Utf8.withoutMark f.text.toList)
  match f.format with
  | .toml => (Toml.parse text).mapError fun fault => .toml fault f.name
  | .json =>
    match Json.parse text with
    | .ok v => .ok (ofJson v)
    | .error failure => .error (.json failure f.name)

/-- The keys and values in a file. -/
def File.entries (f : File) : Except Fault (List (String × Value)) := do
  match ← f.value with
  | .table entries => .ok entries
  | other => .error (.notTable other.kind f.name)

/-! ### The environment -/

/-- What the names of variables begin with. -/
def variablePrefix : List Char := "leadsift_".toList

/-- How messages name the environment. -/
def environmentName : String := "the environment"

/-- The keys and values in the environment. -/
def Surroundings.variables (s : Surroundings) : List (String × Value) :=
  s.environment.filterMap fun (name, text) =>
    let name := (Text.lowercase name).toList
    if variablePrefix.isPrefixOf name then
      some (String.ofList (name.drop variablePrefix.length), .text text)
    else none

/-! ### Loading -/

/-- The values of all keys in given surroundings. -/
def layers (s : Surroundings) (fileName : String) : Except Fault Layers := do
  let entries ← match s.file? fileName with
    | some f => (f.entries).map fun entries => (f.name, entries)
    | none => .ok ("", [])
  return setAll (setAll builtIn entries.1 entries.2) environmentName s.variables

/-- The name of the file that is looked for unless another is given. -/
def defaultFileName : String := "leadsift"

/-- The words for the policies. -/
def policyWords : List (String × Policy) := [("lenient", .lenient), ("strict", .strict)]

/-- The settings that values make. -/
def ofLayers (l : Layers) : Except Fault Settings := do
  let bind ← (valueOf l "bind").toText "bind"
  let database ← (valueOf l "database").toText "database"
  let log ← (valueOf l "log").toText "log"
  let expose ← (valueOf l "expose_error_details").toSwitch "expose_error_details"
  let policy ← (valueOf l "filter_policy").toWord "FilterPolicy" policyWords "filter_policy"
  return ⟨bind, database, log, expose, policy⟩

/-- The settings in given surroundings. -/
def load (s : Surroundings) (fileName : Option String) : Except ContactBook.Fault Settings :=
  match layers s (fileName.getD defaultFileName) >>= ofLayers with
  | .ok settings => .ok settings
  | .error fault => .error (.settings fault.message)

end Settings

end ContactBook
