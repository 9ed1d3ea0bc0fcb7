/-
**Reading typed values from JSON text.**

A decoder reads one value of a known type from the front of a text.  Decoders work in the order of
the text and stop at the first fault, whether it breaks the grammar or the expected shape, so that
of two faults the earlier one is reported.  They are combined as the values are: lists of items,
records of named members, alternatives by name.

A record may also be written as a list of its members in their declared order.  A member that is
absent leaves the record as it starts, except in the list form of a record of fixed length; unknown
members are skipped; and a member that comes twice is a fault.

Brackets may nest to the depth `Limits.levels`.

Main definitions:

* `ContactBook.Json.Decoder` — a reader of one value;
* `ContactBook.Json.Decoder.string`, `bool`, `unit`, `optional`, `list`, `any`, `record`, `variant`
  — the decoders and their combinations;
* `ContactBook.Json.decode`, `ContactBook.Json.decodeFront` — decoding a whole text, or its front.
-/

import ContactBook.Json.Skipper

set_option autoImplicit false

namespace ContactBook.Json

/-- What was read, and the rest of the text. -/
abbrev Read (α : Type) := Except Failure (α × List Char)

/-- The failure by a break of the grammar, at the present place. -/
def Failure.ofSyntax (fault : SyntaxFault) : Failure := ⟨[], .grammar fault⟩

/-- The failure by a wrong shape, at the present place. -/
def Failure.ofShape (fault : ShapeFault) : Failure := ⟨[], .shape fault⟩

/-- How deep brackets may nest, and how many characters the whole text has. -/
structure Limits where
  levels : Nat
  size : Nat

/-- A reader of one value of type `α`. -/
def Decoder (α : Type) : Type := Limits → List Char → Read α

/-! ### Lists -/

/-- What stands between two items of a list, or two members of an object: the end, or more. -/
inductive Next where
  | closed (rest : List Char)
  | more (rest : List Char)

/-- Reads on to the next item of a list. -/
def nextItem (first : Bool) (cs : List Char) : Except SyntaxFault Next :=
  match skipSpace cs with
  | [] => .error .unfinishedList
  | c :: rest =>
    if c == ']' then .ok (.closed rest)
    else if first then .ok (.more (c :: rest))
    else if c == ',' then
      match skipSpace rest with
      | [] => .error .unfinishedValue
      | d :: rest => if d == ']' then .error .trailingComma else .ok (.more (d :: rest))
    else .error .expectedListEnd

/-- Reads the end of a list of which all items have been read. -/
def endList (cs : List Char) : Except SyntaxFault (List Char) :=
  match skipSpace cs with
  | [] => .error .unfinishedList
  | c :: rest =>
    if c == ']' then .ok rest
    else if c == ',' then
      match skipSpace rest with
      | ']' :: _ => .error .trailingComma
      | _ => .error .trailingCharacters
    else .error .trailingCharacters

/-- Reads the items of a list that are left, and its end; `acc` holds those read, the last one
first. -/
def readItems {α : Type} (item : List Char → Read α) :
    Nat → Nat → List α → List Char → Read (List α)
  | 0, _, _, _ => .error (.ofSyntax .unfinishedList)
  | fuel + 1, index, acc, cs =>
    match nextItem (index == 0) cs with
    | .error fault => .error (.ofSyntax fault)
    | .ok (.closed rest) => .ok (acc.reverse, rest)
    | .ok (.more rest) =>
      match item rest with
      | .error failure => .error (failure.under (.item index))
      | .ok (a, rest) => readItems item fuel (index + 1) (a :: acc) rest

/-! ### Objects -/

/-- Reads on to the name of the next member of an object, past its opening quote. -/
def nextMember (first : Bool) (cs : List Char) : Except SyntaxFault Next :=
  match skipSpace cs with
  | [] => .error .unfinishedObject
  | c :: rest =>
    if c == '}' then .ok (.closed rest)
    else if first then
      if c == '"' then .ok (.more rest) else .error .keyNotString
    else if c == ',' then
      match skipSpace rest with
      | [] => .error .unfinishedValue
      | d :: rest =>
        if d == '"' then .ok (.more rest)
        else if d == '}' then .error .trailingComma
        else .error .keyNotString
    else .error .expectedObjectEnd

/-- Reads the colon after the name of a member. -/
def readColon (cs : List Char) : Except SyntaxFault (List Char) :=
  match skipSpace cs with
  | [] => .error .unfinishedObject
  | c :: rest => if c == ':' then .ok rest else .error .expectedColon

/-- Reads the members of an object that are left, and its end.  `member` reads on after a name. -/
def readMembers {σ : Type} (size : Nat) (member : String → σ → List Char → Read σ) :
    Nat → Bool → σ → List Char → Read σ
  | 0, _, _, _ => .error (.ofSyntax .unfinishedObject)
  | fuel + 1, first, state, cs =>
    match nextMember first cs with
    | .error fault => .error ((Failure.ofSyntax fault).under .unknownMember)
    | .ok (.closed rest) => .ok (state, rest)
    | .ok (.more rest) =>
      match readString size rest with
      | .error fault => .error ((Failure.ofSyntax fault).under .unknownMember)
      | .ok (name, rest) =>
        match member name state rest with
        | .error failure => .error failure
        | .ok (state, rest) => readMembers size member fuel false state rest

/-- Reads the colon and the value of a member.  Only a fault in the value is placed in it. -/
def readMemberValue {α : Type} (name : String) (value : List Char → Read α) (cs : List Char) :
    Read α :=
  match readColon cs with
  | .error fault => .error (.ofSyntax fault)
  | .ok rest => (value rest).mapError (Failure.under (.member name))

/-! ### Values of any shape -/

/-- Reads a value whose brackets, if it has any, hold values read by `inner`. -/
def readValueWith (size : Nat) (inner : Option (List Char → Read Value)) (cs : List Char) :
    Read Value :=
  match opening size cs with
  | .error fault => .error (.ofSyntax fault)
  | .ok (.scalar v rest) => .ok (v, rest)
  | .ok (.list rest) =>
    match inner with
    | none => .error (.ofSyntax .tooDeep)
    | some inner => (readItems inner (size + 1) 0 [] rest).map fun (items, rest) =>
        (.array items, rest)
  | .ok (.object rest) =>
    match inner with
    | none => .error (.ofSyntax .tooDeep)
    | some inner =>
      let member (name : String) (members : List (String × Value)) (cs : List Char) :=
        (readMemberValue name inner cs).map fun (v, rest) => (Value.put name v members, rest)
      (readMembers size member (size + 1) true [] rest).map fun (members, rest) =>
        (.object members, rest)

/-- Reads a value with at most the given number of nested brackets. -/
def readValue (size : Nat) : Nat → List Char → Read Value
  | 0 => readValueWith size none
  | levels + 1 => readValueWith size (some (readValue size levels))

namespace Decoder

/-- A value of any shape. -/
def any : Decoder Value := fun limits cs => readValue limits.size limits.levels cs

/-! ### Scalars -/

/-- The failure of a value that is not of the expected kind. -/
def mismatch (expected : String) : Opening → Failure
  | .scalar v _ =>
    let found : Found := match v with
      | .null => .null
      | .bool b => .bool b
      | .number n => .number n
      | .string s => .string s
      | .array _ => .sequence
      | .object _ => .map
    .ofShape (.invalidType found expected)
  | .list _ => .ofShape (.invalidType .sequence expected)
  | .object _ => .ofShape (.invalidType .map expected)

/-- A scalar that `select` accepts. -/
def scalar {α : Type} (expected : String) (select : Value → Option α) : Decoder α :=
  fun limits cs =>
    match opening limits.size cs with
    | .error fault => .error (.ofSyntax fault)
    | .ok (.scalar v rest) =>
      match select v with
      | some a => .ok (a, rest)
      | none => .error (mismatch expected (.scalar v rest))
    | .ok other => .error (mismatch expected other)

/-- A string. -/
def string : Decoder String :=
  scalar "a string" fun
    | .string s => some s
    | _ => none

/-- A truth value. -/
def bool : Decoder Bool :=
  scalar "a boolean" fun
    | .bool b => some b
    | _ => none

/-- The empty value `null`. -/
def unit : Decoder Unit :=
  scalar "unit" fun
    | .null => some ()
    | _ => none

/-! ### Combinations -/

/-- A value that may also be `null`. -/
def optional {α : Type} (inner : Decoder α) : Decoder (Option α) := fun limits cs =>
  match skipSpace cs with
  | 'n' :: rest =>
    match readWord ['u', 'l', 'l'] rest with
    | .error fault => .error (.ofSyntax fault)
    | .ok rest => .ok (none, rest)
  | cs => (inner limits cs).map fun (a, rest) => (some a, rest)

/-- Runs a reader one level of brackets further in, if the depth allows it. -/
def deeper {α : Type} (limits : Limits) (read : Limits → Read α) : Read α :=
  match limits.levels with
  | 0 => .error (.ofSyntax .tooDeep)
  | levels + 1 => read { limits with levels := levels }

/-- A list of items. -/
def list {α : Type} (item : Decoder α) : Decoder (List α) := fun limits cs =>
  match opening limits.size cs with
  | .error fault => .error (.ofSyntax fault)
  | .ok (.list rest) =>
    deeper limits fun limits => readItems (item limits) (limits.size + 1) 0 [] rest
  | .ok other => .error (mismatch "a sequence" other)

/-- A member of a record: its name, and a decoder that yields how the value changes the record. -/
structure Member (σ : Type) where
  name : String
  decoder : Decoder (σ → σ)

/-- A member whose value is stored by `set`. -/
def member {σ α : Type} (name : String) (value : Decoder α) (set : α → σ → σ) : Member σ :=
  ⟨name, fun limits cs => (value limits cs).map fun (a, rest) => (set a, rest)⟩

/-- Reads the members of a record from a list.  The list may end early unless `expected` names
what a list of the full length is called. -/
def readPositional {σ : Type} (expected : Option String) (limits : Limits) :
    List (Member σ) → Nat → σ → List Char → Read σ
  | [], _, state, cs =>
    match endList cs with
    | .error fault => .error (.ofSyntax fault)
    | .ok rest => .ok (state, rest)
  | m :: ms, index, state, cs =>
    match nextItem (index == 0) cs with
    | .error fault => .error (.ofSyntax fault)
    | .ok (.closed rest) =>
      match expected with
      | some expected => .error (.ofShape (.invalidLength index expected))
      | none => .ok (state, rest)
    | .ok (.more rest) =>
      match m.decoder limits rest with
      | .error failure => .error (failure.under (.item index))
      | .ok (change, rest) => readPositional expected limits ms (index + 1) (change state) rest

/-- Reads the value of one named member of a record.  The state carries the names that have come
before. -/
def readNamed {σ : Type} (limits : Limits) (members : List (Member σ)) (name : String)
    (state : List String × σ) (cs : List Char) : Read (List String × σ) :=
  match members.find? fun m => m.name == name with
  | none =>
    let skip (cs : List Char) : Read Unit :=
      match skipValue limits.size cs with
      | .error fault => .error (.ofSyntax fault)
      | .ok rest => .ok ((), rest)
    (readMemberValue name skip cs).map fun (_, rest) => (state, rest)
  | some m =>
    if state.1.contains name then .error (.ofShape (.duplicateField name))
    else
      (readMemberValue name (m.decoder limits) cs).map fun (change, rest) =>
        ((name :: state.1, change state.2), rest)

/-- A record that starts as `start`.  `expected` is what messages call it; `fixedLength` is what
they call its list form if that has to be complete. -/
def record {σ : Type} (expected : String) (fixedLength : Option String) (members : List (Member σ))
    (start : σ) : Decoder σ := fun limits cs =>
  match opening limits.size cs with
  | .error fault => .error (.ofSyntax fault)
  | .ok (.list rest) =>
    deeper limits fun limits => readPositional fixedLength limits members 0 start rest
  | .ok (.object rest) =>
    deeper limits fun limits =>
      (readMembers limits.size (readNamed limits members) (limits.size + 1) true ([], start)
        rest).map fun ((_, state), rest) => (state, rest)
  | .ok other => .error (mismatch expected other)

/-- The alternative with a given name. -/
def alternative {α : Type} (known : List (String × α)) (name : String) : Except Failure α :=
  match known.find? fun k => k.1 == name with
  | some (_, a) => .ok a
  | none => .error (.ofShape (.unknownVariant name (known.map Prod.fst)))

/-- Reads the name of the only member of an object, after the opening brace. -/
def readOnlyName (size : Nat) (cs : List Char) : Except SyntaxFault (String × List Char) :=
  match skipSpace cs with
  | [] => .error .unfinishedObject
  | c :: rest =>
    if c == '"' then readString size rest
    else if c == '}' then .error .expectedValue
    else .error .keyNotString

/-- Reads an alternative that is written as the only member of an object, with the value `null`,
after the opening brace. -/
def readKeyed {α : Type} (known : List (String × α)) (limits : Limits) (cs : List Char) :
    Read α :=
  match readOnlyName limits.size cs with
  | .error fault => .error (.ofSyntax fault)
  | .ok (name, rest) =>
    match alternative known name, readColon rest with
    | .error failure, _ => .error failure
    | .ok _, .error fault => .error (.ofSyntax fault)
    | .ok a, .ok rest =>
      match unit limits rest with
      | .error failure => .error (failure.under (.member name))
      | .ok ((), rest) =>
        match skipSpace rest with
        | [] => .error (.ofSyntax .unfinishedObject)
        | c :: rest => if c == '}' then .ok (a, rest) else .error (.ofSyntax .expectedValue)

/-- One of several named alternatives, written as its name or as an object that maps the name to
`null`. -/
def variant {α : Type} (known : List (String × α)) : Decoder α := fun limits cs =>
  match skipSpace cs with
  | [] => .error (.ofSyntax .unfinishedValue)
  | c :: rest =>
    if c == '"' then
      match readString limits.size rest with
      | .error fault => .error (.ofSyntax fault)
      | .ok (name, rest) => (alternative known name).map (·, rest)
    else if c == '{' then deeper limits fun limits => readKeyed known limits rest
    else .error (.ofSyntax .expectedValue)

end Decoder

/-! ### Whole texts -/

/-- How deep brackets may nest in a text. -/
def greatestDepth : Nat := 127

/-- Decodes the value at the front of a text; what follows it is not looked at. -/
def decodeFront {α : Type} (decoder : Decoder α) (text : List Char) : Read α :=
  decoder ⟨greatestDepth, text.length⟩ text

/-- Decodes a text that holds one value and nothing else. -/
def decode {α : Type} (decoder : Decoder α) (text : String) : Except Failure α :=
  match decodeFront decoder text.toList with
  | .error failure => .error failure
  | .ok (a, rest) =>
    match skipSpace rest with
    | [] => .ok a
    | _ :: _ => .error (.ofSyntax .trailingCharacters)

/-- The value that a text holds. -/
def parse (text : String) : Except Failure Value := decode .any text

example : ((parse "[1, \x7b\"a\":null\x7d]").toOption.map Value.render) =
    some "[1,\x7b\"a\":null\x7d]" := by decide +kernel

end ContactBook.Json
