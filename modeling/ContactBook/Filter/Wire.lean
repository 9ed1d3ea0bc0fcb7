/-
**Filters as requests write them.**

A request writes a filter as a JSON object whose parts may all be missing.  A condition that was
written loosely is kept as it was written, with an empty name or a value of any shape, so that it
can be refused for itself; only what is not a filter at all fails here.

Main definitions:

* `ContactBook.WireCondition`, `ContactBook.WireFilter` — a filter as it is written;
* `ContactBook.WireFilter.decoder` — reading it;
* `ContactBook.WireFilter.parse` — reading it from a text of its own.
-/

import ContactBook.Filter
import ContactBook.Json.Decoder

set_option autoImplicit false

namespace ContactBook

open Json (Decoder)

/-- A condition as it is written. -/
structure WireCondition where
  field : String := ""
  operator : String := ""
  value : Json.Value := .null

/-- A filter as it is written. -/
structure WireFilter where
  conditions : List WireCondition := []
  connective : Connective := .all

/-- The words for the connectives that a request may use. -/
def Connective.words : List (String × Connective) :=
  [("AND", .all), ("and", .all), ("OR", .any), ("or", .any)]

namespace WireCondition

/-- The members of a condition. -/
def members : List (Decoder.Member WireCondition) :=
  [Decoder.member "field" .string fun s c => { c with field := s },
    Decoder.member "operator" .string fun s c => { c with operator := s },
    Decoder.member "value" .any fun v c => { c with value := v }]

/-- Reads a condition. -/
def decoder : Decoder WireCondition := .record "struct RawCondition" none members {}

end WireCondition

namespace WireFilter

/-- The members of a filter. -/
def members : List (Decoder.Member WireFilter) :=
  [Decoder.member "conditions" (.list WireCondition.decoder) fun cs f =>
      { f with conditions := cs },
    Decoder.member "logicalOperator" (.variant Connective.words) fun k f =>
      { f with connective := k }]

/-- Reads a filter. -/
def decoder : Decoder WireFilter := .record "struct RawFilterState" none members {}

/-- Reads a text that is a filter and nothing else. -/
def parse (text : String) : Except Json.Failure WireFilter := Json.decode decoder text

end WireFilter

example : ((WireFilter.parse "\x7b\"logicalOperator\":\"or\"\x7d").toOption.map (·.connective)) =
    some .any := by decide +kernel

end ContactBook
