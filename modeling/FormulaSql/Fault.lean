import FormulaSql.Datum

/-!
# Faults

The causes for which reading, parsing or converting can stop, and the wording of each.
-/

namespace FormulaSql

/-- What was wanted of a value whose kind does not offer it. -/
inductive Demand where
  /-- Trimming a formula. -/
  | trim
  /-- Looking up a name. -/
  | lookup
  /-- Doubling the quotes of a text. -/
  | replace
  | lower
  | upper
  deriving Repr, DecidableEq

/-- The word for a demand in messages. -/
def Demand.name : Demand → String
  | trim => "lstrip"
  | lookup => "get"
  | replace => "replace"
  | lower => "lower"
  | upper => "upper"

/-- A cause of failure. -/
inductive Fault where
  /-- A matcher looked at the current character behind the end of the formula. -/
  | pastEnd
  /-- A parser has no token at all. -/
  | noToken
  /-- A parser would go on forever. -/
  | endless
  /-- A table token lacks one of its parts. -/
  | missingPart (name : String)
  /-- A value that is no table of parts was asked for one. -/
  | noParts (kind : Datum.Kind)
  /-- A value does not offer what is wanted of it. -/
  | unsupported (kind : Datum.Kind) (demand : Demand)
  /-- A pattern was applied to a value that is no text. -/
  | notText (kind : Datum.Kind)
  /-- The argument with this index is no text and cannot be joined to the others. -/
  | notJoined (index : Nat) (kind : Datum.Kind)
  /-- A name was to be set in a value that is no table of names. -/
  | notAssignable (kind : Datum.Kind)
  /-- A name was used as an index of a list. -/
  | notIndex
  deriving Repr, DecidableEq

/-- The wording of a fault. -/
def Fault.message : Fault → String
  | pastEnd => "string index out of range"
  | noToken => "list index out of range"
  | endless => "the tokens do not end"
  | missingPart name => Text.quoted name
  | noParts kind => "'" ++ kind.name ++ "' object is not subscriptable"
  | unsupported kind demand => "'" ++ kind.name ++ "' object has no attribute '" ++ demand.name ++ "'"
  | notText kind => "expected string or bytes-like object, got '" ++ kind.name ++ "'"
  | notJoined index kind =>
    "sequence item " ++ toString index ++ ": expected str instance, " ++ kind.name ++ " found"
  | notAssignable kind => "'" ++ kind.name ++ "' object does not support item assignment"
  | notIndex => "list indices must be integers or slices, not str"

end FormulaSql
