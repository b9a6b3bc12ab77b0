import FormulaSql.Datum.Reader

/-!
# Reported errors

An error that stops a run is reported by its kind and its message.
-/

namespace FormulaSql.Bench

/-- An error as it is reported. -/
structure Raised where
  kind : String
  message : String
  deriving Repr, DecidableEq, Inhabited

namespace Raised

/-- The message of an error that was raised with some arguments: none is no message, one is that argument, which an
error for a missing key quotes, and several are listed. -/
def ofArgs (kind : String) (args : List Datum) : Raised :=
  ⟨kind,
    match args with
    | [] => ""
    | [d] => if kind = "KeyError" then d.listed else d.spell
    | ds => "(" ++ Datum.listedItems ds ++ ")"⟩

/-- The kind and the message in one line. -/
def line (r : Raised) : String :=
  r.kind ++ ": " ++ r.message

/-- A text that is not in the format of documents. -/
def ofRead (text : String) (e : Datum.ReadError) : Raised :=
  ⟨"JSONDecodeError", e.message text.toList⟩

/-- A value of a kind that does not offer a member. -/
def noMember (d : Datum) (member : String) : Raised :=
  ⟨"AttributeError", "'" ++ d.kind.name ++ "' object has no attribute '" ++ member ++ "'"⟩

/-- A key that a dictionary does not hold. -/
def missingKey (key : String) : Raised :=
  ⟨"KeyError", Text.quoted key⟩

/-- An index behind the end of a list. -/
def listIndex : Raised :=
  ⟨"IndexError", "list index out of range"⟩

end Raised

/-- Reads a document. -/
def readDocument (text : String) : Except Raised Datum :=
  (Datum.read text).mapError (Raised.ofRead text)

end FormulaSql.Bench
