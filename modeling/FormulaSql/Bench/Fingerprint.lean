import FormulaSql.Bench.Value
import FormulaSql.Decimal.Fixed
import FormulaSql.Digest.Sha256

/-!
# Fingerprints

A value is fed to a digest as a row of bytes, `stream`. Decimals are rounded to six significant digits first, texts and
bytes have one mark. The items of sets and the keys of dictionaries are ordered by their own fingerprints, so that the
order in which they were put in does not show. Only the length of a list is written, no ends of its items. Below a depth
of eight nothing is looked at, and a list of more than two thousand items is abridged.

The digest is a parameter of the stream. So is an `Encoding`: what stands for something too deep, how a long list is
abridged, and how records and values of other kinds are fed.
-/

namespace FormulaSql.Bench.Fingerprint

/-- The bytes of a text. -/
def utf8 (s : String) : List UInt8 :=
  s.toUTF8.data.toList

/-- The double that stands for all doubles with the same six significant digits. -/
def rounded (x : Float) : Float :=
  Decimal.roundSignificant 6 x

/-- A rounded double as text. -/
def realText (x : Float) : String :=
  Decimal.text (rounded x)

/-- The greatest depth that is looked at. -/
def depthLimit : Nat := 8

/-- The greatest number of items of a list that is not abridged. -/
def itemLimit : Nat := 2000

/-- A mark, a count and the bytes of what is counted. -/
def counted (mark : String) (count : Nat) (body : List UInt8) : List UInt8 :=
  utf8 (mark ++ toString count) ++ body

/-- The extents of an array as a tuple. -/
def shapeText (shape : List Nat) : String :=
  match shape with
  | [n] => "(" ++ toString n ++ ",)"
  | ns => "(" ++ ", ".intercalate (ns.map toString) ++ ")"

/-- Puts entries into the order of their fingerprints and joins their bytes. -/
def inOrder (entries : List (String × List UInt8)) : List UInt8 :=
  (entries.mergeSort fun a b => a.1 ≤ b.1).flatMap (·.2)

/-- How values are fed that are too deep, too long, or of a kind of their own. -/
structure Encoding where
  /-- What stands for everything too deep. -/
  deep : List UInt8
  /-- A list that is too long, from what its items are fed as. -/
  long : List (List UInt8) → List UInt8
  /-- A record of a type, from the names of its fields and what their values are fed as. -/
  record : String → List (String × List UInt8) → List UInt8
  /-- Complex numbers, written values, objects and arrays. -/
  other : Value → List UInt8

namespace Encoding

/-- The bytes of something at a depth, or what stands for it if it is too deep. -/
@[macro_inline]
def capped (e : Encoding) (depth : Nat) (bytes : List UInt8) : List UInt8 :=
  if depthLimit < depth then e.deep else bytes

/-- A list, from what its items are fed as. -/
def listed (e : Encoding) (items : List (List UInt8)) : List UInt8 :=
  if items.length ≤ itemLimit then counted "L" items.length items.flatten else e.long items

mutual

/-- The bytes that stand for a value at a depth. -/
def stream (e : Encoding) (digest : List UInt8 → String) (depth : Nat) : Value → List UInt8
  | .null => e.capped depth (utf8 "None")
  | .bool b => e.capped depth (utf8 (Datum.boolText b))
  | .whole n => e.capped depth (utf8 (toString n))
  | .real x => e.capped depth (utf8 (realText x))
  | .text s => e.capped depth (utf8 ("s" ++ s))
  | .bytes _ data => e.capped depth (utf8 "s" ++ data)
  | .list items => e.capped depth (e.listed (itemStreams e digest (depth + 1) items))
  | .tuple items => e.capped depth (e.listed (itemStreams e digest (depth + 1) items))
  | .set _ items => e.capped depth (counted "S" items.length (inOrder (setPrints e digest (depth + 1) items)))
  | .dict entries =>
    e.capped depth (counted "D" entries.length (inOrder (entryStreams e digest (depth + 1) entries)))
  | .record name fields => e.capped depth (e.record name (fieldStreams e digest (depth + 1) fields))
  | .complex re im => e.capped depth (e.other (.complex re im))
  | .written typeName spelling => e.capped depth (e.other (.written typeName spelling))
  | .object home typeName => e.capped depth (e.other (.object home typeName))
  | .array code shape data => e.capped depth (e.other (.array code shape data))

/-- What the items of a list are fed as. -/
def itemStreams (e : Encoding) (digest : List UInt8 → String) (depth : Nat) : List Value → List (List UInt8)
  | [] => []
  | v :: vs => stream e digest depth v :: itemStreams e digest depth vs

/-- The items of a set: each is fed by its fingerprint. -/
def setPrints (e : Encoding) (digest : List UInt8 → String) (depth : Nat) : List Value → List (String × List UInt8)
  | [] => []
  | v :: vs =>
    let print := digest (stream e digest depth v)
    (print, utf8 print) :: setPrints e digest depth vs

/-- The entries of a dictionary: the fingerprint of the key, then the bytes of key and value. -/
def entryStreams (e : Encoding) (digest : List UInt8 → String) (depth : Nat) :
    List (Value × Value) → List (String × List UInt8)
  | [] => []
  | (k, v) :: es =>
    let key := stream e digest depth k
    (digest key, key ++ stream e digest depth v) :: entryStreams e digest depth es

/-- The names of the fields of a record, and what their values are fed as. -/
def fieldStreams (e : Encoding) (digest : List UInt8 → String) (depth : Nat) :
    List (String × Value) → List (String × List UInt8)
  | [] => []
  | (name, v) :: fs => (name, stream e digest depth v) :: fieldStreams e digest depth fs

end

/-- The encoding that fingerprints are made with: dots for what is too deep, the length and the first items of a long
list, a record as its fields, and everything else as it is written. -/
def plain : Encoding where
  deep := utf8 "..."
  long items := counted "L" items.length (items.take itemLimit).flatten
  record _ fields := counted "D" fields.length (fields.flatMap fun (name, bytes) => utf8 ("s" ++ name) ++ bytes)
  other
    | .complex re im => utf8 (realText re ++ "," ++ realText im)
    | .written _ spelling => utf8 spelling
    | .object home typeName => utf8 (home ++ "." ++ typeName)
    | .array code shape data => utf8 (code ++ shapeText shape) ++ data
    | _ => []

end Encoding

/-- The bytes that stand for a value at a depth. -/
def stream (digest : List UInt8 → String) (depth : Nat) (v : Value) : List UInt8 :=
  Encoding.plain.stream digest depth v

/-- The fingerprint of a value at a depth. -/
def fingerprint (v : Value) (depth : Nat) : String :=
  Digest.sha256 (stream Digest.sha256 depth v)

end FormulaSql.Bench.Fingerprint
