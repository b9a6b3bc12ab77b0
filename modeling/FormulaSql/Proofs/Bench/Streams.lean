import FormulaSql.Bench.Fingerprint

/-!
# Streams of values

What is fed to a digest for a value, part by part. The bytes of a text determine it (`utf8_inj`), too deep values are all
alike (`stream_deep`), and the bytes of items, entries and fields are what the stream of each of them gives, one after
the other (`itemStreams_eq`, `setPrints_eq`, `entryStreams_eq`, `fieldStreams_eq`).
-/

namespace FormulaSql.Bench.Fingerprint

/-! ## Bytes of texts -/

theorem utf8_append (a b : String) : utf8 (a ++ b) = utf8 a ++ utf8 b := by
  show (a ++ b).toByteArray.data.toList = a.toByteArray.data.toList ++ b.toByteArray.data.toList
  rw [String.toByteArray_append, ByteArray.toList_data_append]

/-- Different texts have different bytes. -/
theorem utf8_inj {a b : String} : utf8 a = utf8 b ↔ a = b := by
  constructor
  · intro h
    have hdata : a.toByteArray.data = b.toByteArray.data := Array.toList_inj.1 h
    exact String.toByteArray_inj.1 (ByteArray.ext hdata)
  · intro h
    rw [h]

/-! ## Parts of a value -/

namespace Encoding

variable (enc : Encoding) (digest : List UInt8 → String) {depth : Nat}

theorem capped_of_le (h : depth ≤ depthLimit) (bytes : List UInt8) : enc.capped depth bytes = bytes :=
  if_neg (Nat.not_lt.2 h)

/-- The fingerprint of a value at a depth. -/
def printOf (depth : Nat) (v : Value) : String :=
  digest (enc.stream digest depth v)

/-- The bytes of an entry of a dictionary: those of the key, then those of its value. -/
def entryBytes (depth : Nat) (entry : Value × Value) : List UInt8 :=
  enc.stream digest depth entry.1 ++ enc.stream digest depth entry.2

/-- Whatever is too deep looks the same. -/
theorem stream_deep (h : depthLimit < depth) (v : Value) : enc.stream digest depth v = enc.deep := by
  cases v <;> simp [stream, capped, h]

theorem itemStreams_eq (depth : Nat) (items : List Value) :
    enc.itemStreams digest depth items = items.map (enc.stream digest depth) := by
  induction items with
  | nil => simp [itemStreams]
  | cons v vs ih => simp [itemStreams, ih]

theorem setPrints_eq (depth : Nat) (items : List Value) : enc.setPrints digest depth items =
    items.map fun v => (enc.printOf digest depth v, utf8 (enc.printOf digest depth v)) := by
  induction items with
  | nil => simp [setPrints]
  | cons v vs ih => simp [setPrints, printOf, ih]

theorem entryStreams_eq (depth : Nat) (entries : List (Value × Value)) : enc.entryStreams digest depth entries =
    entries.map fun entry => (enc.printOf digest depth entry.1, enc.entryBytes digest depth entry) := by
  induction entries with
  | nil => simp [entryStreams]
  | cons entry entries ih => simp [entryStreams, printOf, entryBytes, ih]

theorem fieldStreams_eq (depth : Nat) (fields : List (String × Value)) : enc.fieldStreams digest depth fields =
    fields.map fun f => (f.1, enc.stream digest depth f.2) := by
  induction fields with
  | nil => simp [fieldStreams]
  | cons f fs ih => simp [fieldStreams, ih]

end Encoding

end FormulaSql.Bench.Fingerprint
