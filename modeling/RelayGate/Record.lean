import RelayGate.Counter
import RelayGate.Gateway
import RelayGate.Marker
import RelayGate.Registry
import RelayGate.Rejection

/-!
# Stored records

A record is stored as the tag of its kind and its layout. An account may be longer than its record:
what is behind the record is never looked at, so a record that shrinks may be written over a longer
one.
-/

namespace RelayGate

/-- A type of records. -/
class Record (α : Type) where
  kind : RecordKind
  codec : Codec α

instance : Record Gateway := ⟨.gateway, Gateway.codec⟩

instance : Record Counter := ⟨.counter, Counter.codec⟩

instance : Record Marker := ⟨.marker, Marker.codec⟩

instance : Record Registry := ⟨.registry, Registry.codec⟩

namespace Record

variable {α : Type} [Record α]

/-- A record as it is stored. -/
def encode (r : α) : Bytes := (kind α).tag ++ codec.encode r

/-- Reads a record from behind a tag that is not looked at. -/
def decodeBody (α : Type) [Record α] (data : Bytes) : Except Rejection α :=
  match (codec : Codec α).decode (data.drop RecordKind.tagSize) with
  | some (r, _) => .ok r
  | none => .error (.access .malformedRecord)

/-- Reads a record, when the tag is the one of its kind. -/
def decode (α : Type) [Record α] (data : Bytes) : Except Rejection α := do
  ensure (RecordKind.tagSize ≤ data.length) (Rejection.access .noTag)
  ensure (data.take RecordKind.tagSize = (kind α).tag)
    { cause := .access .wrongTag, subject := some (.record (kind α)) : Rejection }
  decodeBody α data

/-- Writes a record over the front of an account's data: the data then, and whether the record fits.
Of one that does not fit, as much is written as there is room for. -/
def writeOver (data : Bytes) (r : α) : Bytes × Except Rejection Unit :=
  (Bytes.overwrite data (encode r),
    ensure ((encode r).length ≤ data.length) (Rejection.access .recordTooLong))

/-- An account's data with a record written over their front, when it fits. -/
def write (data : Bytes) (r : α) : Except Rejection Bytes := do
  let (written, result) := writeOver data r
  result
  pure written

end Record

end RelayGate
