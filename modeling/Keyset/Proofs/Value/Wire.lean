import Keyset.Proofs.Json.RoundTrip
import Keyset.Value.Wire

/-! # Values through JSON

A value without doubles comes back from its JSON as itself, except that timestamps come back as
their texts (`Keyset.Value.ofAnyJson_toJson`). A plain value, which has neither at any depth, comes
back as itself where only values may stand (`Keyset.Value.ofJson?_toJson`). Values are written
without objects, so the order of members is nothing to them (`Keyset.Value.canonical_toJson`).
-/

namespace Keyset.Value

mutual

/-- Lists nested at most so deep, and no doubles. -/
def Fits : (depth : Nat) → Value → Prop
  | _, null => True
  | _, bool _ => True
  | _, int _ => True
  | _, float _ => False
  | _, string _ => True
  | _, timestamp _ => True
  | 0, array _ => False
  | depth + 1, array items => FitsItems depth items

def FitsItems (depth : Nat) : List Value → Prop
  | [] => True
  | item :: rest => Fits depth item ∧ FitsItems depth rest

end

mutual

/-- The value with every timestamp replaced by its text. -/
def untimed : Value → Value
  | timestamp t => string (t.text .letter)
  | array items => array (untimedItems items)
  | value => value

def untimedItems : List Value → List Value
  | [] => []
  | item :: rest => untimed item :: untimedItems rest

end

mutual

theorem fits_toJson (offset : Time.ZeroOffset) : ∀ (value : Value) (depth : Nat),
    Fits depth value → Json.Fits depth (value.toJson offset)
  | null, depth, _ => by cases depth <;> trivial
  | bool b, depth, _ => by cases depth <;> trivial
  | int n, depth, _ => by
      have low := n.le_toInt
      have high := n.toInt_lt
      rw [toJson, Json.Fits]
      exact ⟨low, Int.lt_trans high (by decide)⟩
  | float x, depth, fits => by cases depth <;> exact fits.elim
  | string s, depth, _ => by cases depth <;> trivial
  | timestamp t, depth, _ => by cases depth <;> trivial
  | array items, 0, fits => fits.elim
  | array items, depth + 1, fits => fitsItems_toJsons offset items depth fits

theorem fitsItems_toJsons (offset : Time.ZeroOffset) : ∀ (items : List Value) (depth : Nat),
    FitsItems depth items → Json.FitsItems depth (toJsons offset items)
  | [], _, _ => trivial
  | item :: rest, depth, fits =>
      ⟨fits_toJson offset item depth fits.1, fitsItems_toJsons offset rest depth fits.2⟩

end

theorem ofNumber_toInt (n : Int64) : ofNumber (.integer n.toInt) = int n := by
  simp only [ofNumber, n.minValue_le_toInt, n.toInt_le, decide_true, Bool.and_self, ↓reduceIte,
    Int64.ofInt_toInt]

mutual

theorem ofAnyJson_toJson : ∀ (value : Value) (depth : Nat), Fits depth value →
    ofAnyJson (value.toJson .letter) = value.untimed
  | null, _, _ => rfl
  | bool _, _, _ => rfl
  | int n, _, _ => ofNumber_toInt n
  | float _, depth, fits => by cases depth <;> exact fits.elim
  | string _, _, _ => rfl
  | timestamp _, _, _ => rfl
  | array _, 0, fits => fits.elim
  | array items, depth + 1, fits => congrArg array (ofAnyJsons_toJsons items depth fits)

theorem ofAnyJsons_toJsons : ∀ (items : List Value) (depth : Nat), FitsItems depth items →
    ofAnyJsons (toJsons .letter items) = untimedItems items
  | [], _, _ => rfl
  | item :: rest, depth, fits => by
      rw [toJsons, ofAnyJsons, untimedItems, ofAnyJson_toJson item depth fits.1,
        ofAnyJsons_toJsons rest depth fits.2]

end

mutual

/-- No doubles and no timestamps at any depth. -/
def Plain : Value → Prop
  | float _ => False
  | timestamp _ => False
  | array items => PlainItems items
  | _ => True

def PlainItems : List Value → Prop
  | [] => True
  | item :: rest => Plain item ∧ PlainItems rest

end

mutual

theorem untimed_of_plain : ∀ value : Value, Plain value → value.untimed = value
  | null, _ => rfl
  | bool _, _ => rfl
  | int _, _ => rfl
  | float _, plain => plain.elim
  | string _, _ => rfl
  | timestamp _, plain => plain.elim
  | array items, plain => congrArg array (untimedItems_of_plain items plain)

theorem untimedItems_of_plain : ∀ items : List Value, PlainItems items →
    untimedItems items = items
  | [], _ => rfl
  | item :: rest, plain => by
      rw [untimedItems, untimed_of_plain item plain.1, untimedItems_of_plain rest plain.2]

end

mutual

theorem ofJson?_toJson (offset : Time.ZeroOffset) : ∀ value : Value, Plain value →
    ofJson? (value.toJson offset) = some value
  | null, _ => rfl
  | bool _, _ => rfl
  | int n, _ => congrArg some (ofNumber_toInt n)
  | float _, plain => plain.elim
  | string _, _ => rfl
  | timestamp _, plain => plain.elim
  | array items, plain => by
      rw [toJson, ofJson?, ofJsons?_toJsons offset items plain]
      rfl

theorem ofJsons?_toJsons (offset : Time.ZeroOffset) : ∀ items : List Value, PlainItems items →
    ofJsons? (toJsons offset items) = some items
  | [], _ => rfl
  | item :: rest, plain => by
      rw [toJsons, ofJsons?, ofJson?_toJson offset item plain.1,
        ofJsons?_toJsons offset rest plain.2]
      rfl

end

mutual

theorem canonical_toJson (offset : Time.ZeroOffset) : ∀ value : Value,
    (value.toJson offset).canonical = value.toJson offset
  | null => rfl
  | bool _ => rfl
  | int _ => rfl
  | float x => by
      rw [toJson]
      split <;> rfl
  | string _ => rfl
  | timestamp _ => rfl
  | array items => congrArg Json.array (canonicalItems_toJsons offset items)

theorem canonicalItems_toJsons (offset : Time.ZeroOffset) : ∀ items : List Value,
    Json.canonicalItems (toJsons offset items) = toJsons offset items
  | [] => rfl
  | item :: rest => by
      rw [toJsons, Json.canonicalItems, canonical_toJson offset item,
        canonicalItems_toJsons offset rest]

end

end Keyset.Value
