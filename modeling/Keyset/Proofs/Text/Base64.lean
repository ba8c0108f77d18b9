import Keyset.Base64
import Keyset.Text.Blank

/-! # Reading Base64 back

Reading the Base64 of bytes gives the bytes (`Keyset.Base64.decode?_encode`), and reading the
Base64 of a text the text (`Keyset.Base64.decodeText?_encodeText`). The alphabet holds neither
the mark of filling nor a blank, so blanks around an encoded text can be told from it
(`Keyset.Base64.not_isBlank_of_mem_encode`).
-/

namespace Keyset.Base64

theorem sextet?_sextetChar : ∀ n < 64, sextet? (sextetChar n) = some n := by decide

theorem sextetChar_ne_filling : ∀ n < 64, sextetChar n ≠ '=' := by decide

theorem not_isBlank_sextetChar : ∀ n < 64, Text.isBlank (sextetChar n) = false := by decide

theorem byte_eq {n : Nat} (a : UInt8) (same : n = a.toNat) : byte n = a := by
  rw [byte, same, UInt8.ofNat_toNat]

theorem decode?_encode (bytes : List UInt8) : decode? (encode bytes) = some bytes := by
  induction bytes using encode.induct with
  | case1 => rfl
  | case2 a =>
      have := a.toNat_lt
      simp only [encode, decode?, sextet?_sextetChar _ (show a.toNat / 4 < 64 by omega),
        sextet?_sextetChar _ (show a.toNat % 4 * 16 < 64 by omega), bind, Option.bind]
      rw [if_pos (beq_iff_eq.mpr (by omega)), byte_eq a (by omega)]
  | case3 a b =>
      have := a.toNat_lt
      have := b.toNat_lt
      have third : b.toNat % 16 * 4 < 64 := by omega
      rw [encode, decode?]
      · simp only [sextet?_sextetChar _ (show a.toNat / 4 < 64 by omega),
          sextet?_sextetChar _ (show a.toNat % 4 * 16 + b.toNat / 16 < 64 by omega),
          sextet?_sextetChar _ third, bind, Option.bind]
        rw [if_pos (beq_iff_eq.mpr (by omega)), byte_eq a (by omega), byte_eq b (by omega)]
      · exact sextetChar_ne_filling _ third
  | case4 a b c rest ih =>
      have := a.toNat_lt
      have := b.toNat_lt
      have := c.toNat_lt
      have fourth : c.toNat % 64 < 64 := by omega
      -- The last group of a text is a full one here: its last character is no filling.
      rw [encode, decode?]
      · simp only [sextet?_sextetChar _ (show a.toNat / 4 < 64 by omega),
          sextet?_sextetChar _ (show a.toNat % 4 * 16 + b.toNat / 16 < 64 by omega),
          sextet?_sextetChar _ (show b.toNat % 16 * 4 + c.toNat / 64 < 64 by omega),
          sextet?_sextetChar _ fourth, ih, bind, Option.bind]
        rw [byte_eq a (by omega), byte_eq b (by omega), byte_eq c (by omega)]
      · exact fun _ filling _ => sextetChar_ne_filling _ fourth filling
      · exact fun filling _ => sextetChar_ne_filling _ fourth filling

theorem not_isBlank_of_mem_encode (bytes : List UInt8) :
    ∀ c ∈ encode bytes, Text.isBlank c = false := by
  have filling : Text.isBlank '=' = false := by decide
  induction bytes using encode.induct with
  | case1 => exact List.forall_mem_nil _
  | case2 a =>
      have := a.toNat_lt
      simp only [encode, List.forall_mem_cons]
      exact ⟨not_isBlank_sextetChar _ (by omega), not_isBlank_sextetChar _ (by omega), filling,
        filling, List.forall_mem_nil _⟩
  | case3 a b =>
      have := a.toNat_lt
      have := b.toNat_lt
      simp only [encode, List.forall_mem_cons]
      exact ⟨not_isBlank_sextetChar _ (by omega), not_isBlank_sextetChar _ (by omega),
        not_isBlank_sextetChar _ (by omega), filling, List.forall_mem_nil _⟩
  | case4 a b c rest ih =>
      have := a.toNat_lt
      have := b.toNat_lt
      have := c.toNat_lt
      simp only [encode, List.forall_mem_cons]
      exact ⟨not_isBlank_sextetChar _ (by omega), not_isBlank_sextetChar _ (by omega),
        not_isBlank_sextetChar _ (by omega), not_isBlank_sextetChar _ (by omega), ih⟩

/-! ## Texts -/

theorem toList_loop_eq (bytes : ByteArray) {count start : Nat} (left : bytes.size - start = count)
    (front : List UInt8) :
    ByteArray.toList.loop bytes start front = front.reverse ++ bytes.data.toList.drop start := by
  induction count generalizing start front with
  | zero =>
      rw [ByteArray.toList.loop, if_neg (by omega), List.drop_eq_nil_of_le, List.append_nil]
      rw [Array.length_toList, ByteArray.size_data]
      omega
  | succ count ih =>
      have present : start < bytes.data.toList.length := by
        rw [Array.length_toList, ByteArray.size_data]
        omega
      rw [ByteArray.toList.loop, if_pos (by omega), ih (by omega), List.reverse_cons,
        List.append_assoc, List.singleton_append, List.drop_eq_getElem_cons present]
      have here : bytes.get! start = bytes.data.toList[start] :=
        getElem!_pos bytes.data start (by rwa [Array.length_toList] at present)
      rw [here]

theorem toList_eq_data (bytes : ByteArray) : bytes.toList = bytes.data.toList :=
  toList_loop_eq bytes rfl []

theorem decodeText?_encodeText (text : String) : decodeText? (encodeText text) = some text := by
  simp only [decodeText?, encodeText, String.toList_ofList, decode?_encode, toList_eq_data, bind,
    Option.bind, Array.toArray_toList]
  exact dif_pos text.isValidUTF8

end Keyset.Base64
