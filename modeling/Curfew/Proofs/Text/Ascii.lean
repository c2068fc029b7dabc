import Curfew.Text.Utf8
import Mathlib.Tactic.Common

/-!
# Texts of ASCII characters

Each ASCII character is one byte, and that byte is read back as the character.

* `Bytes.ofString_ofList` — the bytes of a text are those of its characters, one after the other.
* `IsAscii`, and what is made of ASCII characters.
* **`decode_ofString`** — a text of ASCII characters is read back from its bytes.
-/

namespace Curfew

namespace Bytes

/-- Listing an array puts its bytes from `i` on behind what is listed already. -/
lemma toList_loop (array : ByteArray) (i : Nat) (listed : Bytes) :
    ByteArray.toList.loop array i listed = listed.reverse ++ array.data.toList.drop i := by
  fun_induction ByteArray.toList.loop array i listed with
  | case1 i listed hi ih =>
      have hsize : i < array.data.size := hi
      have hbyte : array.get! i = array.data[i] := getElem!_pos array.data i hsize
      rw [ih, hbyte, List.reverse_cons, List.append_assoc, List.singleton_append,
        ← Array.getElem_toList, ← List.drop_eq_getElem_cons]
  | case2 i listed hi =>
      have hend : array.data.toList.length ≤ i := by
        rw [Array.length_toList]
        exact Nat.le_of_not_lt hi
      rw [List.drop_of_length_le hend, List.append_nil]

/-- **The bytes of a text** are those of its characters. -/
theorem ofString_ofList (chars : List Char) :
    ofString (String.ofList chars) = chars.flatMap String.utf8EncodeChar := by
  rw [ofString, String.toUTF8_eq_toByteArray, String.toByteArray_ofList, ByteArray.toList,
    toList_loop, List.utf8Encode, List.toList_data_toByteArray]
  rfl

end Bytes

namespace Text

/-- A character of a single byte. -/
def IsAscii (c : Char) : Prop := c.toNat < 128

instance : DecidablePred IsAscii := fun c => inferInstanceAs (Decidable (c.toNat < 128))

namespace Utf8

/-- An ASCII character is a byte of its own, which is read as that character. -/
lemma step_ascii {c : Char} (h : IsAscii c) (pieces : List Piece) :
    (String.utf8EncodeChar c).foldl Scan.step ⟨none, pieces⟩ = ⟨none, .char c :: pieces⟩ := by
  have hbyte : String.utf8EncodeChar c = [UInt8.ofNat c.toNat] := by
    rw [String.utf8EncodeChar]
    exact if_pos (Nat.le_of_lt_succ h)
  have hnat : (UInt8.ofNat c.toNat).toNat = c.toNat :=
    UInt8.toNat_ofNat_of_lt (Nat.lt_trans h (by decide))
  have hlead : Lead.ofByte (UInt8.ofNat c.toNat) = .ascii c := by
    rw [Lead.ofByte, if_pos (UInt8.lt_iff_toNat_lt.mpr (by rw [hnat]; exact h)), hnat,
      Char.ofNat_toNat]
  rw [hbyte]
  simp only [List.foldl_cons, List.foldl_nil, Scan.step, Scan.begin, hlead]

/-- Scanning ASCII characters yields a piece for each. -/
lemma foldl_ascii {chars : List Char} (h : ∀ c ∈ chars, IsAscii c) (pieces : List Piece) :
    (chars.flatMap String.utf8EncodeChar).foldl Scan.step ⟨none, pieces⟩ =
      ⟨none, (chars.map Piece.char).reverse ++ pieces⟩ := by
  induction chars generalizing pieces with
  | nil => rfl
  | cons c chars ih =>
      rw [List.flatMap_cons, List.foldl_append, step_ascii (h c List.mem_cons_self),
        ih fun d hd => h d (List.mem_cons_of_mem c hd)]
      simp

lemma mapM_char (chars : List Char) : (chars.map Piece.char).mapM Piece.char? = some chars := by
  induction chars with
  | nil => rfl
  | cons c chars ih => rw [List.map_cons, List.mapM_cons, ih]; rfl

/-- **A text of ASCII characters** is read back from its bytes. -/
theorem decode_ofString {chars : List Char} (h : ∀ c ∈ chars, IsAscii c) :
    decode? (Bytes.ofString (String.ofList chars)) = some (String.ofList chars) := by
  have hpieces : scan (Bytes.ofString (String.ofList chars)) = chars.map Piece.char := by
    rw [scan, Bytes.ofString_ofList, Scan.empty, foldl_ascii h, List.append_nil]
    exact List.reverse_reverse _
  rw [decode?, hpieces, mapM_char]
  rfl

end Utf8

end Text

end Curfew
