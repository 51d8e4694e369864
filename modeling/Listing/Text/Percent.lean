/-!
# Percent encoding

A byte of a query string may be written as a percent sign and two hexadecimal digits. `decode`
reads such a text and fails if the bytes are no UTF-8; a percent sign that two digits do not
follow stands for itself. `encode` writes every byte outside the unreserved characters that way,
and `decodeBytes_encodeBytes` says that reading undoes it.
-/

namespace Listing.Text.Percent

/-- The value of a hexadecimal digit, given as an ASCII byte. -/
def hexValue? (b : UInt8) : Option UInt8 :=
  if 48 ≤ b && b ≤ 57 then some (b - 48)
  else if 65 ≤ b && b ≤ 70 then some (b - 55)
  else if 97 ≤ b && b ≤ 102 then some (b - 87)
  else none

/-- The capital hexadecimal digit of a value below sixteen. -/
def hexDigit (v : UInt8) : UInt8 := if v < 10 then 48 + v else 55 + v

/-- Replaces each percent sign and its two digits by the byte they name. -/
def decodeBytes : List UInt8 → List UInt8
  | [] => []
  | 37 :: a :: b :: rest =>
    match hexValue? a, hexValue? b with
    | some hi, some lo => (hi * 16 + lo) :: decodeBytes rest
    | _, _ => 37 :: decodeBytes (a :: b :: rest)
  | x :: rest => x :: decodeBytes rest

/-- The bytes that are written as they are: letters, digits and the marks `-`, `.`, `_`, `~`. -/
def isUnreserved (b : UInt8) : Bool :=
  (48 ≤ b && b ≤ 57) || (65 ≤ b && b ≤ 90) || (97 ≤ b && b ≤ 122) ||
    b == 45 || b == 46 || b == 95 || b == 126

/-- One byte as it is written. -/
def encodeByte (b : UInt8) : List UInt8 :=
  if isUnreserved b then [b] else [37, hexDigit (b / 16), hexDigit (b % 16)]

/-- Every byte as it is written. -/
def encodeBytes (bs : List UInt8) : List UInt8 := bs.flatMap encodeByte

/-- The text that a percent encoded text stands for, if its bytes are UTF-8. -/
def decode (text : String) : Option String :=
  String.fromUTF8? ⟨(decodeBytes text.toUTF8.toList).toArray⟩

/-- The percent encoded form of a text. -/
def encode (text : String) : String :=
  String.ofList ((encodeBytes text.toUTF8.toList).map fun b => Char.ofNat b.toNat)

/-- The digits that are written for a byte name that byte. -/
theorem hexValue?_hexDigit (b : UInt8) :
    ∃ hi lo, hexValue? (hexDigit (b / 16)) = some hi ∧ hexValue? (hexDigit (b % 16)) = some lo ∧
      hi * 16 + lo = b := by
  have key : ∀ n : Fin 256, ∃ hi lo : UInt8,
      hexValue? (hexDigit (UInt8.ofNat n.val / 16)) = some hi ∧
      hexValue? (hexDigit (UInt8.ofNat n.val % 16)) = some lo ∧
      hi * 16 + lo = UInt8.ofNat n.val := by
    intro n
    refine ⟨UInt8.ofNat n.val / 16, UInt8.ofNat n.val % 16, ?_⟩
    revert n
    decide +kernel
  have hb : UInt8.ofNat b.toNat = b := UInt8.ofNat_toNat
  simpa [hb] using key ⟨b.toNat, b.toNat_lt⟩

/-- Reading what was written gives the bytes back. -/
theorem decodeBytes_encodeBytes (bs : List UInt8) : decodeBytes (encodeBytes bs) = bs := by
  induction bs with
  | nil => rfl
  | cons b bs ih =>
    simp only [encodeBytes, List.flatMap_cons] at ih ⊢
    by_cases h : isUnreserved b = true
    · have hne : b ≠ 37 := by
        rintro rfl
        exact absurd h (by decide)
      simp only [encodeByte, h, if_true, List.singleton_append]
      rw [decodeBytes]
      · rw [ih]
      · intro a c r hb
        exact absurd hb hne
    · obtain ⟨hi, lo, hhi, hlo, hb⟩ := hexValue?_hexDigit b
      simp only [encodeByte, h, Bool.false_eq_true, if_false, List.cons_append, List.nil_append]
      rw [decodeBytes]
      simp only [hhi, hlo, hb, ih]

end Listing.Text.Percent
