import Listing.Text.Percent

/-!
# Percent Encoding Is Undone

What is written for a text is **plain**: it has letters, digits, four marks and percent signs,
so none of the characters that hold a query string together. What is read back from it is the
text, whatever its characters are.

What an encoded text says is told by `StandsFor`, character by character: a percent sign with
two hexadecimal digits stands for a byte, a plus sign for a blank, and every other character
for its UTF-8. The text is decoded if the bytes are the UTF-8 of some text (`Decodes`).

## Main results

* `isPlain_of_mem_encode` — every character of an encoded text is plain.
* `decode_encode` — reading an encoded text gives the text back.
* `standsFor_iff` — a text stands for the bytes that are read from it, and for no others.
* `decode_eq_some_iff`, `decodes_encode` — what is decoded, and what is written.
-/

namespace Listing.Text.Percent

/-- A **plain** character: a letter, a digit, a mark that is written as it is, or a percent
sign. -/
def isPlain (c : Char) : Bool := c.isAlphanum || c ∈ ['-', '.', '_', '~', '%']

/-- Each byte that is written is the UTF-8 of a plain character. -/
theorem plain_encodeByte (b : UInt8) : ∀ x ∈ encodeByte b,
    isPlain (Char.ofNat x.toNat) ∧ String.utf8EncodeChar (Char.ofNat x.toNat) = [x] := by
  have hall : ∀ n < 256, (encodeByte (UInt8.ofNat n)).all fun x =>
      isPlain (Char.ofNat x.toNat) ∧ String.utf8EncodeChar (Char.ofNat x.toNat) = [x] := by
    decide +kernel
  have hb := hall b.toNat b.toNat_lt_size
  rw [UInt8.ofNat_toNat] at hb
  exact fun x hx => of_decide_eq_true (List.all_eq_true.mp hb x hx)

/-- So is each of the bytes that are written for some. -/
theorem plain_encodeBytes (bs : List UInt8) : ∀ x ∈ encodeBytes bs,
    isPlain (Char.ofNat x.toNat) ∧ String.utf8EncodeChar (Char.ofNat x.toNat) = [x] := by
  intro x hx
  obtain ⟨b, -, hb⟩ := List.mem_flatMap.mp hx
  exact plain_encodeByte b x hb

/-- Every character of an encoded text is **plain**. -/
theorem isPlain_of_mem_encode {s : String} {c : Char} (h : c ∈ (encode s).toList) :
    isPlain c := by
  rw [encode, String.toList_ofList] at h
  obtain ⟨x, hx, rfl⟩ := List.mem_map.mp h
  exact (plain_encodeBytes _ x hx).1

/-! ### Bytes -/

/-- Collecting bytes one by one gives those that are left. -/
theorem toList_loop_eq (bytes : ByteArray) (i : Nat) (collected : List UInt8) :
    ByteArray.toList.loop bytes i collected = collected.reverse ++ bytes.data.toList.drop i := by
  fun_induction ByteArray.toList.loop bytes i collected with
  | case1 i collected hi ih =>
      have hlen : i < bytes.data.toList.length := by simpa using hi
      have hget : bytes.get! i = bytes.data[i]! := by
        cases bytes
        rfl
      rw [ih, List.drop_eq_getElem_cons hlen, hget, getElem!_pos bytes.data i hi]
      simp
  | case2 i collected hi =>
      have hlen : bytes.data.toList.length ≤ i := by simpa using hi
      rw [List.drop_eq_nil_of_le hlen, List.append_nil]

/-- The bytes of an array are the items of the array. -/
theorem toList_eq (bytes : ByteArray) : bytes.toList = bytes.data.toList := by
  rw [ByteArray.toList, toList_loop_eq]
  rfl

/-- The bytes of a text are the **UTF-8** of its characters. -/
theorem toUTF8_ofList (cs : List Char) :
    (String.ofList cs).toUTF8.toList = cs.flatMap String.utf8EncodeChar := by
  rw [String.toUTF8, String.toByteArray_ofList, toList_eq, List.utf8Encode,
    List.data_toByteArray]

/-- The UTF-8 of an encoded text is what is written for the bytes. -/
theorem toUTF8_encode (s : String) : (encode s).toUTF8.toList = encodeBytes s.toUTF8.toList := by
  have hsame : ∀ {bs : List UInt8}, (∀ b ∈ bs, String.utf8EncodeChar (Char.ofNat b.toNat) = [b]) →
      (bs.map fun b => Char.ofNat b.toNat).flatMap String.utf8EncodeChar = bs := by
    intro bs hbs
    induction bs with
    | nil => rfl
    | cons b bs ih =>
        obtain ⟨hb, hrest⟩ := List.forall_mem_cons.mp hbs
        rw [List.map_cons, List.flatMap_cons, hb, ih hrest]
        rfl
  rw [encode, toUTF8_ofList]
  exact hsame fun b hb => (plain_encodeBytes _ b hb).2

/-- Reading an encoded text gives the text **back**. -/
theorem decode_encode (s : String) : decode (encode s) = some s := by
  have hbytes : (⟨s.toUTF8.toList.toArray⟩ : ByteArray) = s.toByteArray := by
    rw [toList_eq]
    rfl
  rw [decode, toUTF8_encode, decodeBytes_encodeBytes, hbytes, String.fromUTF8?,
    dif_pos s.isValidUTF8]
  rfl

/-! ### What stands for what -/

/-- A **hexadecimal digit** of a value, small or capital. -/
def HexDigit (c : Char) (n : Nat) : Prop :=
  "0123456789abcdef".toList[n]? = some c ∨ "0123456789ABCDEF".toList[n]? = some c

instance (c : Char) (n : Nat) : Decidable (HexDigit c n) := inferInstanceAs (Decidable (_ ∨ _))

/-- Whether a text begins with two hexadecimal digits. -/
def BeginsWithByte (cs : List Char) : Prop :=
  ∃ a b rest hi lo, cs = a :: b :: rest ∧ HexDigit a hi ∧ HexDigit b lo

/-- An encoded text **stands for** bytes. -/
inductive StandsFor : List Char → List UInt8 → Prop
  /-- Nothing stands for nothing. -/
  | nil : StandsFor [] []
  /-- A percent sign and two hexadecimal digits stand for one byte. -/
  | byte {a b : Char} {hi lo : Nat} {cs : List Char} {bs : List UInt8} (ha : HexDigit a hi)
    (hb : HexDigit b lo) (h : StandsFor cs bs) :
    StandsFor ('%' :: a :: b :: cs) (UInt8.ofNat (16 * hi + lo) :: bs)
  /-- A plus sign stands for a blank. -/
  | blank {cs : List Char} {bs : List UInt8} (h : StandsFor cs bs) :
    StandsFor ('+' :: cs) (String.utf8EncodeChar ' ' ++ bs)
  /-- Every other character stands for itself, and so does a percent sign without digits. -/
  | self {c : Char} {cs : List Char} {bs : List UInt8} (hplus : c ≠ '+')
    (hpercent : c = '%' → ¬BeginsWithByte cs) (h : StandsFor cs bs) :
    StandsFor (c :: cs) (String.utf8EncodeChar c ++ bs)

/-- An encoded text **decodes** to a text if it stands for the UTF-8 of it. -/
def Decodes (cs : List Char) (s : String) : Prop :=
  StandsFor cs (s.toList.flatMap String.utf8EncodeChar)

/-- A character with a blank in place of a plus sign. -/
def unplus (c : Char) : Char := if c = '+' then ' ' else c

/-- The bytes of a text with blanks in place of plus signs. -/
def bytesOf (cs : List Char) : List UInt8 := (cs.map unplus).flatMap String.utf8EncodeChar

/-- A character is one byte below 128, or all of its bytes are larger. -/
theorem utf8EncodeChar_cases (c : Char) :
    (c.toNat < 128 ∧ String.utf8EncodeChar c = [UInt8.ofNat c.toNat]) ∨
      ∀ b ∈ String.utf8EncodeChar c, 128 ≤ b.toNat := by
  unfold String.utf8EncodeChar
  simp only
  split
  · next h => exact .inl ⟨Nat.lt_succ_of_le h, rfl⟩
  all_goals refine .inr fun b hb => ?_
  · split at hb
    · simp only [List.mem_cons, List.not_mem_nil, or_false] at hb
      rcases hb with rfl | rfl <;> rw [UInt8.toNat_ofNat'] <;> omega
    · split at hb
      · simp only [List.mem_cons, List.not_mem_nil, or_false] at hb
        rcases hb with rfl | rfl | rfl <;> rw [UInt8.toNat_ofNat'] <;> omega
      · simp only [List.mem_cons, List.not_mem_nil, or_false] at hb
        rcases hb with rfl | rfl | rfl | rfl <;> rw [UInt8.toNat_ofNat'] <;> omega

/-- Only a percent sign has the byte of a percent sign. -/
theorem percent_notMem {c : Char} (h : c ≠ '%') : 37 ∉ String.utf8EncodeChar c := by
  intro hmem
  rcases utf8EncodeChar_cases c with ⟨hlt, hbytes⟩ | hlarge
  · rw [hbytes, List.mem_singleton] at hmem
    have hnat : 37 = c.toNat % 256 := by
      rw [← UInt8.toNat_ofNat', ← hmem]
      rfl
    have hc : c.toNat = 37 := by omega
    rw [← Char.ofNat_toNat c, hc] at h
    exact h rfl
  · exact absurd (hlarge 37 hmem) (by decide)

/-- The digits of a value are read as that value. -/
theorem HexDigit.hexValue? {c : Char} {n : Nat} (h : HexDigit c n) :
    n < 16 ∧ c ≠ '+' ∧
      (String.utf8EncodeChar c).map hexValue? = [some (UInt8.ofNat n)] := by
  have hall : ∀ n < 16, ("0123456789abcdef".toList[n]?.toList ++
      "0123456789ABCDEF".toList[n]?.toList).all fun c => c ≠ '+' ∧
        (String.utf8EncodeChar c).map Percent.hexValue? = [some (UInt8.ofNat n)] := by
    decide +kernel
  have hlt : n < 16 := by
    rcases h with h | h <;> exact (List.getElem?_eq_some_iff.mp h).1
  have hmem := List.mem_append.mpr (h.imp Option.mem_toList.mpr Option.mem_toList.mpr)
  exact ⟨hlt, of_decide_eq_true (List.all_eq_true.mp (hall n hlt) c hmem)⟩

/-- A byte that is read as a value is a digit of it. -/
theorem hexDigit_of_hexValue? {b v : UInt8} (h : hexValue? b = some v) :
    b.toNat < 128 ∧ HexDigit (Char.ofNat b.toNat) v.toNat ∧ b ≠ 32 := by
  have hall : ∀ n < 256, (hexValue? (UInt8.ofNat n)).all fun v =>
      n < 128 ∧ HexDigit (Char.ofNat n) v.toNat ∧ UInt8.ofNat n ≠ 32 := by
    decide +kernel
  have hb := hall b.toNat b.toNat_lt_size
  rw [UInt8.ofNat_toNat, h] at hb
  exact of_decide_eq_true hb

/-- If the bytes of a text begin with one that is a digit, the text begins with it. -/
theorem exists_hexDigit {cs : List Char} {b v : UInt8} {rest : List UInt8}
    (h : bytesOf cs = b :: rest) (hb : hexValue? b = some v) :
    ∃ c more, cs = c :: more ∧ HexDigit c v.toNat ∧ rest = bytesOf more := by
  obtain ⟨hlt, hdigit, hblank⟩ := hexDigit_of_hexValue? hb
  cases cs with
  | nil => cases h
  | cons c more =>
      rw [bytesOf, List.map_cons, List.flatMap_cons] at h
      rcases utf8EncodeChar_cases (unplus c) with ⟨hsmall, hbytes⟩ | hlarge
      · rw [hbytes] at h
        obtain ⟨hhead, rfl⟩ := List.cons.inj h
        have hnat : b.toNat = (unplus c).toNat := by
          rw [← hhead, UInt8.toNat_ofNat', Nat.mod_eq_of_lt (by omega)]
        rw [hnat, Char.ofNat_toNat] at hdigit
        have hplus : c ≠ '+' := by
          rintro rfl
          exact hblank (by rw [← hhead]; rfl)
        rw [unplus, if_neg hplus] at hdigit
        exact ⟨c, more, rfl, hdigit, rfl⟩
      · obtain ⟨x, xs, hxs⟩ := List.exists_cons_of_ne_nil (String.utf8EncodeChar_ne_nil (c := unplus c))
        rw [hxs] at h hlarge
        obtain ⟨rfl, -⟩ := List.cons.inj h
        exact absurd (hlarge x List.mem_cons_self) (by omega)

/-- A byte that is no percent sign is read as it is. -/
theorem decodeBytes_cons {b : UInt8} (h : b ≠ 37) (rest : List UInt8) :
    decodeBytes (b :: rest) = b :: decodeBytes rest := by
  rw [decodeBytes]
  intro _ _ _ hb
  exact absurd hb h

/-- So are several. -/
theorem decodeBytes_append {front : List UInt8} (h : 37 ∉ front) (rest : List UInt8) :
    decodeBytes (front ++ rest) = front ++ decodeBytes rest := by
  induction front with
  | nil => rfl
  | cons b front ih =>
      obtain ⟨hb, hfront⟩ := List.ne_and_not_mem_of_not_mem_cons h
      rw [List.cons_append, decodeBytes_cons (Ne.symm hb), ih hfront, List.cons_append]

/-- A percent sign that no two digits follow is read as it is. -/
theorem decodeBytes_percent {cs : List Char} (h : ¬BeginsWithByte cs) :
    decodeBytes (37 :: bytesOf cs) = 37 :: decodeBytes (bytesOf cs) := by
  match hbytes : bytesOf cs with
  | [] => rfl
  | [b] => rfl
  | a :: b :: rest =>
      rw [decodeBytes]
      split
      · next hi lo ha hb =>
        refine absurd ?_ h
        obtain ⟨c, more, rfl, hc, hrest⟩ := exists_hexDigit hbytes ha
        obtain ⟨d, more, rfl, hd, -⟩ := exists_hexDigit hrest.symm hb
        exact ⟨c, d, more, _, _, rfl, hc, hd⟩
      · rfl

/-- What a text stands for is **read** from it. -/
theorem StandsFor.decodeBytes_eq {cs : List Char} {bs : List UInt8} (h : StandsFor cs bs) :
    decodeBytes (bytesOf cs) = bs := by
  induction h with
  | nil => rfl
  | @byte a b hi lo cs bs ha hb _ ih =>
      obtain ⟨hhi, haplus, hahex⟩ := ha.hexValue?
      obtain ⟨hlo, hbplus, hbhex⟩ := hb.hexValue?
      obtain ⟨x, hax, hx⟩ : ∃ x, String.utf8EncodeChar a = [x] ∧
          hexValue? x = some (UInt8.ofNat hi) := by simpa [List.map_eq_cons_iff] using hahex
      obtain ⟨y, hby, hy⟩ : ∃ y, String.utf8EncodeChar b = [y] ∧
          hexValue? y = some (UInt8.ofNat lo) := by simpa [List.map_eq_cons_iff] using hbhex
      have hbytes : bytesOf ('%' :: a :: b :: cs) = 37 :: x :: y :: bytesOf cs := by
        simp only [bytesOf, List.map_cons, List.flatMap_cons, unplus, if_neg haplus,
          if_neg hbplus, hax, hby]
        rfl
      rw [hbytes, decodeBytes]
      simp only [hx, hy, ih]
      rw [Nat.mul_comm, UInt8.ofNat_add, UInt8.ofNat_mul]
      rfl
  | blank _ ih =>
      rw [← ih]
      exact decodeBytes_append (by decide) _
  | @self c cs bs hplus hpercent _ ih =>
      have hbytes : bytesOf (c :: cs) = String.utf8EncodeChar c ++ bytesOf cs := by
        rw [bytesOf, List.map_cons, List.flatMap_cons, unplus, if_neg hplus]
        rfl
      rw [hbytes]
      by_cases hc : c = '%'
      · rw [← ih, hc]
        exact decodeBytes_percent (hpercent hc)
      · rw [decodeBytes_append (percent_notMem hc), ih]

/-- Every text stands for **something**. -/
theorem exists_standsFor : ∀ cs : List Char, ∃ bs, StandsFor cs bs
  | [] => ⟨_, .nil⟩
  | c :: cs => by
      by_cases hplus : c = '+'
      · obtain ⟨bs, h⟩ := exists_standsFor cs
        exact ⟨_, hplus ▸ StandsFor.blank h⟩
      by_cases hbyte : c = '%' ∧ BeginsWithByte cs
      · obtain ⟨rfl, a, b, rest, hi, lo, rfl, ha, hb⟩ := hbyte
        obtain ⟨bs, h⟩ := exists_standsFor rest
        exact ⟨_, .byte ha hb h⟩
      · obtain ⟨bs, h⟩ := exists_standsFor cs
        exact ⟨_, .self hplus (fun hc hbegins => hbyte ⟨hc, hbegins⟩) h⟩
termination_by cs => cs.length

/-- A text stands for the bytes that are **read from it**, and for no others. -/
theorem standsFor_iff {cs : List Char} {bs : List UInt8} :
    StandsFor cs bs ↔ decodeBytes (bytesOf cs) = bs := by
  refine ⟨StandsFor.decodeBytes_eq, ?_⟩
  rintro rfl
  obtain ⟨bs, h⟩ := exists_standsFor cs
  rwa [h.decodeBytes_eq]

/-- A text is read from bytes if they are its UTF-8. -/
theorem fromUTF8?_eq_some_iff {bs : List UInt8} {s : String} :
    String.fromUTF8? ⟨bs.toArray⟩ = some s ↔ bs = s.toList.flatMap String.utf8EncodeChar := by
  have hbytes : s.toByteArray.data.toList = s.toList.flatMap String.utf8EncodeChar := by
    rw [← toUTF8_ofList, String.ofList_toList, toList_eq]
    rfl
  rw [String.fromUTF8?]
  constructor
  · intro h
    split at h
    · obtain rfl := Option.some.inj h
      exact hbytes
    · cases h
  · rintro rfl
    have hsame : (⟨(s.toList.flatMap String.utf8EncodeChar).toArray⟩ : ByteArray) =
        s.toByteArray := by rw [← hbytes]
    rw [dif_pos (hsame ▸ s.isValidUTF8)]
    exact congrArg some (String.toByteArray_inj.mp hsame)

/-- A text, with blanks in place of plus signs, is read as what it **decodes** to. -/
theorem decode_eq_some_iff {cs : List Char} {s : String} :
    decode (String.ofList (cs.map unplus)) = some s ↔ Decodes cs s := by
  rw [decode, toUTF8_ofList, fromUTF8?_eq_some_iff, Decodes, standsFor_iff]
  rfl

/-- What is written for a text decodes to it. -/
theorem decodes_encode (s : String) : Decodes (encode s).toList s := by
  have hplus : (encode s).toList.map unplus = (encode s).toList := by
    refine (List.map_congr_left fun c hc => if_neg ?_).trans (List.map_id _)
    rintro rfl
    exact absurd (isPlain_of_mem_encode hc) (by decide)
  rw [← decode_eq_some_iff, hplus, String.ofList_toList, decode_encode]

end Listing.Text.Percent
