import Diagnostics.Proofs.Prefixes
import Diagnostics.Text.Utf8
import Mathlib.Tactic.IntervalCases

/-!
# Reading texts

The octets of a text are read back as the text, since the first octet of each character announces
how many follow and the bounds it sets are those of the character. What is read from a file has its
line breaks made alike, which changes a text exactly if it holds a carriage return.
-/

namespace Diagnostics.Text

/-- The octets of a text. -/
def octetsOf (s : String) : List UInt8 :=
  s.toUTF8.data.toList

/-- The octets of a text are those of its characters. -/
theorem octetsOf_eq (s : String) : octetsOf s = s.toList.flatMap String.utf8EncodeChar := by
  rw [octetsOf, String.toUTF8_eq_toByteArray]
  conv_lhs => rw [← String.ofList_toList (s := s), String.toByteArray_ofList]
  rw [List.utf8Encode, List.data_toByteArray, List.toList_toArray]

/-- The number of octets of a text. -/
theorem length_octetsOf (s : String) : (octetsOf s).length = octetCount s.toList := by
  rw [octetCount_eq_utf8ByteSize, String.ofList_toList]
  rfl

section Characters

/-- A number below 256 is an octet. -/
theorem toNat_octet {n : ℕ} (h : n < 256) : (UInt8.ofNat n).toNat = n :=
  UInt8.toNat_ofNat_of_lt' h

/-- The first octet of a character of two. -/
theorem utf8Lead?_two {bits : ℕ} (h : 2 ≤ bits) (h' : bits < 32) :
    utf8Lead? (bits + 192) = some { bits, following := 1 } := by
  interval_cases bits <;> rfl

/-- The first octet of a character of three. Its bounds leave out what two octets can say, and the
surrogates. -/
theorem utf8Lead?_three {bits : ℕ} (h : bits < 16) :
    utf8Lead? (bits + 224) = some
      { bits, following := 2, low := if bits = 0 then 0xa0 else 0x80,
        high := if bits = 13 then 0x9f else 0xbf } := by
  interval_cases bits <;> rfl

/-- The first octet of a character of four. Its bounds leave out what three octets can say, and what
is no code point. -/
theorem utf8Lead?_four {bits : ℕ} (h : bits < 5) :
    utf8Lead? (bits + 240) = some
      { bits, following := 3, low := if bits = 0 then 0x90 else 0x80,
        high := if bits = 4 then 0x8f else 0xbf } := by
  interval_cases bits <;> rfl

/-- An octet that continues a character adds six bits. -/
theorem continueUtf8_tail {bits low high count following digit : ℕ} {rest : List UInt8}
    (hdigit : digit < 64) (hlow : low ≤ digit + 128) (hhigh : digit + 128 ≤ high) :
    continueUtf8 bits low high count (following + 1) (UInt8.ofNat (digit + 128) :: rest) =
      continueUtf8 (bits * 64 + digit) 0x80 0xbf (count + 1) following rest := by
  rw [continueUtf8, toNat_octet (by omega), if_pos ⟨hlow, hhigh⟩, Nat.add_sub_cancel]

/-- The octets of a character are read as its code point. -/
theorem firstCodePoint_utf8EncodeChar (c : Char) (rest : List UInt8) :
    ∃ octet tail, String.utf8EncodeChar c = octet :: tail ∧
      firstCodePoint octet (tail ++ rest) = .ok (c.toNat, tail.length) := by
  have hvalid : c.val.toNat < 0xd800 ∨ (0xdfff < c.val.toNat ∧ c.val.toNat < 0x110000) := c.valid
  rw [show c.toNat = c.val.toNat from rfl]
  unfold String.utf8EncodeChar
  generalize c.val.toNat = n at *
  dsimp only
  -- One case for each number of octets; the digits of the code point in base 64 are put together.
  by_cases hone : n ≤ 127
  · refine ⟨_, _, if_pos hone, ?_⟩
    have hlead : utf8Lead? n = some { bits := n, following := 0 } := if_pos (by omega)
    rw [firstCodePoint, toNat_octet (by omega), hlead]
    rfl
  rw [if_neg hone]
  by_cases htwo : n ≤ 2047
  · refine ⟨_, _, if_pos htwo, ?_⟩
    have hdigits : n / 64 % 32 * 64 + n % 64 = n := by omega
    rw [firstCodePoint, toNat_octet (by omega), utf8Lead?_two (by omega) (by omega)]
    simp only [List.cons_append, List.nil_append]
    rw [continueUtf8_tail (by omega) (by omega) (by omega), continueUtf8, hdigits]
    rfl
  rw [if_neg htwo]
  by_cases hthree : n ≤ 65535
  · refine ⟨_, _, if_pos hthree, ?_⟩
    have hdigits : (n / 4096 % 16 * 64 + n / 64 % 64) * 64 + n % 64 = n := by omega
    rw [firstCodePoint, toNat_octet (by omega), utf8Lead?_three (by omega)]
    simp only [List.cons_append, List.nil_append]
    rw [continueUtf8_tail (by omega) (by split <;> omega) (by split <;> omega),
      continueUtf8_tail (by omega) (by omega) (by omega), continueUtf8, hdigits]
    rfl
  · refine ⟨_, _, if_neg hthree, ?_⟩
    have hdigits :
        ((n / 262144 % 8 * 64 + n / 4096 % 64) * 64 + n / 64 % 64) * 64 + n % 64 = n := by omega
    rw [firstCodePoint, toNat_octet (by omega), utf8Lead?_four (by omega)]
    simp only [List.cons_append, List.nil_append]
    rw [continueUtf8_tail (by omega) (by split <;> omega) (by split <;> omega),
      continueUtf8_tail (by omega) (by omega) (by omega),
      continueUtf8_tail (by omega) (by omega) (by omega), continueUtf8, hdigits]
    rfl

end Characters

/-- The octets of a character that has been read are passed. -/
theorem decodeFrom_length_append (position : ℕ) (octets rest : List UInt8) :
    decodeFrom position octets.length (octets ++ rest) =
      decodeFrom (position + octets.length) 0 rest := by
  induction octets generalizing position with
  | nil => rfl
  | cons octet octets ih =>
    rw [List.length_cons, List.cons_append, decodeFrom, ih]
    congr 1
    omega

/-- The octets of characters are read as the characters. -/
theorem decodeFrom_flatMap_utf8EncodeChar (position : ℕ) (cs : List Char) :
    decodeFrom position 0 (cs.flatMap String.utf8EncodeChar) = .ok cs := by
  induction cs generalizing position with
  | nil => rfl
  | cons c cs ih =>
    obtain ⟨octet, tail, hoctets, hcode⟩ :=
      firstCodePoint_utf8EncodeChar c (cs.flatMap String.utf8EncodeChar)
    rw [List.flatMap_cons, hoctets, List.cons_append, decodeFrom, hcode]
    simp only [decodeFrom_length_append, ih, Char.ofNat_toNat]
    rfl

/-- The octets of a text are read as the text. -/
theorem decodeUtf8_octetsOf (s : String) : decodeUtf8 (octetsOf s) = .ok s := by
  rw [decodeUtf8, octetsOf_eq, decodeFrom_flatMap_utf8EncodeChar]
  exact congrArg Except.ok String.ofList_toList

section Breaks

/-- Where line breaks are alike, there is no carriage return. -/
theorem not_mem_unifyBreaks (cs : List Char) : '\r' ∉ unifyBreaks cs := by
  induction cs using unifyBreaks.induct with
  | case1 => exact List.not_mem_nil
  | case2 cs ih =>
    rw [unifyBreaks, List.mem_cons, not_or]
    exact ⟨by decide, ih⟩
  | case3 cs hne ih =>
    rw [unifyBreaks, List.mem_cons, not_or]
    · exact ⟨by decide, ih⟩
    · exact hne
  | case4 c cs hpair hreturn ih =>
    rw [unifyBreaks, List.mem_cons, not_or]
    · exact ⟨fun heq => hreturn heq.symm, ih⟩
    · exact hpair
    · exact hreturn

/-- Making line breaks alike keeps a text exactly if it has no carriage return. -/
theorem unifyBreaks_eq_self_iff {cs : List Char} : unifyBreaks cs = cs ↔ '\r' ∉ cs := by
  constructor
  · intro h
    rw [← h]
    exact not_mem_unifyBreaks cs
  · intro h
    induction cs using unifyBreaks.induct with
    | case1 => rfl
    | case2 cs ih => exact absurd List.mem_cons_self h
    | case3 cs hne ih => exact absurd List.mem_cons_self h
    | case4 c cs hpair hreturn ih =>
      rw [unifyBreaks]
      · rw [ih fun hmem => h (List.mem_cons_of_mem c hmem)]
      · exact hpair
      · exact hreturn

/-- Making line breaks alike leaves something of every text that is not empty. -/
theorem unifyBreaks_eq_nil_iff {cs : List Char} : unifyBreaks cs = [] ↔ cs = [] := by
  constructor
  · intro h
    unfold unifyBreaks at h
    split at h
    · rfl
    · cases h
    · cases h
    · cases h
  · rintro rfl
    rfl

end Breaks

end Diagnostics.Text
