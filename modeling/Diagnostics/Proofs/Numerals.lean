import Diagnostics.Text.Integer
import Mathlib

/-!
# Numerals

What texts stand for integers, and for which. Digits may be of any script and may have single
underscores between them, a sign may stand before them, and blanks around all of it. Reading an
integer recognises these texts and no others, and it reads back what is written in ASCII digits.
-/

namespace Diagnostics.Text

/-- Digits with their values. A single underscore may stand between two of them. -/
inductive Digits : List Char → List ℕ → Prop
  | last {c : Char} {d : ℕ} (hdigit : digitValue? c = some d) : Digits [c] [d]
  | next {c : Char} {d : ℕ} {cs : List Char} {ds : List ℕ} (hdigit : digitValue? c = some d)
      (hrest : Digits cs ds) : Digits (c :: cs) (d :: ds)
  | spaced {c : Char} {d : ℕ} {cs : List Char} {ds : List ℕ} (hdigit : digitValue? c = some d)
      (hrest : Digits cs ds) : Digits (c :: '_' :: cs) (d :: ds)

/-- The signs of integers, of which the first is none, and the units that they stand for. -/
def signs : List (List Char × ℤ) :=
  [([], 1), (['+'], 1), (['-'], -1)]

/-- Characters that stand for an integer: blanks, a sign, digits in base ten, at most as many as are
read, and blanks. -/
def Numeral (cs : List Char) (n : ℤ) : Prop :=
  ∃ front sign unit digits values back, cs = front ++ (sign ++ digits ++ back) ∧
    (∀ c ∈ front, isIntegerBlank c = true) ∧ (∀ c ∈ back, isIntegerBlank c = true) ∧
    (sign, unit) ∈ signs ∧ Digits digits values ∧ values.length ≤ maximumDigits ∧
    n = unit * (Nat.ofDigits 10 values.reverse : ℕ)

/-- The three signs and their units. -/
theorem mem_signs_iff {sign : List Char} {unit : ℤ} :
    (sign, unit) ∈ signs ↔
      (sign = [] ∧ unit = 1) ∨ (sign = ['+'] ∧ unit = 1) ∨ (sign = ['-'] ∧ unit = -1) := by
  simp [signs]

section Digits

variable {c : Char} {cs : List Char} {d : ℕ} {values : List ℕ}

/-- A digit lies within ten characters from the zero of a script. -/
theorem exists_zero_of_digitValue? (h : digitValue? c = some d) :
    ∃ first ∈ zeros, d < 10 ∧ c = Char.ofNat (first + d) := by
  obtain ⟨first, hfirst, rfl⟩ := Option.map_eq_some_iff.mp h
  have hrange := List.find?_some hfirst
  rw [Bool.and_eq_true, decide_eq_true_eq, decide_eq_true_eq] at hrange
  refine ⟨first, List.mem_of_find?_eq_some hfirst, by omega, ?_⟩
  rw [Nat.add_sub_cancel' hrange.1, Char.ofNat_toNat]

/-- No digit is a blank, an underscore or a sign. -/
theorem not_isIntegerBlank_of_digitValue? (h : digitValue? c = some d) :
    isIntegerBlank c = false ∧ c ≠ '_' ∧ c ≠ '-' ∧ c ≠ '+' := by
  have hall : ∀ first ∈ zeros, ∀ d < 10, isIntegerBlank (Char.ofNat (first + d)) = false ∧
      Char.ofNat (first + d) ≠ '_' ∧ Char.ofNat (first + d) ≠ '-' ∧
      Char.ofNat (first + d) ≠ '+' := by
    decide +kernel
  obtain ⟨first, hfirst, hd, rfl⟩ := exists_zero_of_digitValue? h
  exact hall first hfirst d hd

/-- Digits begin with a digit. -/
theorem Digits.exists_head? (h : Digits cs values) :
    ∃ c d, cs.head? = some c ∧ digitValue? c = some d := by
  cases h with
  | last hdigit | next hdigit | spaced hdigit => exact ⟨_, _, rfl, hdigit⟩

/-- They end with one. -/
theorem Digits.exists_getLast? (h : Digits cs values) :
    ∃ c d, cs.getLast? = some c ∧ digitValue? c = some d := by
  induction h with
  | last hdigit => exact ⟨_, _, rfl, hdigit⟩
  | next hdigit hrest ih | spaced hdigit hrest ih =>
    obtain ⟨c, d, hlast, hdigit⟩ := ih
    exact ⟨c, d, by simp [List.getLast?_cons, hlast], hdigit⟩

/-- What may stand behind a digit: nothing, further digits, or digits behind an underscore. -/
def Continued (cs : List Char) (values : List ℕ) : Prop :=
  (cs = [] ∧ values = []) ∨ Digits cs values ∨ ∃ rest, cs = '_' :: rest ∧ Digits rest values

/-- Digits are a digit and what may stand behind it. -/
theorem digits_cons_iff :
    Digits (c :: cs) values ↔
      ∃ d ds, digitValue? c = some d ∧ values = d :: ds ∧ Continued cs ds := by
  constructor
  · intro h
    cases h with
    | last hdigit => exact ⟨_, _, hdigit, rfl, .inl ⟨rfl, rfl⟩⟩
    | next hdigit hrest => exact ⟨_, _, hdigit, rfl, .inr (.inl hrest)⟩
    | spaced hdigit hrest => exact ⟨_, _, hdigit, rfl, .inr (.inr ⟨_, rfl, hrest⟩)⟩
  · rintro ⟨d, ds, hdigit, rfl, ⟨rfl, rfl⟩ | hrest | ⟨rest, rfl, hrest⟩⟩
    · exact .last hdigit
    · exact .next hdigit hrest
    · exact .spaced hdigit hrest

/-- The values that are read are those of digits, and behind a digit those of what may stand
there. -/
theorem digitValues?_eq_some_iff :
    (digitValues? false cs = some values ↔ Digits cs values) ∧
      (digitValues? true cs = some values ↔ Continued cs values) := by
  have hunderscore (rest : List Char) (values : List ℕ) : ¬ Digits ('_' :: rest) values := by
    intro h
    obtain ⟨d, ds, hdigit, -⟩ := digits_cons_iff.mp h
    exact (not_isIntegerBlank_of_digitValue? hdigit).2.1 rfl
  induction cs generalizing values with
  | nil =>
    refine ⟨⟨nofun, nofun⟩, ⟨fun h => .inl ⟨rfl, (Option.some.inj h).symm⟩, ?_⟩⟩
    rintro (⟨-, rfl⟩ | h | ⟨rest, h, -⟩)
    · rfl
    · cases h
    · cases h
  | cons c cs ih =>
    by_cases hc : c = '_'
    · subst hc
      refine ⟨⟨nofun, fun h => absurd h (hunderscore cs values)⟩, ?_⟩
      rw [digitValues?, if_pos rfl, if_pos rfl, ih.1]
      refine ⟨fun h => .inr (.inr ⟨cs, rfl, h⟩), ?_⟩
      rintro (⟨h, -⟩ | h | ⟨rest, h, hrest⟩)
      · cases h
      · exact absurd h (hunderscore cs values)
      · exact (List.cons.inj h).2 ▸ hrest
    · have hread (afterDigit : Bool) :
          digitValues? afterDigit (c :: cs) = some values ↔ Digits (c :: cs) values := by
        rw [digitValues?, if_neg hc, digits_cons_iff]
        cases hdigit : digitValue? c with
        | none => simp
        | some d => simp [ih.2, eq_comm, and_comm]
      refine ⟨hread false, (hread true).trans ⟨fun h => .inr (.inl h), ?_⟩⟩
      rintro (⟨h, -⟩ | h | ⟨rest, h, -⟩)
      · cases h
      · exact h
      · exact absurd (List.cons.inj h).1 hc

/-- The number with the given digits is theirs in base ten. -/
theorem ofDigitValues_eq_ofDigits (values : List ℕ) :
    ofDigitValues values = Nat.ofDigits 10 values.reverse := by
  rw [Nat.ofDigits_eq_foldr, List.foldr_reverse, ofDigitValues]
  simp only [Nat.cast_id, Nat.add_comm]

/-- A natural number is read from digits, unless there are too many. -/
theorem natural?_eq_some_iff {n : ℕ} :
    natural? cs = some n ↔ ∃ values, Digits cs values ∧ values.length ≤ maximumDigits ∧
      n = Nat.ofDigits 10 values.reverse := by
  rw [natural?]
  cases hread : digitValues? false cs with
  | none =>
    refine ⟨nofun, ?_⟩
    rintro ⟨values, hdigits, -⟩
    rw [digitValues?_eq_some_iff.1.mpr hdigits] at hread
    cases hread
  | some values =>
    have hdigits := digitValues?_eq_some_iff.1.mp hread
    simp only [Option.ite_none_right_eq_some, Option.some.injEq, ofDigitValues_eq_ofDigits]
    constructor
    · rintro ⟨hlength, rfl⟩
      exact ⟨values, hdigits, hlength, rfl⟩
    · rintro ⟨values', hdigits', hlength, rfl⟩
      obtain rfl : values = values' := by
        rw [digitValues?_eq_some_iff.1.mpr hdigits', Option.some.injEq] at hread
        exact hread.symm
      exact ⟨hlength, rfl⟩

end Digits

section Trimming

variable {front cs back : List Char}

/-- Blanks around characters that neither begin nor end with one are taken away. -/
theorem trimInteger_append (hfront : ∀ c ∈ front, isIntegerBlank c = true)
    (hback : ∀ c ∈ back, isIntegerBlank c = true)
    (hhead : ∃ c, cs.head? = some c ∧ isIntegerBlank c = false)
    (hlast : ∃ c, cs.getLast? = some c ∧ isIntegerBlank c = false) :
    trimInteger (front ++ (cs ++ back)) = cs := by
  have hdrop {cs : List Char} (rest : List Char)
      (h : ∃ c, cs.head? = some c ∧ isIntegerBlank c = false) :
      (cs ++ rest).dropWhile isIntegerBlank = cs ++ rest := by
    obtain ⟨c, hc, hblank⟩ := h
    obtain ⟨tail, rfl⟩ := List.head?_eq_some_iff.mp hc
    exact List.dropWhile_cons_of_neg (by rw [hblank]; decide)
  have hreverse : ∃ c, cs.reverse.head? = some c ∧ isIntegerBlank c = false := by
    rwa [List.head?_reverse]
  have hend : (cs ++ back).reverse.dropWhile isIntegerBlank = cs.reverse := by
    rw [List.reverse_append, List.dropWhile_append_of_pos (by simpa using hback)]
    simpa using hdrop [] hreverse
  rw [trimInteger, List.dropWhile_append_of_pos hfront, hdrop back hhead, hend,
    List.reverse_reverse]

/-- What is taken away are blanks on either side. -/
theorem exists_eq_append_trimInteger (cs : List Char) :
    ∃ front back, cs = front ++ (trimInteger cs ++ back) ∧
      (∀ c ∈ front, isIntegerBlank c = true) ∧ ∀ c ∈ back, isIntegerBlank c = true := by
  refine ⟨cs.takeWhile isIntegerBlank, (cs.dropWhile isIntegerBlank).rtakeWhile isIntegerBlank,
    ?_, fun c hc => List.mem_takeWhile_imp hc, fun c hc => List.mem_rtakeWhile_imp hc⟩
  have hend : trimInteger cs ++ (cs.dropWhile isIntegerBlank).rtakeWhile isIntegerBlank =
      cs.dropWhile isIntegerBlank := List.rdropWhile_append_rtakeWhile
  rw [hend, List.takeWhile_append_dropWhile]

end Trimming

/-- An integer is read from what is left between blanks: a sign and the digits of a natural
number. -/
theorem integer?_eq_some_iff_signed {s : String} {n : ℤ} :
    integer? s = some n ↔ ∃ sign unit digits k, trimInteger s.toList = sign ++ digits ∧
      (sign, unit) ∈ signs ∧ natural? digits = some k ∧ n = unit * (k : ℤ) := by
  -- A numeral without a sign begins with a digit, so it is not taken for one with a sign.
  have hsign {c : Char} {cs : List Char} {k : ℕ} (h : natural? (c :: cs) = some k) :
      c ≠ '-' ∧ c ≠ '+' := by
    obtain ⟨values, hdigits, -⟩ := natural?_eq_some_iff.mp h
    obtain ⟨d, ds, hdigit, -⟩ := digits_cons_iff.mp hdigits
    exact (not_isIntegerBlank_of_digitValue? hdigit).2.2
  rw [integer?]
  constructor
  · intro h
    split at h
    · rename_i digits htrim
      cases hk : natural? digits with
      | none =>
        rw [hk] at h
        cases h
      | some k =>
        rw [hk] at h
        obtain rfl : -(k : ℤ) = n := Option.some.inj h
        exact ⟨['-'], -1, digits, k, htrim, by decide, hk, (Int.neg_one_mul _).symm⟩
    · rename_i digits htrim
      obtain ⟨k, hk, rfl⟩ := Option.map_eq_some_iff.mp h
      exact ⟨['+'], 1, digits, k, htrim, by decide, hk, (Int.one_mul _).symm⟩
    · obtain ⟨k, hk, rfl⟩ := Option.map_eq_some_iff.mp h
      exact ⟨[], 1, _, k, rfl, by decide, hk, (Int.one_mul _).symm⟩
  · rintro ⟨sign, unit, digits, k, htrim, hmem, hk, rfl⟩
    rcases mem_signs_iff.mp hmem with ⟨rfl, rfl⟩ | ⟨rfl, rfl⟩ | ⟨rfl, rfl⟩
    · rw [htrim, List.nil_append]
      split
      · exact absurd rfl (hsign hk).1
      · exact absurd rfl (hsign hk).2
      · rw [hk, Int.one_mul]
        rfl
    · rw [htrim, List.singleton_append]
      simp only [hk, Int.one_mul]
      rfl
    · rw [htrim, List.singleton_append]
      simp only [hk, Int.neg_mul, Int.one_mul]
      rfl

/-- Reading an integer recognises the numerals and no other texts. -/
theorem integer?_eq_some_iff {s : String} {n : ℤ} :
    integer? s = some n ↔ Numeral s.toList n := by
  rw [integer?_eq_some_iff_signed]
  constructor
  · rintro ⟨sign, unit, digits, k, htrim, hsign, hnatural, rfl⟩
    obtain ⟨front, back, hs, hfront, hback⟩ := exists_eq_append_trimInteger s.toList
    obtain ⟨values, hdigits, hlength, rfl⟩ := natural?_eq_some_iff.mp hnatural
    rw [htrim] at hs
    exact ⟨front, sign, unit, digits, values, back, hs, hfront, hback, hsign, hdigits, hlength,
      rfl⟩
  · rintro ⟨front, sign, unit, digits, values, back, hs, hfront, hback, hsign, hdigits, hlength,
      rfl⟩
    have hhead : ∃ c, (sign ++ digits).head? = some c ∧ isIntegerBlank c = false := by
      obtain ⟨c, d, hc, hdigit⟩ := hdigits.exists_head?
      rcases mem_signs_iff.mp hsign with ⟨rfl, -⟩ | ⟨rfl, -⟩ | ⟨rfl, -⟩
      · exact ⟨c, hc, (not_isIntegerBlank_of_digitValue? hdigit).1⟩
      · exact ⟨'+', rfl, by decide⟩
      · exact ⟨'-', rfl, by decide⟩
    have hlast : ∃ c, (sign ++ digits).getLast? = some c ∧ isIntegerBlank c = false := by
      obtain ⟨c, d, hc, hdigit⟩ := hdigits.exists_getLast?
      refine ⟨c, ?_, (not_isIntegerBlank_of_digitValue? hdigit).1⟩
      rw [List.getLast?_append, hc, Option.some_or]
    have htrim := trimInteger_append hfront hback hhead hlast
    rw [← hs] at htrim
    exact ⟨sign, unit, digits, _, htrim, hsign, natural?_eq_some_iff.mpr ⟨values, hdigits, hlength,
      rfl⟩, rfl⟩

section Written

/-- ASCII digits are digits with their values. -/
theorem digits_of_isDigit {cs : List Char} (hne : cs ≠ []) (h : ∀ c ∈ cs, c.isDigit = true) :
    Digits cs (cs.map fun c => c.toNat - '0'.toNat) := by
  have hall : ∀ d < 10, digitValue? (Char.ofNat (0x30 + d)) = some d := by decide
  have hdigit {c : Char} (h : c.isDigit = true) :
      digitValue? c = some (c.toNat - '0'.toNat) := by
    have hrange : 0x30 ≤ c.toNat ∧ c.toNat ≤ 0x39 := Char.isDigit_iff_toNat.mp h
    have hread := hall (c.toNat - 0x30) (by omega)
    rwa [Nat.add_sub_cancel' hrange.1, Char.ofNat_toNat] at hread
  induction cs with
  | nil => exact absurd rfl hne
  | cons c cs ih =>
    rw [List.forall_mem_cons] at h
    cases cs with
    | nil => exact .last (hdigit h.1)
    | cons next rest => exact .next (hdigit h.1) (ih (List.cons_ne_nil _ _) h.2)

/-- A written natural number has the digits of its value. -/
theorem exists_digits_repr (n : ℕ) :
    ∃ values, Digits n.repr.toList values ∧ values.length = n.repr.length ∧
      Nat.ofDigits 10 values.reverse = n := by
  refine ⟨_, digits_of_isDigit ?_ ?_, ?_, ?_⟩
  · rw [Nat.toList_repr]
    exact Nat.toDigits_ne_nil
  · rw [Nat.toList_repr]
    exact fun c hc => Nat.isDigit_of_mem_toDigits (by decide) (by decide) hc
  · rw [List.length_map, String.length_toList]
  · rw [← ofDigitValues_eq_ofDigits, ofDigitValues, List.foldl_map, Nat.toList_repr,
      ← Nat.ofDigitChars_eq_foldl, Nat.ofDigitChars_ten_toDigits]

/-- A written integer is a sign and the digits of its absolute value. -/
theorem exists_sign_toString (n : ℤ) :
    ∃ sign unit, (sign, unit) ∈ signs ∧ (toString n).toList = sign ++ n.natAbs.repr.toList ∧
      n = unit * (n.natAbs : ℤ) := by
  rw [Int.toString_eq_repr, Int.repr_eq_if]
  split
  · have hnat : n.toNat = n.natAbs := by omega
    exact ⟨[], 1, by decide, by rw [hnat]; rfl, by omega⟩
  · have hnat : (-n).toNat = n.natAbs := by omega
    exact ⟨['-'], -1, by decide, by rw [hnat, String.toList_append]; rfl, by omega⟩

/-- An integer that is written with no more digits than are read is read back. -/
theorem integer?_toString {n : ℤ} (h : n.natAbs.repr.length ≤ maximumDigits) :
    integer? (toString n) = some n := by
  obtain ⟨values, hdigits, hlength, hvalue⟩ := exists_digits_repr n.natAbs
  obtain ⟨sign, unit, hsign, hwritten, hunit⟩ := exists_sign_toString n
  rw [integer?_eq_some_iff]
  refine ⟨[], sign, unit, _, values, [], ?_, nofun, nofun, hsign, hdigits, by omega, ?_⟩
  · rw [hwritten, List.nil_append, List.append_nil]
  · rw [hvalue, ← hunit]

/-- There is no colon in a written integer. -/
theorem colon_not_mem_toString (n : ℤ) : ':' ∉ (toString n).toList := by
  obtain ⟨sign, unit, hsign, hwritten, -⟩ := exists_sign_toString n
  have hfront : ':' ∉ sign := by
    rcases mem_signs_iff.mp hsign with ⟨rfl, -⟩ | ⟨rfl, -⟩ | ⟨rfl, -⟩ <;> decide
  have hdigits : ':' ∉ n.natAbs.repr.toList := by
    rw [Nat.toList_repr]
    intro hmem
    exact absurd (Nat.isDigit_of_mem_toDigits (by decide) (by decide) hmem) (by decide)
  rw [hwritten, List.mem_append]
  exact not_or_intro hfront hdigits

end Written

end Diagnostics.Text
