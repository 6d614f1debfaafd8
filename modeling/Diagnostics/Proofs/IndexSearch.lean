import Diagnostics.Proofs.LineIndex

/-!
# Searching the line index

An offset is resolved by walking along the characters of a source. The same answer is found in its
octets and its line index alone. An octet that continues a character is told by its two highest
bits, so it is enough to look at the octet at the offset to know whether a character is split there.
The line is found by searching the index for the offset, and the column by decoding the octets
between the start of that line and the offset.
-/

namespace Diagnostics

namespace Text

/-- Whether an octet continues a character, as its two highest bits tell. -/
def continuesCharacter (octet : UInt8) : Bool :=
  octet &&& 0xc0 == 0x80

/-- The octets that continue a character are those from 128 to 191. -/
theorem continuesCharacter_ofNat {n : ℕ} (h : n < 256) :
    continuesCharacter (UInt8.ofNat n) = decide (128 ≤ n ∧ n < 192) := by
  revert n
  decide +kernel

/-- Of the octets of a character exactly the first continues none. -/
theorem utf8EncodeChar_eq_cons (c : Char) :
    ∃ lead tail, String.utf8EncodeChar c = lead :: tail ∧ continuesCharacter lead = false ∧
      ∀ octet ∈ tail, continuesCharacter octet = true := by
  have htail (n : ℕ) : continuesCharacter (UInt8.ofNat (n % 64 + 128)) = true := by
    rw [continuesCharacter_ofNat (by omega), decide_eq_true_eq]
    omega
  have hlead {n : ℕ} (h : n < 256) (h' : n < 128 ∨ 192 ≤ n) :
      continuesCharacter (UInt8.ofNat n) = false := by
    rw [continuesCharacter_ofNat h, decide_eq_false_iff_not]
    omega
  unfold String.utf8EncodeChar
  dsimp only
  split
  · exact ⟨_, _, rfl, hlead (by omega) (by omega), List.forall_mem_nil _⟩
  · split
    · exact ⟨_, _, rfl, hlead (by omega) (by omega), List.forall_mem_singleton.mpr (htail _)⟩
    · split
      · refine ⟨_, _, rfl, hlead (by omega) (by omega), ?_⟩
        exact List.forall_mem_cons.mpr ⟨htail _, List.forall_mem_singleton.mpr (htail _)⟩
      · refine ⟨_, _, rfl, hlead (by omega) (by omega), ?_⟩
        exact List.forall_mem_cons.mpr ⟨htail _, List.forall_mem_cons.mpr
          ⟨htail _, List.forall_mem_singleton.mpr (htail _)⟩⟩

end Text

namespace Source

/-- The places behind a first character are those between the others, after its octets. -/
theorem exists_take_cons_iff {c : Char} {cs : List Char} {j : ℕ} :
    (∃ k, c.utf8Size + j = octetCount ((c :: cs).take k)) ↔ ∃ k, j = octetCount (cs.take k) := by
  constructor
  · rintro ⟨k, hk⟩
    cases k with
    | zero =>
      have hsize := c.utf8Size_pos
      rw [List.take_zero, octetCount] at hk
      omega
    | succ k =>
      rw [List.take_succ_cons, octetCount] at hk
      exact ⟨k, by omega⟩
  · rintro ⟨k, rfl⟩
    exact ⟨k + 1, rfl⟩

/-- The places between characters are the end and the octets that continue no character. -/
theorem exists_take_iff_octet {cs : List Char} {i : ℕ} :
    (∃ k, i = octetCount (cs.take k)) ↔ i = octetCount cs ∨
      ∃ octet, (cs.flatMap String.utf8EncodeChar)[i]? = some octet ∧
        Text.continuesCharacter octet = false := by
  induction cs generalizing i with
  | nil => simp [octetCount]
  | cons c cs ih =>
    obtain ⟨lead, tail, hoctets, hlead, htail⟩ := Text.utf8EncodeChar_eq_cons c
    have hsize : tail.length + 1 = c.utf8Size := by
      rw [← String.length_utf8EncodeChar, hoctets, List.length_cons]
    rw [List.flatMap_cons, hoctets, octetCount]
    by_cases hzero : i = 0
    · subst hzero
      exact iff_of_true ⟨0, rfl⟩ (.inr ⟨lead, rfl, hlead⟩)
    · by_cases hhere : i < c.utf8Size
      · -- Behind the first octet of the first character no character begins before the second.
        obtain ⟨j, rfl⟩ := Nat.exists_eq_succ_of_ne_zero hzero
        refine iff_of_false ?_ ?_
        · rintro ⟨k, hk⟩
          cases k with
          | zero => exact hzero hk
          | succ k =>
            rw [List.take_succ_cons, octetCount] at hk
            omega
        · rintro (hend | ⟨octet, hoctet, hstarts⟩)
          · omega
          · rw [List.cons_append, List.getElem?_cons_succ,
              List.getElem?_append_left (by omega)] at hoctet
            rw [htail octet (List.mem_of_getElem? hoctet)] at hstarts
            cases hstarts
      · obtain ⟨j, rfl⟩ := Nat.exists_eq_add_of_le (Nat.le_of_not_lt hhere)
        have hlength : (lead :: tail).length = c.utf8Size := hsize
        rw [exists_take_cons_iff, ih, List.getElem?_append_right (by omega), hlength, Nat.add_sub_cancel_left,
          Nat.add_right_inj]

/-- Whether an offset is that of a place between characters can be told from the octet there. -/
theorem isCut_iff_octet {source : Source} {offset : ℕ} :
    source.IsCut offset ↔ offset = source.size ∨
      ∃ octet, (Text.octetsOf source.text)[offset]? = some octet ∧
        Text.continuesCharacter octet = false := by
  rw [Text.octetsOf_eq]
  exact exists_take_iff_octet

/-- An octet of a source stands before its end. -/
theorem lt_size_of_octet {source : Source} {i : ℕ} {octet : UInt8}
    (h : (Text.octetsOf source.text)[i]? = some octet) : i < source.size := by
  rw [← length_octetsOf_text]
  exact (List.getElem?_eq_some_iff.mp h).1

/-- A character begins at an octet exactly if the octet continues none. -/
theorem isCut_iff_of_octet {source : Source} {i : ℕ} {octet : UInt8}
    (h : (Text.octetsOf source.text)[i]? = some octet) :
    source.IsCut i ↔ Text.continuesCharacter octet = false := by
  have hlt := lt_size_of_octet h
  rw [isCut_iff_octet, h, or_iff_right (by omega)]
  simp only [Option.some.injEq, exists_eq_left']

/-- What the octets and the index of a source say of an offset that splits no character. -/
structure Searched (source : Source) (offset : ℕ) (position : Position) : Prop where
  le_size : offset ≤ (Text.octetsOf source.text).length
  /-- The octet at the offset, if there is one, continues no character. -/
  begins : ∀ octet, (Text.octetsOf source.text)[offset]? = some octet →
    Text.continuesCharacter octet = false
  /-- The line feeds before the offset decide the line. -/
  line_eq : position.line = source.lineFeeds.countP (· < offset) + 1
  /-- The octets between the start of the line and the offset decode to as many characters as there
  are columns before it. -/
  column_eq : ∃ start text, source.lineStart position.line = .ok start ∧
    Text.decodeUtf8 (((Text.octetsOf source.text).take offset).drop start) = .ok text ∧
    position.column = text.length + 1
  offset_eq : position.offset = offset

/-- The octets between the start of the line of a place and the place are those of the characters
there. -/
theorem decodeUtf8_take (source : Source) (k : ℕ) :
    ∃ start, source.lineStart (Position.after (source.chars.take k)).line = .ok start ∧
      Text.decodeUtf8 (((Text.octetsOf source.text).take
        (octetCount (source.chars.take k))).drop start) =
        .ok (String.ofList ((source.chars.take k).rtakeWhile (· ≠ '\n'))) := by
  have hline := LineAt.of_cut (source.chars.take k) (source.chars.drop k)
  rw [List.take_append_drop] at hline
  refine ⟨_, lineStart_eq_ok hline, ?_⟩
  have hfront : (source.chars.take k).rdropWhile (· ≠ '\n') ++
      (source.chars.take k).rtakeWhile (· ≠ '\n') = source.chars.take k :=
    List.rdropWhile_append_rtakeWhile
  have hsplit : source.chars = (source.chars.take k).rdropWhile (· ≠ '\n') ++
      (source.chars.take k).rtakeWhile (· ≠ '\n') ++ source.chars.drop k := by
    rw [hfront, List.take_append_drop]
  have hdecode := decodeUtf8_of_split hsplit
  rwa [← octetCount_append, hfront] at hdecode

/-- What is found for an offset is determined by it. -/
theorem Searched.unique {source : Source} {offset : ℕ} {position position' : Position}
    (h : source.Searched offset position) (h' : source.Searched offset position') :
    position = position' := by
  have hline : position.line = position'.line := h.line_eq.trans h'.line_eq.symm
  have hoffset : position.offset = position'.offset := h.offset_eq.trans h'.offset_eq.symm
  obtain ⟨start, text, hstart, htext, hcolumn⟩ := h.column_eq
  obtain ⟨start', text', hstart', htext', hcolumn'⟩ := h'.column_eq
  rw [hline, hstart', Except.ok.injEq] at hstart
  subst hstart
  rw [htext', Except.ok.injEq] at htext
  subst htext
  have hmk : position = ⟨position.line, position.column, position.offset⟩ := rfl
  rw [hmk, hline, hcolumn.trans hcolumn'.symm, hoffset]

/-- The position behind some characters is what is found for the offset there. -/
theorem searched_take (source : Source) (k : ℕ) :
    source.Searched (octetCount (source.chars.take k)) (Position.after (source.chars.take k)) := by
  have hle : octetCount (source.chars.take k) ≤ source.size := octetCount_take_le source.chars k
  obtain ⟨start, hstart, hdecode⟩ := decodeUtf8_take source k
  refine ⟨by rwa [length_octetsOf_text],
    fun octet hoctet => (isCut_iff_of_octet hoctet).mp ⟨k, rfl⟩, ?_,
    ⟨start, _, hstart, hdecode, ?_⟩, rfl⟩
  · have hline := line_of_resolve (resolve_octetCount_take source k)
    simp only [Nat.cast_lt] at hline
    rw [hline, Nat.add_comm]
  · rw [String.length_ofList, Nat.add_comm]
    rfl

/-- Resolving an offset finds what the octets and the index say. Since the index ascends, the line
feeds before the offset are its first entries. -/
theorem resolve_eq_ok_iff_searched {source : Source} {offset : ℕ} {position : Position} :
    source.resolve offset = .ok position ↔ source.Searched offset position := by
  constructor
  · intro h
    obtain ⟨k, hk, rfl⟩ := resolve_eq_ok_iff.mp h
    obtain rfl : offset = octetCount (source.chars.take k) := by exact_mod_cast hk
    exact searched_take source k
  · intro h
    have hcut : source.IsCut offset := by
      rw [isCut_iff_octet]
      rcases h.le_size.eq_or_lt with hend | hinside
      · exact .inl (hend.trans source.length_octetsOf_text)
      · have hoctet := List.getElem?_eq_getElem hinside
        exact .inr ⟨_, hoctet, h.begins _ hoctet⟩
    obtain ⟨k, rfl⟩ := hcut
    rw [resolve_octetCount_take, (searched_take source k).unique h]

/-- An offset whose octet continues a character is refused. -/
theorem resolve_eq_error_of_continues {source : Source} {offset : ℕ} {octet : UInt8}
    (hoctet : (Text.octetsOf source.text)[offset]? = some octet)
    (hcontinues : Text.continuesCharacter octet = true) :
    source.resolve offset = .error (.offsetInsideCharacter offset) := by
  have hlt := lt_size_of_octet hoctet
  have hcut : ¬source.IsCut offset := by
    rw [isCut_iff_of_octet hoctet, hcontinues]
    exact Bool.noConfusion
  rw [resolve_eq_error fun k hk => hcut ⟨k, by exact_mod_cast hk⟩, if_neg (by omega)]

/-- Whether an offset is a boundary is told by the octet there, which is found from the beginning or
from the end of the source. -/
theorem isBoundary_of_octet {source : Source} {i : ℕ} {octet : UInt8}
    (hoctet : (Text.octetsOf source.text)[i]? = some octet)
    (hsize : source.size < 0x8000000000000000) :
    source.isBoundary i = .ok (!Text.continuesCharacter octet) ∧
      source.isBoundary (i - source.size) = .ok (!Text.continuesCharacter octet) := by
  have hlt := lt_size_of_octet hoctet
  have htest : (Position.start.seek i source.chars).isSome = !Text.continuesCharacter octet := by
    rw [Bool.eq_iff_iff, isSome_seek_iff, isCut_iff_of_octet hoctet, Bool.not_eq_true']
  constructor
  · have hindex : ¬(i : ℤ) < 0 := by omega
    rw [isBoundary, if_neg (by omega), if_neg (by omega), if_neg hindex, if_pos (by omega),
      Int.toNat_natCast, htest]
  · have hindex : (i : ℤ) - source.size < 0 := by omega
    rw [isBoundary, if_neg (by omega), if_neg (by omega), if_pos hindex, Int.sub_add_cancel,
      if_pos (by omega), Int.toNat_natCast, htest]

end Source

end Diagnostics
