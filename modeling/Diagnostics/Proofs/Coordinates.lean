import Diagnostics.Proofs.Lines

/-!
# The two coordinate systems of a source

Offsets in octets and pairs of a line and a column name the same places: the cuts between the
characters of the source. This file describes the answers of a source to every line number and
every offset, and shows that resolving an offset and measuring a line and a column are inverse to
each other and keep the order.
-/

namespace Diagnostics.Source

/-- A look-up succeeds exactly when the line has an entry. -/
theorem atLine_eq_ok_iff {α : Type} {source : Source} {table : List α} {line : ℤ} {entry : α} :
    source.atLine table line = .ok entry ↔ 1 ≤ line ∧ table[(line - 1).toNat]? = some entry := by
  unfold atLine
  by_cases hline : 1 ≤ line
  · cases table[(line - 1).toNat]? <;> simp [hline]
  · simp [hline]

/-- In a table with one entry for each line, a look-up refuses exactly the other numbers. -/
theorem atLine_eq_error {α : Type} {source : Source} {table : List α} {line : ℤ}
    (htable : table.length = source.lineCount) (hline : ¬(1 ≤ line ∧ line ≤ source.lineCount)) :
    source.atLine table line = .error (.lineOutOfRange line source.lineCount) := by
  have hnone : (if 1 ≤ line then table[(line - 1).toNat]? else none) = none := by
    by_cases hone : 1 ≤ line
    · rw [if_pos hone, List.getElem?_eq_none_iff, htable]
      omega
    · rw [if_neg hone]
  rw [atLine, hnone]

section Line

variable {source : Source} {line : ℕ} {before text behind : List Char}

/-- A line begins behind the octets before it. -/
theorem lineStart_eq_ok (h : LineAt source.chars line before text behind) :
    source.lineStart line = .ok (octetCount before) := by
  rw [lineStart, atLine_eq_ok_iff, lineFeeds, ← h.starts_getElem?]
  have := h.number
  exact ⟨by omega, by congr 1; omega⟩

/-- A line ends behind its text. -/
theorem lineEnd_eq_ok (h : LineAt source.chars line before text behind) :
    source.lineEnd line = .ok (octetCount before + octetCount text) := by
  rw [lineEnd, atLine_eq_ok_iff, lineFeeds, size, ← h.ends_getElem?]
  have := h.number
  exact ⟨by omega, by congr 1; omega⟩

/-- The text of a line. -/
theorem lineText_eq_ok (h : LineAt source.chars line before text behind) :
    source.lineText line = .ok (String.ofList text) := by
  rw [lineText, atLine_eq_ok_iff, List.getElem?_map]
  have := h.number
  have hentry := h.texts_getElem?
  refine ⟨by omega, ?_⟩
  rw [show ((line : ℤ) - 1).toNat = line - 1 by omega, hentry, Option.map_some]

end Line

/-- Every line number of a source belongs to a line. -/
theorem exists_lineAt {source : Source} {line : ℤ} (hone : 1 ≤ line)
    (hline : line ≤ source.lineCount) :
    ∃ (n : ℕ) (before text behind : List Char), line = n ∧
      LineAt source.chars n before text behind := by
  rw [lineCount_eq] at hline
  have hnumber : line.toNat ≤ 1 + source.chars.count '\n' := by omega
  obtain ⟨before, text, behind, h⟩ := LineAt.exists_of_le (by omega) hnumber
  exact ⟨line.toNat, before, text, behind, by omega, h⟩

/-- Line numbers below one or above the number of lines have no text. -/
theorem lineText_eq_error {source : Source} {line : ℤ}
    (hline : ¬(1 ≤ line ∧ line ≤ source.lineCount)) :
    source.lineText line = .error (.lineOutOfRange line source.lineCount) := by
  refine atLine_eq_error ?_ hline
  rw [List.length_map, length_cutAtFeeds, lineCount_eq, Nat.add_comm]

/-- The lines of a source that have a text are those from one to the number of lines. -/
theorem exists_lineText_iff {source : Source} {line : ℤ} :
    (∃ text, source.lineText line = .ok text) ↔ 1 ≤ line ∧ line ≤ source.lineCount := by
  constructor
  · rintro ⟨text, htext⟩
    by_contra hline
    rw [lineText_eq_error hline] at htext
    cases htext
  · rintro ⟨hone, hline⟩
    obtain ⟨n, before, text, behind, rfl, h⟩ := exists_lineAt hone hline
    exact ⟨_, lineText_eq_ok h⟩

/-- The text of a line of the source; empty for a number that belongs to no line. -/
def textAt (source : Source) (line : ℕ) : String :=
  String.ofList ((cutAtFeeds source.chars)[line - 1]?.getD [])

/-- A line of the source has its text. -/
theorem lineText_eq_textAt {source : Source} {line : ℕ} (hone : 1 ≤ line)
    (hline : line ≤ source.lineCount) : source.lineText line = .ok (source.textAt line) := by
  obtain ⟨n, before, text, behind, hn, h⟩ := @exists_lineAt source line (by omega) (by omega)
  obtain rfl : line = n := by exact_mod_cast hn
  rw [lineText_eq_ok h, textAt, h.texts_getElem?, Option.getD_some]

/-- All lines of the source but the last end in a line feed. -/
theorem hasLineFeed_eq_decide {source : Source} {line : ℕ} (hone : 1 ≤ line)
    (hline : line ≤ source.lineCount) :
    source.hasLineFeed line = .ok (decide (line < source.lineCount)) := by
  have hcount : source.lineCount = source.lineFeeds.length + 1 := rfl
  rw [hasLineFeed, atLine_eq_ok_iff]
  refine ⟨by omega, ?_⟩
  by_cases hlast : line < source.lineCount
  · rw [List.getElem?_append_left (by rw [List.length_map]; omega), List.getElem?_map,
      List.getElem?_eq_getElem (by omega), Option.map_some, decide_eq_true hlast]
  · rw [List.getElem?_append_right (by rw [List.length_map]; omega), List.length_map,
      decide_eq_false hlast]
    rw [show ((line : ℤ) - 1).toNat - source.lineFeeds.length = 0 by omega]
    rfl

/-- An offset resolves exactly when some prefix of the source has that many octets, and then to
the position behind that prefix. -/
theorem resolve_eq_ok_iff {source : Source} {offset : ℤ} {position : Position} :
    source.resolve offset = .ok position ↔
      ∃ k, offset = octetCount (source.chars.take k) ∧
        position = Position.after (source.chars.take k) := by
  have hseek : Position.start.seek offset.toNat source.chars = some position ↔
      ∃ k, octetCount (source.chars.take k) = offset.toNat ∧
        position = Position.after (source.chars.take k) := by
    rw [← Position.after_nil, Position.seek_after_eq_some_iff]
    rfl
  unfold resolve
  by_cases hrange : offset < 0 ∨ (source.size : ℤ) < offset
  · rw [if_pos hrange]
    simp only [reduceCtorEq, false_iff]
    rintro ⟨k, hk, -⟩
    have hle := octetCount_take_le source.chars k
    unfold size at hrange
    omega
  · rw [if_neg hrange]
    have hnat : ∀ k : ℕ, (octetCount (source.chars.take k) = offset.toNat ↔
        offset = octetCount (source.chars.take k)) := by
      intro k
      omega
    simp only [hnat] at hseek
    rw [← hseek]
    cases Position.start.seek offset.toNat source.chars <;> simp

/-- The prefix of `k` characters ends at a place that resolves. -/
theorem resolve_octetCount_take (source : Source) (k : ℕ) :
    source.resolve (octetCount (source.chars.take k)) =
      .ok (Position.after (source.chars.take k)) :=
  resolve_eq_ok_iff.mpr ⟨k, rfl, rfl⟩

/-- An offset that no prefix has is refused, as lying outside the source or inside a character. -/
theorem resolve_eq_error {source : Source} {offset : ℤ}
    (h : ∀ k, offset ≠ octetCount (source.chars.take k)) :
    source.resolve offset = .error (if offset < 0 ∨ (source.size : ℤ) < offset
      then .offsetOutside offset source.size else .offsetInsideCharacter offset) := by
  by_cases hrange : offset < 0 ∨ (source.size : ℤ) < offset
  · rw [resolve, if_pos hrange, if_pos hrange]
  · rw [resolve, if_neg hrange, if_neg hrange]
    cases hseek : Position.start.seek offset.toNat source.chars with
    | none => rfl
    | some position =>
      have hok : source.resolve offset = .ok position := by rw [resolve, if_neg hrange, hseek]
      obtain ⟨k, hk, -⟩ := resolve_eq_ok_iff.mp hok
      exact absurd hk (h k)

/-- The line of a resolved offset is found by counting the line feeds before it. -/
theorem line_of_resolve {source : Source} {offset : ℤ} {position : Position}
    (h : source.resolve offset = .ok position) :
    position.line = 1 + source.lineFeeds.countP (fun feed : ℕ => (feed : ℤ) < offset) := by
  obtain ⟨k, rfl, rfl⟩ := resolve_eq_ok_iff.mp h
  have hsplit := feedsFrom_append 0 (source.chars.take k) (source.chars.drop k)
  rw [List.take_append_drop] at hsplit
  rw [lineFeeds, hsplit, List.countP_append]
  have hfront : (feedsFrom 0 (source.chars.take k)).countP
      (fun feed : ℕ => ((feed : ℤ) < octetCount (source.chars.take k))) =
        (source.chars.take k).count '\n' := by
    rw [← length_feedsFrom 0, List.countP_eq_length]
    intro feed hfeed
    have := mem_feedsFrom hfeed
    rw [decide_eq_true_eq]
    omega
  have hback : (feedsFrom (0 + octetCount (source.chars.take k)) (source.chars.drop k)).countP
      (fun feed : ℕ => ((feed : ℤ) < octetCount (source.chars.take k))) = 0 := by
    rw [List.countP_eq_zero]
    intro feed hfeed
    have := mem_feedsFrom hfeed
    rw [decide_eq_true_eq]
    omega
  rw [hfront, hback]
  rfl

/-- Measuring the line and the column behind a prefix gives the octets of the prefix. -/
theorem offsetOf_after (source : Source) (k : ℕ) :
    source.offsetOf (Position.after (source.chars.take k)).line
        (Position.after (source.chars.take k)).column =
      .ok (octetCount (source.chars.take k)) := by
  have hline := LineAt.of_cut (source.chars.take k) (source.chars.drop k)
  rw [List.take_append_drop] at hline
  have hfront : (source.chars.take k).rdropWhile (· ≠ '\n') ++
      (source.chars.take k).rtakeWhile (· ≠ '\n') = source.chars.take k :=
    List.rdropWhile_append_rtakeWhile
  have hcolumn : (((Position.after (source.chars.take k)).column : ℤ) - 1).toNat =
      ((source.chars.take k).rtakeWhile (· ≠ '\n')).length := by
    change (((1 + _ : ℕ) : ℤ) - 1).toNat = _
    omega
  rw [offsetOf, lineText_eq_ok hline, lineStart_eq_ok hline]
  simp only [bind, Except.bind, String.length_ofList, String.toList_ofList, hcolumn,
    List.take_left]
  rw [if_pos]
  · simp only [pure, Except.pure, Except.ok.injEq]
    rw [← octetCount_append, hfront]
  · change (1 : ℤ) ≤ ((1 + _ : ℕ) : ℤ) ∧ ((1 + _ : ℕ) : ℤ) ≤ _
    rw [List.length_append]
    omega

/-- A line and a column of it are those of a place in the source, which has the offset that is
measured for them. -/
theorem exists_take_of_offsetOf_eq_ok {source : Source} {line column : ℤ} {text : String}
    (htext : source.lineText line = .ok text) (hcolumn : 1 ≤ column ∧ column ≤ text.length + 1) :
    ∃ k, line = (Position.after (source.chars.take k)).line ∧
      column = (Position.after (source.chars.take k)).column := by
  obtain ⟨hone, hline⟩ := exists_lineText_iff.mp ⟨text, htext⟩
  obtain ⟨n, before, cs, behind, rfl, h⟩ := exists_lineAt hone hline
  rw [lineText_eq_ok h, Except.ok.injEq] at htext
  subst htext
  rw [String.length_ofList] at hcolumn
  have htake : source.chars.take (before.length + (column - 1).toNat) =
      before ++ cs.take (column - 1).toNat := by
    rw [h.split, List.append_assoc, List.take_length_add_append,
      List.take_append_of_le_length (by omega)]
  refine ⟨before.length + (column - 1).toNat, ?_⟩
  have hunbroken : '\n' ∉ cs.take (column - 1).toNat := fun hmem =>
    h.unbroken (List.mem_of_mem_take hmem)
  rw [htake, Position.after_append_of_unbroken h.opens hunbroken, List.length_take]
  have := h.number
  constructor <;> simp only <;> omega

/-- A column that its line does not have is refused. -/
theorem offsetOf_eq_columnOutOfRange {source : Source} {line column : ℤ} {text : String}
    (htext : source.lineText line = .ok text)
    (hcolumn : ¬(1 ≤ column ∧ column ≤ text.length + 1)) :
    source.offsetOf line column = .error (.columnOutOfRange column line) := by
  rw [offsetOf, htext]
  simp only [bind, Except.bind, if_neg hcolumn]
  rfl

/-- A line that the source does not have is refused, whatever the column. -/
theorem offsetOf_eq_lineOutOfRange {source : Source} {line : ℤ} (column : ℤ)
    (hline : ¬(1 ≤ line ∧ line ≤ source.lineCount)) :
    source.offsetOf line column = .error (.lineOutOfRange line source.lineCount) := by
  rw [offsetOf, lineText_eq_error hline]
  rfl

/-- A line and a column have an offset exactly when the line has that column. -/
theorem exists_offsetOf_iff {source : Source} {line column : ℤ} :
    (∃ offset, source.offsetOf line column = .ok offset) ↔
      ∃ text, source.lineText line = .ok text ∧ 1 ≤ column ∧ column ≤ text.length + 1 := by
  constructor
  · rintro ⟨offset, hoffset⟩
    by_cases hline : 1 ≤ line ∧ line ≤ source.lineCount
    · obtain ⟨text, htext⟩ := exists_lineText_iff.mpr hline
      refine ⟨text, htext, ?_⟩
      by_contra hcolumn
      rw [offsetOf_eq_columnOutOfRange htext hcolumn] at hoffset
      cases hoffset
    · rw [offsetOf_eq_lineOutOfRange column hline] at hoffset
      cases hoffset
  · rintro ⟨text, htext, hcolumn⟩
    obtain ⟨k, rfl, rfl⟩ := exists_take_of_offsetOf_eq_ok htext hcolumn
    exact ⟨_, offsetOf_after source k⟩

/-- Measuring a line and a column succeeds with an offset exactly when resolving that offset gives
back the line and the column. -/
theorem offsetOf_eq_ok_iff {source : Source} {line column : ℤ} {offset : ℕ} :
    source.offsetOf line column = .ok offset ↔
      ∃ position, source.resolve offset = .ok position ∧ line = position.line ∧
        column = position.column := by
  constructor
  · intro h
    obtain ⟨text, htext, hcolumn⟩ := exists_offsetOf_iff.mp ⟨offset, h⟩
    obtain ⟨k, rfl, rfl⟩ := exists_take_of_offsetOf_eq_ok htext hcolumn
    rw [offsetOf_after, Except.ok.injEq] at h
    exact ⟨_, h ▸ resolve_octetCount_take source k, rfl, rfl⟩
  · rintro ⟨position, hposition, rfl, rfl⟩
    obtain ⟨k, hk, rfl⟩ := resolve_eq_ok_iff.mp hposition
    rw [offsetOf_after, Except.ok.injEq]
    exact_mod_cast hk.symm

/-- Of two offsets that resolve, the smaller has the earlier position. -/
theorem resolve_lt_iff {source : Source} {offset₁ offset₂ : ℤ} {position₁ position₂ : Position}
    (h₁ : source.resolve offset₁ = .ok position₁) (h₂ : source.resolve offset₂ = .ok position₂) :
    offset₁ < offset₂ ↔ position₁ < position₂ := by
  obtain ⟨j, rfl, rfl⟩ := resolve_eq_ok_iff.mp h₁
  obtain ⟨k, rfl, rfl⟩ := resolve_eq_ok_iff.mp h₂
  constructor
  · intro hlt
    exact Position.after_take_lt_of_octetCount_lt (by exact_mod_cast hlt)
  · intro hlt
    by_contra hge
    rcases Nat.lt_or_eq_of_le (show octetCount (source.chars.take k) ≤
      octetCount (source.chars.take j) by omega) with hgt | heq
    · exact Position.lt_irrefl _ (Position.lt_trans hlt
        (Position.after_take_lt_of_octetCount_lt hgt))
    · rw [take_eq_take_of_octetCount_eq heq] at hlt
      exact Position.lt_irrefl _ hlt

/-- Offsets and positions correspond. Exactly the offsets of prefixes resolve, to the line, column
and offset behind the prefix; any other integer is refused with the failure that carries it.
Measuring a line and a column is the inverse of resolving: it succeeds exactly for the lines of the
source and the columns of each line, one behind its last character included, and tells a bad line
from a bad column. Both directions keep the order. -/
theorem resolve_offsetOf_correspondence (source : Source) :
    (∀ (offset : ℤ) (position : Position), source.resolve offset = .ok position ↔
      ∃ k, offset = octetCount (source.chars.take k) ∧
        position = ⟨1 + (source.chars.take k).count '\n',
          1 + ((source.chars.take k).rtakeWhile (· ≠ '\n')).length,
          octetCount (source.chars.take k)⟩) ∧
    (∀ offset : ℤ, (∀ k, offset ≠ octetCount (source.chars.take k)) →
      source.resolve offset = .error (if offset < 0 ∨ (source.size : ℤ) < offset
        then .offsetOutside offset source.size else .offsetInsideCharacter offset)) ∧
    (∀ (offset : ℤ) (position : Position), source.resolve offset = .ok position →
      position.offset = offset ∧
        source.offsetOf position.line position.column = .ok position.offset) ∧
    (∀ (line column : ℤ) (offset : ℕ), source.offsetOf line column = .ok offset →
      ∃ position, source.resolve offset = .ok position ∧ position.line = line ∧
        position.column = column) ∧
    (∀ line : ℤ, (∃ text, source.lineText line = .ok text) ↔ 1 ≤ line ∧ line ≤ source.lineCount) ∧
    (∀ line column : ℤ, (∃ offset, source.offsetOf line column = .ok offset) ↔
      ∃ text, source.lineText line = .ok text ∧ 1 ≤ column ∧ column ≤ text.length + 1) ∧
    (∀ line column : ℤ, ¬(1 ≤ line ∧ line ≤ source.lineCount) →
      source.offsetOf line column = .error (.lineOutOfRange line source.lineCount)) ∧
    (∀ (line column : ℤ) (text : String), source.lineText line = .ok text →
      ¬(1 ≤ column ∧ column ≤ text.length + 1) →
      source.offsetOf line column = .error (.columnOutOfRange column line)) ∧
    (∀ (offset₁ offset₂ : ℤ) (position₁ position₂ : Position),
      source.resolve offset₁ = .ok position₁ → source.resolve offset₂ = .ok position₂ →
      (offset₁ < offset₂ ↔ position₁ < position₂)) := by
  refine ⟨fun _ _ => resolve_eq_ok_iff, fun _ => resolve_eq_error, ?_, ?_,
    fun _ => exists_lineText_iff, fun _ _ => exists_offsetOf_iff,
    fun _ column => offsetOf_eq_lineOutOfRange column, fun _ _ _ => offsetOf_eq_columnOutOfRange,
    fun _ _ _ _ => resolve_lt_iff⟩
  · intro offset position h
    obtain ⟨k, rfl, rfl⟩ := resolve_eq_ok_iff.mp h
    exact ⟨rfl, offsetOf_after source k⟩
  · intro line column offset h
    obtain ⟨position, hposition, rfl, rfl⟩ := offsetOf_eq_ok_iff.mp h
    exact ⟨position, hposition, rfl, rfl⟩

/-- The correspondence on two lines of which the first holds a character of two octets: the offset
inside it is refused, and the end of the text is the second column of the second line. -/
theorem resolve_offsetOf_correspondence_accented :
    (Source.mk "é\nb").resolve 1 = .error (.offsetInsideCharacter 1) ∧
      (Source.mk "é\nb").resolve 3 = .ok ⟨2, 1, 3⟩ ∧
      (Source.mk "é\nb").offsetOf 2 1 = .ok 3 ∧
      (Source.mk "é\nb").offsetOf 3 1 = .error (.lineOutOfRange 3 2) ∧
      (Source.mk "é\nb").offsetOf 2 3 = .error (.columnOutOfRange 3 2) ∧
      (⟨1, 2, 2⟩ : Position) < ⟨2, 1, 3⟩ := by
  obtain ⟨hresolve, hrefused, hmeasured, -, -, -, hline, hcolumn, horder⟩ :=
    resolve_offsetOf_correspondence ⟨"é\nb"⟩
  have hinside : ∀ k, (1 : ℤ) ≠ octetCount ((Source.mk "é\nb").chars.take k)
    | 0 | 1 | 2 => by decide
    | k + 3 => by
      rw [List.take_of_length_le (show (Source.mk "é\nb").chars.length ≤ k + 3 by
        exact Nat.le_add_left 3 k)]
      decide
  have hthird : (Source.mk "é\nb").resolve 3 = .ok ⟨2, 1, 3⟩ := (hresolve _ _).mpr ⟨2, by decide⟩
  exact ⟨hrefused 1 hinside, hthird, (hmeasured _ _ hthird).2, hline 3 1 (by decide),
    hcolumn 2 3 "b" (by decide) (by decide), (horder 2 3 _ _ (by decide) hthird).mp (by decide)⟩

end Diagnostics.Source
