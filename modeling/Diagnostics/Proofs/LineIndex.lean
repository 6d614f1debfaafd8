import Diagnostics.Proofs.Coordinates
import Diagnostics.Proofs.Decoding
import Diagnostics.Proofs.ExcerptCharacters

/-!
# The line index of a source

A source keeps the offsets of its line feeds, and all that it says of its lines is read from them.
This file relates the index to the octets of the text, where a line feed is one octet that occurs in
the encoding of no other character. So the lines are the pieces of the text between line feeds, the
octets from the start of a line to its end decode to its text, and a number that belongs to no line
is refused before any look-up.
-/

namespace Diagnostics

namespace Text

/-- The octet of the line feed occurs in the encoding of no other character. -/
theorem feed_mem_utf8EncodeChar_iff {c : Char} : 0x0a ∈ String.utf8EncodeChar c ↔ c = '\n' := by
  constructor
  · intro h
    have hoctet : ∀ n < 256, (0x0a : UInt8) = UInt8.ofNat n → n = 10 := by
      intro n hn heq
      have := congrArg UInt8.toNat heq
      rw [toNat_octet hn] at this
      exact this.symm
    unfold String.utf8EncodeChar at h
    dsimp only at h
    -- Only the encoding of one octet can be below 128.
    split at h
    · have hcode : c.val.toNat = 10 := hoctet _ (by omega) (List.mem_singleton.mp h)
      exact Char.ext (UInt32.toNat_inj.mp hcode)
    · exfalso
      split at h
      · simp only [List.mem_cons, List.not_mem_nil, or_false] at h
        rcases h with h | h <;> have := hoctet _ (by omega) h <;> omega
      · split at h
        · simp only [List.mem_cons, List.not_mem_nil, or_false] at h
          rcases h with h | h | h <;> have := hoctet _ (by omega) h <;> omega
        · simp only [List.mem_cons, List.not_mem_nil, or_false] at h
          rcases h with h | h | h | h <;> have := hoctet _ (by omega) h <;> omega
  · rintro rfl
    decide

/-- The octets of characters are as many as they are counted. -/
theorem length_flatMap_utf8EncodeChar (cs : List Char) :
    (cs.flatMap String.utf8EncodeChar).length = octetCount cs := by
  have hlength := length_octetsOf (String.ofList cs)
  rwa [octetsOf_eq, String.toList_ofList] at hlength

end Text

namespace Source

/-- The line feeds among characters have the offsets at which their octet stands. -/
theorem mem_feedsFrom_iff {offset i : ℕ} {cs : List Char} :
    offset + i ∈ feedsFrom offset cs ↔ (cs.flatMap String.utf8EncodeChar)[i]? = some 0x0a := by
  induction cs generalizing offset i with
  | nil => simp [feedsFrom]
  | cons c cs ih =>
    rw [List.flatMap_cons]
    by_cases hhere : i < c.utf8Size
    · -- Within the first character the octet is found only if the character is a line feed.
      rw [List.getElem?_append_left (by rwa [String.length_utf8EncodeChar])]
      by_cases hc : c = '\n'
      · subst hc
        obtain rfl : i = 0 := Nat.lt_one_iff.mp hhere
        rw [feedsFrom, if_pos rfl]
        exact iff_of_true List.mem_cons_self (by decide)
      · rw [feedsFrom, if_neg hc]
        constructor
        · intro hmem
          have := (mem_feedsFrom hmem).1
          omega
        · intro hoctet
          exact absurd (Text.feed_mem_utf8EncodeChar_iff.mp (List.mem_of_getElem? hoctet)) hc
    · obtain ⟨j, rfl⟩ := Nat.exists_eq_add_of_le (Nat.le_of_not_lt hhere)
      have hrest : offset + c.utf8Size + j ∈ feedsFrom (offset + c.utf8Size) cs ↔
          (cs.flatMap String.utf8EncodeChar)[j]? = some 0x0a := ih
      rw [List.getElem?_append_right (by rw [String.length_utf8EncodeChar]; omega),
        String.length_utf8EncodeChar, Nat.add_sub_cancel_left, ← hrest, Nat.add_assoc]
      have hsize := c.utf8Size_pos
      by_cases hc : c = '\n'
      · rw [feedsFrom, if_pos hc, List.mem_cons, or_iff_right (by omega)]
      · rw [feedsFrom, if_neg hc]

/-- The offsets of line feeds ascend. -/
theorem pairwise_feedsFrom (offset : ℕ) (cs : List Char) :
    (feedsFrom offset cs).Pairwise (· < ·) := by
  induction cs generalizing offset with
  | nil => exact .nil
  | cons c cs ih =>
    have hsize := c.utf8Size_pos
    rw [feedsFrom]
    split
    · refine .cons (fun feed hfeed => ?_) (ih _)
      have := (mem_feedsFrom hfeed).1
      omega
    · exact ih _

/-- The octets of a part of a source, between those before it and those behind it, decode to it. -/
theorem decodeUtf8_of_split {source : Source} {before part behind : List Char}
    (h : source.chars = before ++ part ++ behind) :
    Text.decodeUtf8 (((Text.octetsOf source.text).take (octetCount before + octetCount part)).drop
      (octetCount before)) = .ok (String.ofList part) := by
  have hsplit : source.text.toList = before ++ part ++ behind := h
  rw [Text.octetsOf_eq, hsplit, List.flatMap_append, List.flatMap_append,
    ← Text.length_flatMap_utf8EncodeChar before, ← Text.length_flatMap_utf8EncodeChar part,
    ← List.length_append, List.take_left, List.drop_left, Text.decodeUtf8,
    Text.decodeFrom_flatMap_utf8EncodeChar]
  rfl

/-- Whether an offset is that of a place between characters. -/
def IsCut (source : Source) (offset : ℕ) : Prop :=
  ∃ k, offset = octetCount (source.chars.take k)

/-- The places before and behind a line lie between characters. -/
theorem isCut_of_lineAt {source : Source} {line : ℕ} {before text behind : List Char}
    (h : LineAt source.chars line before text behind) :
    source.IsCut (octetCount before) ∧ source.IsCut (octetCount before + octetCount text) := by
  constructor
  · refine ⟨before.length, ?_⟩
    rw [h.split, List.append_assoc, List.take_left]
  · refine ⟨(before ++ text).length, ?_⟩
    rw [h.split, List.take_left, octetCount_append]

/-- Walking along the characters stops at an offset exactly if it lies between characters. -/
theorem isSome_seek_iff {source : Source} {offset : ℕ} :
    (Position.start.seek offset source.chars).isSome = true ↔ source.IsCut offset := by
  rw [Option.isSome_iff_exists, ← Position.after_nil]
  simp only [Position.seek_after_eq_some_iff, List.nil_append]
  constructor
  · rintro ⟨-, k, hk, -⟩
    exact ⟨k, hk.symm⟩
  · rintro ⟨k, hk⟩
    exact ⟨_, k, hk.symm, rfl⟩

/-- Every such place is found to be a boundary, as long as its offset is a number of sixty-four
bits. -/
theorem IsCut.isBoundary {source : Source} {offset : ℕ} (h : source.IsCut offset)
    (hsize : source.size < 0x8000000000000000) : source.isBoundary offset = .ok true := by
  have hle : offset ≤ source.size := by
    obtain ⟨k, rfl⟩ := h
    exact octetCount_take_le source.chars k
  have hnonneg : ¬(offset : ℤ) < 0 := by omega
  by_cases hend : (offset : ℤ) = source.size
  · rw [Source.isBoundary, if_pos hend]
  · rw [Source.isBoundary, if_neg hend, if_neg (by omega), if_neg hnonneg, if_pos (by omega),
      Int.toNat_natCast, isSome_seek_iff.mpr h]

/-- What the index says of a line of a source: where it starts and stops, counted in octets, and its
text. -/
structure IndexedLine (source : Source) (n : ℤ) (start stop : ℕ) (text : String) : Prop where
  lineStart_eq : source.lineStart n = .ok start
  lineEnd_eq : source.lineEnd n = .ok stop
  /-- All lines but the last end in a line feed. -/
  hasLineFeed_eq : source.hasLineFeed n = .ok (decide (n < source.lineCount))
  lineText_eq : source.lineText n = .ok text
  /-- A line starts at the beginning of the source or behind the line feed with the index before
  its own, which is there. -/
  starts : n = 1 ∧ start = 0 ∨
    1 < n ∧ ∃ feed, source.lineFeeds[(n - 2).toNat]? = some feed ∧ start = feed + 1
  /-- It stops at the line feed with its own index, which is there, or at the end of the source. -/
  stops : n < source.lineCount ∧ source.lineFeeds[(n - 1).toNat]? = some stop ∨
    n = source.lineCount ∧ stop = (Text.octetsOf source.text).length
  start_le : start ≤ stop
  stop_le : stop ≤ (Text.octetsOf source.text).length
  /-- The octets between its start and its end decode to its text. -/
  decodes : Text.decodeUtf8 (((Text.octetsOf source.text).take stop).drop start) = .ok text
  /-- No character is split at either end. -/
  start_cut : source.IsCut start
  stop_cut : source.IsCut stop

/-- Whether a number is refused by everything that is asked about a line. -/
structure Refuses (source : Source) (n : ℤ) : Prop where
  lineStart_eq : source.lineStart n = .error (.lineOutOfRange n source.lineCount)
  lineEnd_eq : source.lineEnd n = .error (.lineOutOfRange n source.lineCount)
  hasLineFeed_eq : source.hasLineFeed n = .error (.lineOutOfRange n source.lineCount)
  lineText_eq : source.lineText n = .error (.lineOutOfRange n source.lineCount)

/-- The number of octets of a source is that of its encoding. -/
theorem length_octetsOf_text (source : Source) :
    (Text.octetsOf source.text).length = source.size :=
  Text.length_octetsOf source.text

/-- The beginning of a line is the entry before it in the list of line feeds, plus one. -/
theorem starts_of_lineStart {source : Source} {n : ℤ} {start : ℕ}
    (h : source.lineStart n = .ok start) : n = 1 ∧ start = 0 ∨
      1 < n ∧ ∃ feed, source.lineFeeds[(n - 2).toNat]? = some feed ∧ start = feed + 1 := by
  obtain ⟨hone, hentry⟩ := atLine_eq_ok_iff.mp h
  rcases hone.eq_or_lt with rfl | hlater
  · left
    exact ⟨rfl, (Option.some.inj hentry).symm⟩
  · right
    rw [show (n - 1).toNat = (n - 2).toNat + 1 by omega, List.getElem?_cons_succ,
      List.getElem?_map, Option.map_eq_some_iff] at hentry
    obtain ⟨feed, hfeed, hstart⟩ := hentry
    exact ⟨hlater, feed, hfeed, hstart.symm⟩

/-- The end of a line is its entry in the list of line feeds, or the end of the source. -/
theorem stops_of_lineEnd {source : Source} {n : ℤ} {stop : ℕ} (h : source.lineEnd n = .ok stop) :
    n < source.lineCount ∧ source.lineFeeds[(n - 1).toNat]? = some stop ∨
      n = source.lineCount ∧ stop = (Text.octetsOf source.text).length := by
  obtain ⟨hone, hentry⟩ := atLine_eq_ok_iff.mp h
  have hcount : source.lineCount = source.lineFeeds.length + 1 := rfl
  by_cases hlast : (n - 1).toNat < source.lineFeeds.length
  · left
    rw [List.getElem?_append_left hlast] at hentry
    exact ⟨by omega, hentry⟩
  · right
    rw [List.getElem?_append_right (Nat.le_of_not_lt hlast), List.getElem?_singleton] at hentry
    split at hentry
    · rw [length_octetsOf_text]
      exact ⟨by omega, (Option.some.inj hentry).symm⟩
    · cases hentry

/-- Every line number of a source has its line in the index. -/
theorem exists_indexedLine {source : Source} {n : ℤ} (hone : 1 ≤ n) (hn : n ≤ source.lineCount) :
    ∃ start stop text, source.IndexedLine n start stop text := by
  obtain ⟨line, before, text, behind, rfl, h⟩ := exists_lineAt hone hn
  have hstart := lineStart_eq_ok h
  have hstop := lineEnd_eq_ok h
  obtain ⟨hcut, hcut'⟩ := isCut_of_lineAt h
  refine ⟨_, _, _, hstart, hstop, ?_, lineText_eq_ok h, starts_of_lineStart hstart,
    stops_of_lineEnd hstop, Nat.le_add_right _ _, ?_, decodeUtf8_of_split h.split, hcut, hcut'⟩
  · rw [hasLineFeed_eq_decide (by exact_mod_cast hone) (by exact_mod_cast hn)]
    simp only [Nat.cast_lt]
  · obtain ⟨k, hk⟩ := hcut'
    rw [hk, length_octetsOf_text]
    exact octetCount_take_le source.chars k

/-- Every other number is refused. -/
theorem refuses_of_not_line {source : Source} {n : ℤ}
    (hn : ¬(1 ≤ n ∧ n ≤ source.lineCount)) : source.Refuses n := by
  have hcount : source.lineCount = source.lineFeeds.length + 1 := rfl
  constructor
  · exact atLine_eq_error (by rw [List.length_cons, List.length_map, hcount]) hn
  · exact atLine_eq_error (by rw [List.length_append, List.length_singleton, hcount]) hn
  · exact atLine_eq_error (by
      rw [List.length_append, List.length_map, List.length_singleton, hcount]) hn
  · exact lineText_eq_error hn

/-- A line starts behind the line feed that ends the line before it. -/
theorem lineStart_succ_eq_ok {source : Source} {n : ℤ} {stop : ℕ}
    (h : source.lineEnd n = .ok stop) (hn : n < source.lineCount) :
    source.lineStart (n + 1) = .ok (stop + 1) := by
  obtain ⟨hone, -⟩ := atLine_eq_ok_iff.mp h
  obtain ⟨-, hfeed⟩ | ⟨hlast, -⟩ := stops_of_lineEnd h
  · rw [lineStart, atLine_eq_ok_iff, show (n + 1 - 1).toNat = (n - 1).toNat + 1 by omega,
      List.getElem?_cons_succ, List.getElem?_map, hfeed]
    exact ⟨by omega, rfl⟩
  · omega

/-- A piece of the text between line feeds is the text of the line with its number. -/
theorem lineText_eq_of_splitOn {source : Source} {i : ℕ} {piece : List Char}
    (h : (source.text.toList.splitOn '\n')[i]? = some piece) :
    source.lineText (i + 1) = .ok (String.ofList piece) := by
  rw [lineText, atLine_eq_ok_iff, List.getElem?_map, cutAtFeeds_eq_splitOn,
    show ((i : ℤ) + 1 - 1).toNat = i by omega]
  refine ⟨by omega, ?_⟩
  rw [show source.chars = source.text.toList from rfl, h, Option.map_some]

/-- The texts of the lines of a source, from the first to the last. -/
structure LineTexts (source : Source) (texts : List String) : Prop where
  length_eq : texts.length = source.lineCount
  lineText_eq : ∀ (i : ℕ) (text : String), texts[i]? = some text →
    source.lineText (i + 1) = .ok text
  /-- They are what the text is split into at line feeds, and at nothing else. -/
  split : texts.map String.toList = source.text.toList.splitOn '\n'
  unbroken : ∀ text ∈ texts, '\n' ∉ text.toList
  joined : "\n".intercalate texts = source.text

/-- The pieces of a source between line feeds are the texts of its lines. -/
theorem lineTexts_splitOn (source : Source) :
    source.LineTexts ((source.text.toList.splitOn '\n').map String.ofList) := by
  have hback : ((source.text.toList.splitOn '\n').map String.ofList).map String.toList =
      source.text.toList.splitOn '\n' := by
    rw [List.map_map]
    exact List.map_id'' (fun cs => String.toList_ofList) _
  constructor
  · rw [List.length_map, ← cutAtFeeds_eq_splitOn, length_cutAtFeeds, lineCount_eq, Nat.add_comm]
    rfl
  · intro i text htext
    obtain ⟨piece, hpiece, rfl⟩ := Option.map_eq_some_iff.mp (List.getElem?_map ▸ htext)
    exact lineText_eq_of_splitOn hpiece
  · exact hback
  · intro text htext hfeed
    obtain ⟨piece, hpiece, rfl⟩ := List.mem_map.mp htext
    rw [String.toList_ofList] at hfeed
    exact (Text.mem_and_ne_of_mem_splitOn hpiece hfeed).2 rfl
  · rw [← String.toList_inj, String.toList_intercalate, hback]
    exact List.intercalate_splitOn '\n'

/-- The line index splits the source. It holds the offsets of the octets that are line feeds, in
strictly ascending order, and there is one line more than entries. The texts of the lines are the
pieces of the source between line feeds, so they have none and are the source when joined by them.
The first line starts at offset zero, each further line behind the end of the line before it, and
the last ends with the source. To the number of a line everything that is asked about lines is
answered: no look-up misses the index, no line begins or ends inside a character and its octets
decode. Any other integer is refused by all of them with the number and the number of lines. -/
theorem lines_split_source (source : Source) :
    source.lineFeeds.Pairwise (· < ·) ∧
    (∀ offset, offset ∈ source.lineFeeds ↔
      (Text.octetsOf source.text)[offset]? = some 0x0a) ∧
    source.lineCount = source.lineFeeds.length + 1 ∧
    (∃ texts, source.LineTexts texts) ∧
    source.lineStart 1 = .ok 0 ∧
    (∀ (n : ℤ) (stop : ℕ), source.lineEnd n = .ok stop → n < source.lineCount →
      source.lineStart (n + 1) = .ok (stop + 1)) ∧
    source.lineEnd source.lineCount = .ok (Text.octetsOf source.text).length ∧
    (∀ n : ℤ, 1 ≤ n → n ≤ source.lineCount →
      ∃ start stop text, source.IndexedLine n start stop text) ∧
    (∀ n : ℤ, ¬(1 ≤ n ∧ n ≤ source.lineCount) → source.Refuses n) ∧
    (∀ offset, source.IsCut offset → source.size < 0x8000000000000000 →
      source.isBoundary offset = .ok true) := by
  have hfeeds : ∀ offset, offset ∈ source.lineFeeds ↔
      (Text.octetsOf source.text)[offset]? = some 0x0a := by
    intro offset
    have hmem := @mem_feedsFrom_iff 0 offset source.chars
    rwa [Nat.zero_add, chars, ← Text.octetsOf_eq] at hmem
  refine ⟨pairwise_feedsFrom 0 source.chars, hfeeds, rfl, ⟨_, lineTexts_splitOn source⟩, rfl,
    fun n stop => lineStart_succ_eq_ok, ?_, fun n => exists_indexedLine,
    fun n => refuses_of_not_line, fun offset => IsCut.isBoundary⟩
  have hcount : (1 : ℤ) ≤ source.lineCount := by
    rw [lineCount_eq]
    omega
  obtain ⟨start, stop, text, hline⟩ := exists_indexedLine hcount le_rfl
  obtain ⟨hlt, -⟩ | ⟨-, hstop⟩ := hline.stops
  · omega
  · rw [hline.lineEnd_eq, hstop]

/-- Three lines of which the first is empty and the second has a character of two octets. -/
theorem lines_split_source_accented :
    (Source.mk "\né\n").lineFeeds = [0, 3] ∧
      (Source.mk "\né\n").LineTexts ["", "é", ""] ∧
      (Source.mk "\né\n").lineStart 2 = .ok 1 ∧
      (∃ start stop text, (Source.mk "\né\n").IndexedLine 2 start stop text) ∧
      (Source.mk "\né\n").Refuses 4 ∧
      (Source.mk "\né\n").isBoundary 1 = .ok true := by
  obtain ⟨-, -, -, ⟨texts, htexts⟩, -, hnext, -, hlines, hrefused, hboundary⟩ :=
    lines_split_source ⟨"\né\n"⟩
  have hsplit : texts.map String.toList = [[], ['é'], []] := htexts.split.trans (by decide)
  have hall : texts = ["", "é", ""] := by
    have hback := congrArg (List.map String.ofList) hsplit
    rw [List.map_map] at hback
    exact (List.map_id'' (fun s => String.ofList_toList) texts).symm.trans hback
  exact ⟨by decide, hall ▸ htexts, hnext 1 0 (by decide) (by decide),
    hlines 2 (by decide) (by decide), hrefused 4 (by decide),
    hboundary 1 ⟨1, by decide⟩ (by decide)⟩

end Source

end Diagnostics
