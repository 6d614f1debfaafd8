import Diagnostics.Proofs.Markers
import Diagnostics.Proofs.TextLines
import Mathlib

/-!
# Counting rows

Drawing goes down the displayed lines and picks the highlights of each. This file counts the rows
the other way round, highlight by highlight: each takes up rows under its own lines only, as many as
its messages have lines, and every line of a message stands in one of them.
-/

namespace Diagnostics.Excerpt

/-- The lines of a message. One that is absent or empty has none. -/
def messageLines (message : Option String) : List String :=
  message.elim [] Text.lines

/-- What a row shows of a message. -/
def Row.message? : Row → Option String
  | .gap | .source _ _ _ _ => none
  | .mark _ _ message => message
  | .continued _ _ message => some message

/-- The number of neighbours in a list that do not follow each other directly. -/
def gapCount : List ℕ → ℕ
  | [] => 0
  | [_] => 0
  | line :: next :: rest => (if line + 1 = next then 0 else 1) + gapCount (next :: rest)

/-- The number of rows that a highlight takes up: one for each line of a message, and one for a
marker or corner without a message. A highlight over several lines has two corners, any other one
marker and, for its second message, a hook. -/
def rowCount (a : Highlight) : ℕ :=
  let inline := messageLines a.span.inlineMessage
  let trailing := messageLines a.span.trailingMessage
  if a.multiline then max 1 inline.length + max 1 trailing.length
  else
    max 1 (if inline = [] then trailing else inline).length +
      if inline ≠ [] ∧ trailing ≠ [] then trailing.length else 0

section Messages

/-- The lines of a message with characters. -/
theorem messageLines_some {s : String} (h : s ≠ "") :
    messageLines (some s) = (Text.firstAndRest s).1 :: (Text.firstAndRest s).2 :=
  (Text.firstAndRest_eq_lines h).symm

/-- A message without lines is taken as absent. -/
theorem nonempty?_eq_none_iff {message : Option String} :
    Text.nonempty? message = none ↔ messageLines message = [] := by
  cases message with
  | none => simp [messageLines, Text.nonempty?]
  | some s => simp [messageLines, Text.nonempty?, Text.lines_eq_nil_iff]

/-- A message with lines is taken as it is. -/
theorem isSome_nonempty?_iff {message : Option String} :
    (Text.nonempty? message).isSome = true ↔ messageLines message ≠ [] := by
  rw [← Option.ne_none_iff_isSome, Ne, nonempty?_eq_none_iff]

/-- A message that is taken as present has the lines of its text. -/
theorem messageLines_nonempty? (message : Option String) :
    messageLines (Text.nonempty? message) = messageLines message := by
  cases hmessage : Text.nonempty? message with
  | none => exact (nonempty?_eq_none_iff.mp hmessage).symm
  | some s => rw [(Text.nonempty?_eq_some_iff.mp hmessage).1]

variable (cells below : List Cell) (head : Head) (message : Option String)

/-- The rows of a message show its lines, each once and in order. -/
theorem filterMap_message?_messageRows :
    (messageRows cells below head (Text.nonempty? message)).filterMap Row.message? =
      messageLines message := by
  rw [← messageLines_nonempty? message]
  cases hmessage : Text.nonempty? message with
  | none => rfl
  | some s =>
    have hrest : ∀ parts : List String,
        (parts.map (Row.continued below head)).filterMap Row.message? = parts := by
      intro parts
      rw [List.filterMap_map]
      exact List.filterMap_some
    rw [messageLines_some (Text.nonempty?_eq_some_iff.mp hmessage).2, messageRows_eq]
    exact congrArg (_ :: ·) (hrest _)

/-- A message has a row for each line, and one row if it has none. -/
theorem length_messageRows :
    (messageRows cells below head (Text.nonempty? message)).length =
      max 1 (messageLines message).length := by
  rw [← messageLines_nonempty? message]
  cases hmessage : Text.nonempty? message with
  | none => rfl
  | some s =>
    rw [messageLines_some (Text.nonempty?_eq_some_iff.mp hmessage).2, messageRows_eq,
      Option.elim_some, List.length_cons, List.length_map, List.length_cons]
    omega

/-- Of two messages the second stands beside the marker if the first has no lines. -/
theorem orElse_nonempty? (first second : Option String) :
    (Text.nonempty? first <|> Text.nonempty? second) =
      Text.nonempty? (if messageLines first = [] then second else first) := by
  by_cases hfirst : messageLines first = []
  · rw [if_pos hfirst, nonempty?_eq_none_iff.mpr hfirst]
    rfl
  · obtain ⟨s, hs⟩ := Option.isSome_iff_exists.mp (isSome_nonempty?_iff.mpr hfirst)
    rw [if_neg hfirst, hs]
    rfl

end Messages

section Pointers

variable (lanes : Lanes) (align : ℕ) (a : Highlight)

/-- A highlight on one line shows the lines of its first message and then those of its second. -/
theorem filterMap_message?_pointerRows :
    (pointerRows lanes align a).filterMap Row.message? =
      messageLines a.span.inlineMessage ++ messageLines a.span.trailingMessage := by
  rw [pointerRows]
  simp only [orElse_nonempty?]
  rw [List.filterMap_append, filterMap_message?_messageRows]
  by_cases hinline : messageLines a.span.inlineMessage = []
  · have hnone := nonempty?_eq_none_iff.mpr hinline
    rw [if_pos hinline, hinline, hnone]
    simp
  · have hsome := isSome_nonempty?_iff.mpr hinline
    rw [if_neg hinline, hsome, Bool.true_and]
    by_cases htrailing : messageLines a.span.trailingMessage = []
    · have hnone := nonempty?_eq_none_iff.mpr htrailing
      rw [hnone, htrailing]
      rfl
    · rw [if_pos (isSome_nonempty?_iff.mpr htrailing), filterMap_message?_messageRows]

/-- A highlight on one line has the rows counted for it. -/
theorem length_pointerRows (h : a.multiline = false) :
    (pointerRows lanes align a).length = rowCount a := by
  rw [pointerRows, rowCount, h]
  simp only [orElse_nonempty?, Bool.false_eq_true, if_false]
  rw [List.length_append, length_messageRows]
  congr 1
  · split <;> rfl
  · by_cases hboth : messageLines a.span.inlineMessage ≠ [] ∧
        messageLines a.span.trailingMessage ≠ []
    · have hlength := List.length_pos_iff.mpr hboth.2
      rw [if_pos hboth, isSome_nonempty?_iff.mpr hboth.1, isSome_nonempty?_iff.mpr hboth.2,
        Bool.and_self, if_pos rfl, length_messageRows]
      omega
    · rw [if_neg hboth, if_neg]
      · rfl
      · rw [Bool.and_eq_true, isSome_nonempty?_iff, isSome_nonempty?_iff]
        exact hboth

end Pointers

/-- The rows of highlight number `i`, line by line. -/
structure DrawnOnce (e : Excerpt) (i : ℕ) (a : Highlight) : Prop where
  /-- Its lines are among the displayed ones, which are all different. -/
  displayed : e.displayedLines.Nodup ∧ a.start.line ∈ e.displayedLines ∧
    a.stop.line ∈ e.displayedLines
  /-- Under any other line it has no rows. -/
  elsewhere : ∀ line, line ≠ a.start.line → line ≠ a.stop.line → e.rowsOf line i a = []
  /-- On one line, it has the rows counted for it, which show its messages line by line. -/
  pointer : a.multiline = false → (e.rowsOf a.start.line i a).length = rowCount a ∧
    (e.rowsOf a.start.line i a).filterMap Row.message? =
      messageLines a.span.inlineMessage ++ messageLines a.span.trailingMessage
  /-- Over several lines, it shows one message under the first of them and the other under the
  last, and the rows of both are those counted for it. -/
  connector : a.multiline = true → a.start.line ≠ a.stop.line ∧
    (e.rowsOf a.start.line i a).length = max 1 (messageLines a.span.inlineMessage).length ∧
    (e.rowsOf a.start.line i a).filterMap Row.message? = messageLines a.span.inlineMessage ∧
    (e.rowsOf a.stop.line i a).length = max 1 (messageLines a.span.trailingMessage).length ∧
    (e.rowsOf a.stop.line i a).filterMap Row.message? = messageLines a.span.trailingMessage ∧
    rowCount a = (e.rowsOf a.start.line i a).length + (e.rowsOf a.stop.line i a).length

section Highlights

variable {e : Excerpt} {i : ℕ} {a : Highlight}

/-- Every highlight of an excerpt is drawn once. -/
theorem Resolved.drawnOnce (h : e.Resolved) (hi : e.highlights[i]? = some a) :
    e.DrawnOnce i a := by
  have ha := List.mem_of_getElem? hi
  have hlines := (h.line_bounds ha).2.1
  constructor
  · exact ⟨e.pairwise_displayedLines.imp Nat.ne_of_lt, h.mem_displayedLines ha le_rfl hlines,
      h.mem_displayedLines ha hlines le_rfl⟩
  · intro line hstart hstop
    by_cases hlane : a.multiline = true
    · exact rowsOf_of_ne hlane hstart.symm hstop.symm
    · rw [rowsOf_of_not_multiline (by simpa using hlane), if_neg hstart.symm]
  · intro hlane
    rw [rowsOf_of_not_multiline hlane, if_pos rfl]
    exact ⟨length_pointerRows _ _ a hlane, filterMap_message?_pointerRows _ _ a⟩
  · intro hlane
    rw [rowsOf_of_start hi hlane rfl hlines, rowsOf_of_stop hi hlane rfl, rowCount, if_pos hlane]
    simp only [length_messageRows, filterMap_message?_messageRows, and_self, and_true]
    exact Highlight.multiline_iff.mp hlane

/-- What a row of a highlight shows is a line of one of its messages. -/
theorem DrawnOnce.mem_messageLines (h : e.DrawnOnce i a) {line : ℕ} {row : Row} {text : String}
    (hrow : row ∈ e.rowsOf line i a) (htext : row.message? = some text) :
    text ∈ messageLines a.span.inlineMessage ∨ text ∈ messageLines a.span.trailingMessage := by
  have hshown : text ∈ (e.rowsOf line i a).filterMap Row.message? :=
    List.mem_filterMap.mpr ⟨row, hrow, htext⟩
  by_cases hstart : line = a.start.line
  · subst hstart
    by_cases hlane : a.multiline = true
    · rw [(h.connector hlane).2.2.1] at hshown
      exact Or.inl hshown
    · rw [(h.pointer (by simpa using hlane)).2] at hshown
      exact List.mem_append.mp hshown
  · by_cases hstop : line = a.stop.line
    · subst hstop
      have hlane : a.multiline = true := Highlight.multiline_iff.mpr (Ne.symm hstart)
      rw [(h.connector hlane).2.2.2.2.1] at hshown
      exact Or.inr hshown
    · rw [h.elsewhere line hstart hstop] at hrow
      exact absurd hrow List.not_mem_nil

/-- In a list without repetitions, a number that is counted at one place only counts once. -/
theorem sum_map_eq_of_nodup {lines : List ℕ} {line : ℕ} {f : ℕ → ℕ} (hnodup : lines.Nodup)
    (hmem : line ∈ lines) (hzero : ∀ n, n ≠ line → f n = 0) : (lines.map f).sum = f line := by
  rw [List.sum_map_eq_nsmul_single line f fun n hn _ => hzero n hn,
    List.count_eq_one_of_mem hnodup hmem, one_nsmul]

/-- Over all displayed lines, a highlight has the rows counted for it. -/
theorem DrawnOnce.sum_length (h : e.DrawnOnce i a) :
    (e.displayedLines.map fun line => (e.rowsOf line i a).length).sum = rowCount a := by
  obtain ⟨hnodup, hstart, hstop⟩ := h.displayed
  by_cases hlane : a.multiline = true
  · obtain ⟨hne, -, -, -, -, hcount⟩ := h.connector hlane
    -- The rows under the first line and those under the last are summed separately.
    have hsplit : ∀ line, (e.rowsOf line i a).length =
        (if line = a.start.line then (e.rowsOf a.start.line i a).length else 0) +
          if line = a.stop.line then (e.rowsOf a.stop.line i a).length else 0 := by
      intro line
      by_cases hfirst : line = a.start.line
      · rw [if_pos hfirst, if_neg (by omega), hfirst, Nat.add_zero]
      · by_cases hlast : line = a.stop.line
        · rw [if_neg hfirst, if_pos hlast, hlast, Nat.zero_add]
        · rw [if_neg hfirst, if_neg hlast, h.elsewhere line hfirst hlast]
          rfl
    rw [List.map_congr_left fun line _ => hsplit line, List.sum_map_add,
      sum_map_eq_of_nodup hnodup hstart fun n hn => if_neg hn,
      sum_map_eq_of_nodup hnodup hstop fun n hn => if_neg hn, if_pos rfl, if_pos rfl, hcount]
  · have hflat : a.multiline = false := by simpa using hlane
    have hsame := Highlight.multiline_eq_false_iff.mp hflat
    have helsewhere : ∀ n, n ≠ a.start.line → (e.rowsOf n i a).length = 0 := by
      intro n hn
      rw [h.elsewhere n hn (hsame ▸ hn)]
      rfl
    rw [sum_map_eq_of_nodup hnodup hstart helsewhere, (h.pointer hflat).1]

/-- The rows of all highlights under all displayed lines, counted by highlight. -/
theorem Resolved.sum_length_rowsUnder (h : e.Resolved) :
    (e.displayedLines.map fun line => (e.rowsUnder line).length).sum =
      (e.highlights.map rowCount).sum := by
  have hexchange := Multiset.sum_map_sum_map (e.displayedLines : Multiset ℕ)
    (e.highlights.zipIdx : Multiset (Highlight × ℕ))
    (f := fun line p => (e.rowsOf line p.2 p.1).length)
  simp only [Multiset.map_coe, Multiset.sum_coe] at hexchange
  have hcounts : e.highlights.zipIdx.map (fun p =>
      (e.displayedLines.map fun line => (e.rowsOf line p.2 p.1).length).sum) =
      e.highlights.map rowCount := by
    conv_rhs => rw [← List.zipIdx_map_fst 0 e.highlights, List.map_map]
    refine List.map_congr_left fun p hp => ?_
    exact (h.drawnOnce (List.mk_mem_zipIdx_iff_getElem?.mp hp)).sum_length
  simp only [rowsUnder, List.length_flatMap]
  rw [hexchange, hcounts]

end Highlights

section Gaps

variable {e : Excerpt}

/-- Above a displayed line there is a row for lines left out exactly if another displayed line comes
before it and is not its neighbour. -/
theorem Resolved.gapAbove_eq (h : e.Resolved) {front back : List ℕ} {line : ℕ}
    (hlines : e.displayedLines = front ++ line :: back) :
    e.gapAbove line =
      front.getLast?.elim [] fun previous => if previous + 1 = line then [] else [.gap] := by
  rw [← gapRows_eq_gapAbove h hlines]
  cases hlast : front.getLast? with
  | none => rfl
  | some previous =>
    have hlt := lt_of_mem_drawn hlines (List.mem_of_getLast? hlast)
    rw [gapRows, Option.elim_some]
    by_cases hnext : previous + 1 = line
    · rw [if_neg (by omega), if_pos hnext]
    · rw [if_pos (by omega), if_neg hnext]

/-- The rows for lines left out above the displayed lines after the first. -/
theorem Resolved.sum_length_gapAbove_tail (h : e.Resolved) {front lines : List ℕ} {previous : ℕ}
    (hlines : e.displayedLines = front ++ previous :: lines) :
    (lines.map fun line => (e.gapAbove line).length).sum = gapCount (previous :: lines) := by
  induction lines generalizing front previous with
  | nil => rfl
  | cons line lines ih =>
    have hsplit : e.displayedLines = (front ++ [previous]) ++ line :: lines := by
      rw [hlines, List.append_assoc, List.singleton_append]
    have hgap := h.gapAbove_eq hsplit
    rw [List.getLast?_concat, Option.elim_some] at hgap
    rw [List.map_cons, List.sum_cons, ih hsplit, hgap, gapCount]
    split <;> rfl

/-- There is a row for lines left out for each pair of neighbours among the displayed lines that do
not follow each other. -/
theorem Resolved.sum_length_gapAbove (h : e.Resolved) :
    (e.displayedLines.map fun line => (e.gapAbove line).length).sum =
      gapCount e.displayedLines := by
  cases hlines : e.displayedLines with
  | nil => rfl
  | cons line lines =>
    have hsplit : e.displayedLines = [] ++ line :: lines := hlines
    have hfirst : e.gapAbove line = [] := h.gapAbove_eq hsplit
    rw [List.map_cons, List.sum_cons, hfirst, h.sum_length_gapAbove_tail hsplit]
    exact Nat.zero_add _

/-- The number of rows between the borders. -/
theorem Resolved.length_rows (h : e.Resolved) :
    (e.displayedLines.flatMap e.lineRows).length =
      e.displayedLines.length + gapCount e.displayedLines + (e.highlights.map rowCount).sum := by
  rw [← h.sum_length_gapAbove, ← h.sum_length_rowsUnder, List.length_flatMap]
  simp only [lineRows, List.length_append, List.length_cons, List.sum_map_add]
  rw [List.map_const', List.sum_replicate_nat]
  omega

end Gaps

/-- An excerpt that can be drawn is the frame around its rows. -/
theorem exists_rows_of_draw {e : Excerpt} {g : Glyphs} {level : Severity} {drawn : List Line}
    (h : e.draw g level = .ok drawn) :
    ∃ rows, e.rows = .ok rows ∧ drawn = e.frame g level rows := by
  rw [draw] at h
  cases hrows : e.rows with
  | error failure =>
    rw [hrows] at h
    cases h
  | ok rows =>
    rw [hrows] at h
    exact ⟨rows, rfl, (Except.ok.inj h).symm⟩

/-- Every displayed line and every highlight is drawn once. An excerpt with highlights on its source
is drawn as its top border, the rows of the displayed lines in ascending order, and its bottom
border. A line has a row for lines left out above it if the displayed line before is not its
neighbour, then its own row, then the rows of each highlight in turn. Each highlight has its rows
under its own lines, and together there are as many rows as the lines, the gaps and the messages
call for. -/
theorem lines_and_highlights_drawn_once {e : Excerpt} (h : e.Resolved) {g : Glyphs}
    {level : Severity} {drawn : List Line} (hdraw : e.draw g level = .ok drawn) :
    (∀ color, drawn.map (Line.print color) =
      (topLines g level e.gutterWidth e.options).map (Line.print color) ++
        (e.displayedLines.flatMap fun line => e.gapAbove line ++ e.sourceRowAt line ::
          e.highlights.zipIdx.flatMap fun (a, i) => e.rowsOf line i a).map
          (fun row => (row.draw g e.gutterWidth level).print color) ++
        (bottomLines g e.gutterWidth e.options).map (Line.print color)) ∧
    e.displayedLines.Pairwise (· < ·) ∧
    (∀ front line back, e.displayedLines = front ++ line :: back →
      e.gapAbove line =
        front.getLast?.elim [] fun previous => if previous + 1 = line then [] else [.gap]) ∧
    (∀ line ∈ e.displayedLines, ∃ cells text lineFeed, e.source.lineText line = .ok text ∧
      e.sourceRowAt line = .source line cells text lineFeed) ∧
    (∀ i a, e.highlights[i]? = some a → e.DrawnOnce i a) ∧
    drawn.length = (topLines g level e.gutterWidth e.options).length +
      (bottomLines g e.gutterWidth e.options).length + e.displayedLines.length +
      gapCount e.displayedLines + (e.highlights.map rowCount).sum := by
  obtain ⟨rows, hrows, hframe⟩ := exists_rows_of_draw hdraw
  obtain ⟨hall, -⟩ := h.drawRows_eq_of_rows hrows
  refine ⟨fun color => ?_, e.pairwise_displayedLines, fun front line back => h.gapAbove_eq, ?_,
    fun i a => h.drawnOnce, ?_⟩
  · rw [hframe, hall, frame, frameOfWidth, List.map_append, List.map_append, List.map_map]
    rfl
  · intro line hline
    obtain ⟨hone, hcount⟩ := h.displayedLines_bounds hline
    exact ⟨_, _, _, Source.lineText_eq_textAt hone hcount, rfl⟩
  · have hlength := h.length_rows
    rw [hframe, hall, frame, frameOfWidth, List.length_append, List.length_append,
      List.length_map, hlength]
    omega

/-- An excerpt with a highlight over two lines and, after a gap, one on a single line. Both have two
messages, some of several lines. -/
def talkative : Excerpt where
  source := ⟨"ab\ncd\nef\ngh\nij"⟩
  highlights :=
    [⟨⟨0, 4, some "from\nhere", some "to", none⟩, ⟨1, 1, 0⟩, ⟨2, 2, 4⟩⟩,
      ⟨⟨12, 13, some "one", some "two\r\nthree", none⟩, ⟨5, 1, 12⟩, ⟨5, 2, 13⟩⟩]

/-- That excerpt is drawn in twelve lines: two borders, three lines of the source, one gap, and
three rows for each highlight. -/
theorem lines_and_highlights_drawn_once_talkative :
    talkative.Resolved ∧ ∃ drawn, talkative.draw .ascii .error = .ok drawn ∧
      drawn.length = 1 + 1 + 3 + 1 + (3 + 3) ∧
      (talkative.rowsOf 5 1 ⟨⟨12, 13, some "one", some "two\r\nthree", none⟩, ⟨5, 1, 12⟩,
        ⟨5, 2, 13⟩⟩).filterMap Row.message? = ["one", "two", "three"] := by
  have hresolved : talkative.Resolved := by
    unfold Resolved
    decide
  have hrows := hresolved.rows_eq (by decide) (by decide)
  have hdraw : talkative.draw .ascii .error = .ok
      (talkative.frame .ascii .error (talkative.displayedLines.flatMap talkative.lineRows)) := by
    rw [draw, hrows]
    rfl
  obtain ⟨-, -, -, -, honce, hlength⟩ := lines_and_highlights_drawn_once hresolved hdraw
  refine ⟨hresolved, _, hdraw, ?_, ?_⟩
  · rw [hlength]
    decide
  · exact ((honce 1 _ rfl).pointer (by decide)).2.trans (by decide)

end Diagnostics.Excerpt
