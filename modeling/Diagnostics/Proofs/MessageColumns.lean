import Diagnostics.Proofs.RowCounts

/-!
# Where messages begin

Every line of a message begins one column behind its head. The head of a message on one line is the
marker of its highlight, or a hook if it is the second message. If messages are aligned, the heads
under a line are drawn out to the end of the longest of them, and highlights without a message do
not matter.
-/

namespace Diagnostics.Excerpt

/-- A highlight with a message that is not empty. -/
def HasMessage (a : Highlight) : Prop :=
  messageLines a.span.inlineMessage ≠ [] ∨ messageLines a.span.trailingMessage ≠ []

/-- A highlight with two messages that are not empty. -/
def HasTwoMessages (a : Highlight) : Prop :=
  messageLines a.span.inlineMessage ≠ [] ∧ messageLines a.span.trailingMessage ≠ []

/-- The columns up to the end of the marker of a highlight on one line. -/
def markerEnd (a : Highlight) : ℕ :=
  a.start.column - 1 + a.width

/-- The columns up to the end of the shortest hook, which is a corner and a line of one column. -/
def hookEnd (a : Highlight) : ℕ :=
  a.start.column + 1

/-- Where the shortest heads of messages under a line end: the marker of each highlight with a
message and the hook of each highlight with two. -/
def headEnds (e : Excerpt) (line : ℕ) : Set ℕ :=
  {n | ∃ a ∈ e.highlights, a.multiline = false ∧ a.start.line = line ∧
    (HasMessage a ∧ n = markerEnd a ∨ HasTwoMessages a ∧ n = hookEnd a)}

/-- A marker under its range, with spaces up to the end of column `stop`. -/
def markerHead (marker : Char) (a : Highlight) (stop : ℕ) : List Char :=
  List.replicate (a.start.column - 1) ' ' ++
    (List.replicate a.width marker ++ List.replicate (stop - markerEnd a) ' ')

/-- A hook under the beginning of a range, with a line up to the end of column `stop`. -/
def hookHead (corner horizontal : Char) (a : Highlight) (stop : ℕ) : List Char :=
  List.replicate (a.start.column - 1) ' ' ++
    corner :: List.replicate (stop - a.start.column) horizontal

/-- A line and the marker at the end of a connector, in column `stop`. -/
def connectorHead (marker horizontal : Char) (stop : ℕ) : List Char :=
  List.replicate (stop - 1) horizontal ++ [marker]

/-- Rows show a head, which ends with column `stop`, and the lines of a message behind it: right of
the gutter and the lanes, the first row has the head, a space and the first line, and the other rows
have spaces up to the same column and one of the other lines each, but no blanks at their ends. -/
def Hangs (e : Excerpt) (g : Glyphs) (level : Severity) (head : List Char) (stop : ℕ)
    (texts : List String) (rows : List Row) : Prop :=
  head.length = stop ∧ ∃ first rest row below, texts = first :: rest ∧ rows = row :: below ∧
    (row.printed g e.gutterWidth level).toList.drop e.textColumn = head ++ ' ' :: first.toList ∧
    List.Forall₂ (fun row text => ∃ full, row.printed g e.gutterWidth level = Text.trimEnd full ∧
      full.toList.drop e.textColumn = List.replicate (stop + 1) ' ' ++ text.toList) below rest

section Messages

variable {e : Excerpt} {g : Glyphs} {level : Severity} {cells below : List Cell} {head : Head}
variable {marker corner horizontal : Char} {a : Highlight}

/-- A further line of a message stands behind as many spaces as its head has columns, and one. -/
theorem exists_untrimmed_continued (hg : g.Single)
    (hbelow : e.gutterWidth + 3 + below.length = e.textColumn) (text : String) :
    ∃ full, (Row.continued below head text).printed g e.gutterWidth level = Text.trimEnd full ∧
      full.toList.drop e.textColumn =
        List.replicate (head.width g + 1) ' ' ++ text.toList := by
  have hlength : ((Row.continued below head text).front g e.gutterWidth).toList.length =
      e.textColumn := by
    have hnumber : (Row.continued below head text).number.length ≤ e.gutterWidth := Nat.zero_le _
    rw [String.length_toList, length_front hg hnumber, Row.cells, hbelow]
  refine ⟨(Row.continued below head text).front g e.gutterWidth ++
    (Text.spaces (head.width g + 1) ++ text), ?_, ?_⟩
  · rw [Row.printed, Line.print_false, Row.draw, text_plain, Row.front, Row.number, Row.cells]
    simp only [String.append_assoc]
  · rw [String.toList_append, List.drop_left' hlength, String.toList_append, Text.toList_spaces]

/-- A head takes up the columns that are counted for it. -/
theorem length_draw_head (hg : g.Single) (level : Severity) (head : Head) :
    (Line.text (head.draw g level)).toList.length = head.width g := by
  obtain ⟨marker, hmarker⟩ := Text.exists_singleton_eq hg.marker
  obtain ⟨horizontal, hhorizontal⟩ := Text.exists_singleton_eq hg.horizontal
  cases head with
  | pointer column width fill hint =>
    rw [toList_pointer hmarker, Head.width]
    simp only [List.length_append, List.length_replicate]
    omega
  | hook column reach => rw [Head.draw, text_plain, String.length_toList, Head.width]
  | connector column hint =>
    rw [toList_connector hmarker hhorizontal, Head.width, drawLead, hhorizontal,
      ← String.length_toList, Text.toList_replicate_singleton]
    simp

/-- The rows of a message hang behind its head. -/
theorem hangs_messageRows (hg : g.Single)
    (hcells : e.gutterWidth + 3 + cells.length = e.textColumn)
    (hbelow : e.gutterWidth + 3 + below.length = e.textColumn) {message : Option String}
    (hmessage : messageLines message ≠ []) {drawn : List Char} {stop : ℕ}
    (hdrawn : (Line.text (head.draw g level)).toList = drawn) (hstop : drawn.length = stop) :
    e.Hangs g level drawn stop (messageLines message)
      (messageRows cells below head (Text.nonempty? message)) := by
  obtain ⟨s, hs⟩ := Option.isSome_iff_exists.mp (isSome_nonempty?_iff.mpr hmessage)
  obtain ⟨hpresent, hne⟩ := Text.nonempty?_eq_some_iff.mp hs
  have hwidth : head.width g = stop := by rw [← length_draw_head hg level, hdrawn, hstop]
  refine ⟨hstop, (Text.firstAndRest s).1, (Text.firstAndRest s).2, _, _,
    by rw [hpresent, messageLines_some hne], by rw [hs, messageRows_eq], ?_, ?_⟩
  · rw [toList_printed_mark, List.drop_left' (length_front_mark hg hcells _ _), hdrawn]
    rfl
  · rw [Option.elim_some, List.forall₂_map_left_iff, List.forall₂_same, ← hwidth]
    exact fun text _ => exists_untrimmed_continued hg hbelow text

end Messages

section Heads

variable {g : Glyphs} {level : Severity} {marker corner horizontal : Char} {a : Highlight}

/-- A marker with the fill up to a column is its head up to that column, if it does not end behind
it. -/
theorem toList_markerHead (hmarker : g.marker = String.singleton marker) (align : ℕ)
    (hint : Option Severity) :
    (Line.text ((Head.pointer a.start.column a.width (align - markerEnd a) hint).draw g
      level)).toList = markerHead marker a (max align (markerEnd a)) := by
  have hfill : max align (markerEnd a) - markerEnd a = align - markerEnd a := by omega
  rw [toList_pointer hmarker, markerHead, hfill]

theorem length_markerHead {stop : ℕ} (h : markerEnd a ≤ stop) :
    (markerHead marker a stop).length = stop := by
  rw [markerEnd] at h
  simp only [markerHead, markerEnd, List.length_append, List.length_replicate]
  omega

/-- So is a hook that is drawn out to a column. -/
theorem toList_hookHead (hcorner : g.bottomCorner = String.singleton corner)
    (hhorizontal : g.horizontal = String.singleton horizontal) (hone : 1 ≤ a.start.column)
    (align : ℕ) :
    (Line.text ((Head.hook a.start.column align).draw g level)).toList =
      hookHead corner horizontal a (max align (hookEnd a)) := by
  have hhook : (Text.spaces (a.start.column - 1) ++ g.bottomCorner ++ g.horizontal).length =
      a.start.column + 1 := by
    rw [hcorner, hhorizontal]
    simp only [String.length_append, Text.length_spaces, String.length_singleton]
    omega
  have hline : max align (hookEnd a) - a.start.column = align - (a.start.column + 1) + 1 := by
    rw [hookEnd]
    omega
  rw [Head.draw, text_plain, drawHook, hhook, hookHead, hline, List.replicate_succ, hcorner,
    hhorizontal]
  simp [Text.toList_replicate_singleton]

theorem length_hookHead {stop : ℕ} (hone : 1 ≤ a.start.column) (h : hookEnd a ≤ stop) :
    (hookHead corner horizontal a stop).length = stop := by
  rw [hookEnd] at h
  simp only [hookHead, List.length_append, List.length_cons, List.length_replicate]
  omega

theorem length_connectorHead {stop : ℕ} (hone : 1 ≤ stop) :
    (connectorHead marker horizontal stop).length = stop := by
  simp only [connectorHead, List.length_append, List.length_replicate, List.length_singleton]
  omega

end Heads

section Columns

variable {e : Excerpt} {a : Highlight} {line bound : ℕ}

instance (a : Highlight) : Decidable (HasMessage a) :=
  inferInstanceAs (Decidable (_ ∨ _))

instance (a : Highlight) : Decidable (HasTwoMessages a) :=
  inferInstanceAs (Decidable (_ ∧ _))

/-- The reach of a highlight covers its marker if it has a message, and its hook if it has two. -/
theorem messageReach_le_iff : messageReach a ≤ bound ↔
    (HasMessage a → markerEnd a ≤ bound) ∧ (HasTwoMessages a → hookEnd a ≤ bound) := by
  have hreach : messageReach a = max (if HasMessage a then markerEnd a else 0)
      (if HasTwoMessages a then hookEnd a else 0) := by
    simp only [messageReach, Bool.or_eq_true, Bool.and_eq_true, isSome_nonempty?_iff]
    rfl
  rw [hreach, Nat.max_le]
  refine and_congr ?_ ?_
  · split <;> simp [*]
  · split <;> simp [*]

/-- The column of the messages of a line has the bounds of the ends of all heads. -/
theorem messageColumn_le_iff :
    messageColumn e.highlights line ≤ bound ↔ ∀ n ∈ e.headEnds line, n ≤ bound := by
  rw [messageColumn, foldl_max_le_iff]
  simp only [messageReach_le_iff, List.mem_filter, Bool.and_eq_true, Bool.not_eq_true',
    beq_iff_eq]
  constructor
  · rintro ⟨-, h⟩ n ⟨a, ha, hlane, hline, ⟨hmessage, rfl⟩ | ⟨hmessage, rfl⟩⟩
    · exact (h a ⟨ha, hlane, hline⟩).1 hmessage
    · exact (h a ⟨ha, hlane, hline⟩).2 hmessage
  · rintro h
    refine ⟨Nat.zero_le _, fun a ⟨ha, hlane, hline⟩ => ⟨fun hmessage => ?_, fun hmessage => ?_⟩⟩
    · exact h _ ⟨a, ha, hlane, hline, Or.inl ⟨hmessage, rfl⟩⟩
    · exact h _ ⟨a, ha, hlane, hline, Or.inr ⟨hmessage, rfl⟩⟩

/-- If there is a message under a line, the column of the messages is where the longest head
ends. -/
theorem isGreatest_messageColumn (hne : (e.headEnds line).Nonempty) :
    IsGreatest (e.headEnds line) (messageColumn e.highlights line) := by
  have hupper := messageColumn_le_iff.mp (le_refl (messageColumn e.highlights line))
  refine ⟨?_, hupper⟩
  -- If no head ended there, the column before would be a bound, too.
  by_contra hmem
  have hlt : ∀ n ∈ e.headEnds line, n < messageColumn e.highlights line := fun n hn =>
    lt_of_le_of_ne (hupper n hn) fun heq => hmem (heq ▸ hn)
  obtain ⟨n, hn⟩ := hne
  have hpos := hlt n hn
  have hless : messageColumn e.highlights line ≤ messageColumn e.highlights line - 1 :=
    messageColumn_le_iff.mpr fun m hm => Nat.le_sub_one_of_lt (hlt m hm)
  omega

end Columns

section Pointers

variable {e : Excerpt} {g : Glyphs} {marker corner horizontal : Char}
variable {i line align : ℕ} {a : Highlight}

/-- The rows of a highlight on one line: its marker with its first message that is not empty, and a
hook if there is another. -/
theorem pointerRows_eq (lanes : Lanes) (align : ℕ) (a : Highlight) :
    pointerRows lanes align a =
      messageRows lanes.cells lanes.cells
        (.pointer a.start.column a.width (if HasMessage a then align - markerEnd a else 0)
          a.span.severityHint)
        (Text.nonempty? (if messageLines a.span.inlineMessage = [] then a.span.trailingMessage
          else a.span.inlineMessage)) ++
      if HasTwoMessages a then
        messageRows lanes.cells lanes.cells (.hook a.start.column align)
          (Text.nonempty? a.span.trailingMessage)
      else [] := by
  have hsome : (Text.nonempty? (if messageLines a.span.inlineMessage = []
      then a.span.trailingMessage else a.span.inlineMessage)).isSome = true ↔ HasMessage a := by
    rw [isSome_nonempty?_iff, HasMessage]
    split <;> simp [*]
  rw [pointerRows]
  simp only [orElse_nonempty?, hsome, Bool.and_eq_true, isSome_nonempty?_iff]
  rfl

/-- The messages of highlight number `i`, which is on one line: the only one hangs behind its
marker; of two, the first hangs behind the marker and the second behind a hook below. -/
structure MessagesAt (e : Excerpt) (g : Glyphs) (level : Severity)
    (marker corner horizontal : Char) (i : ℕ) (a : Highlight) (markerStop hookStop : ℕ) :
    Prop where
  one : ¬HasTwoMessages a → e.Hangs g level (markerHead marker a markerStop) markerStop
    (messageLines a.span.inlineMessage ++ messageLines a.span.trailingMessage)
    (e.rowsOf a.start.line i a)
  two : HasTwoMessages a → ∃ beside below, e.rowsOf a.start.line i a = beside ++ below ∧
    e.Hangs g level (markerHead marker a markerStop) markerStop
      (messageLines a.span.inlineMessage) beside ∧
    e.Hangs g level (hookHead corner horizontal a hookStop) hookStop
      (messageLines a.span.trailingMessage) below

/-- The rows of a message hang behind the marker of a highlight on one line, which has spaces up to
the column that aligns messages. -/
theorem hangs_marker (hg : g.Single) (level : Severity)
    (hmarker : g.marker = String.singleton marker) {message : Option String}
    (hmessage : messageLines message ≠ []) :
    e.Hangs g level (markerHead marker a (max align (markerEnd a))) (max align (markerEnd a))
      (messageLines message)
      (messageRows (lanesAt e.highlights line i).cells (lanesAt e.highlights line i).cells
        (.pointer a.start.column a.width (align - markerEnd a) a.span.severityHint)
        (Text.nonempty? message)) :=
  hangs_messageRows hg (length_cells_lanesAt e line i) (length_cells_lanesAt e line i) hmessage
    (toList_markerHead hmarker align _) (length_markerHead (le_max_right _ _))

/-- They hang behind a hook, which is drawn out to that column. -/
theorem hangs_hook (hg : g.Single) (level : Severity)
    (hcorner : g.bottomCorner = String.singleton corner)
    (hhorizontal : g.horizontal = String.singleton horizontal) (hone : 1 ≤ a.start.column)
    {message : Option String} (hmessage : messageLines message ≠ []) :
    e.Hangs g level (hookHead corner horizontal a (max align (hookEnd a)))
      (max align (hookEnd a)) (messageLines message)
      (messageRows (lanesAt e.highlights line i).cells (lanesAt e.highlights line i).cells
        (.hook a.start.column align) (Text.nonempty? message)) :=
  hangs_messageRows hg (length_cells_lanesAt e line i) (length_cells_lanesAt e line i) hmessage
    (toList_hookHead hcorner hhorizontal hone align) (length_hookHead hone (le_max_right _ _))

/-- Heads of messages are drawn out to the column that aligns them, if they do not end behind it. -/
theorem messagesAt_max (hg : g.Single) (level : Severity)
    (hmarker : g.marker = String.singleton marker)
    (hcorner : g.bottomCorner = String.singleton corner)
    (hhorizontal : g.horizontal = String.singleton horizontal) (i : ℕ)
    (hone : 1 ≤ a.start.column) (hlane : a.multiline = false) (hmessage : HasMessage a) :
    e.MessagesAt g level marker corner horizontal i a
      (max (e.align a.start.line) (markerEnd a)) (max (e.align a.start.line) (hookEnd a)) := by
  have hrows : e.rowsOf a.start.line i a =
      pointerRows (lanesAt e.highlights a.start.line i) (e.align a.start.line) a := by
    rw [rowsOf_of_not_multiline hlane, if_pos rfl]
  rw [pointerRows_eq, if_pos hmessage] at hrows
  constructor
  · intro hsingle
    rw [if_neg hsingle, List.append_nil] at hrows
    rw [hrows]
    by_cases hinline : messageLines a.span.inlineMessage = []
    · rw [if_pos hinline, hinline, List.nil_append]
      exact hangs_marker hg level hmarker (hmessage.resolve_left (not_not_intro hinline))
    · have htrailing : messageLines a.span.trailingMessage = [] := by
        by_contra htrailing
        exact hsingle ⟨hinline, htrailing⟩
      rw [if_neg hinline, htrailing, List.append_nil]
      exact hangs_marker hg level hmarker hinline
  · intro hboth
    rw [if_neg hboth.1, if_pos hboth] at hrows
    exact ⟨_, _, hrows, hangs_marker hg level hmarker hboth.1,
      hangs_hook hg level hcorner hhorizontal hone hboth.2⟩

/-- A highlight on one line without messages has one row, which ends with its marker. -/
theorem rowsOf_of_silent (hg : g.Single) (level : Severity)
    (hmarker : g.marker = String.singleton marker) (i : ℕ) (hlane : a.multiline = false)
    (hsilent : ¬HasMessage a) :
    ∃ row, e.rowsOf a.start.line i a = [row] ∧
      (row.printed g e.gutterWidth level).toList.drop e.textColumn =
        List.replicate (a.start.column - 1) ' ' ++ List.replicate a.width marker := by
  obtain ⟨hinline, htrailing⟩ := not_or.mp hsilent
  rw [not_not] at hinline htrailing
  have hone : ¬HasTwoMessages a := fun hboth => hboth.1 hinline
  have hrows : e.rowsOf a.start.line i a = [.mark (lanesAt e.highlights a.start.line i).cells
      (.pointer a.start.column a.width 0 a.span.severityHint) none] := by
    rw [rowsOf_of_not_multiline hlane, if_pos rfl, pointerRows_eq, if_neg hsilent, if_neg hone,
      if_pos hinline, nonempty?_eq_none_iff.mpr htrailing]
    rfl
  refine ⟨_, hrows, ?_⟩
  rw [toList_printed_mark,
    List.drop_left' (length_front_mark hg (length_cells_lanesAt e a.start.line i) _ _),
    toList_pointer hmarker]
  simp

end Pointers

/-- Where the messages of an excerpt begin. -/
structure MessageColumns (e : Excerpt) (rows : List Row) (g : Glyphs) (level : Severity)
    (marker corner horizontal : Char) : Prop where
  /-- The rows of each highlight under its first and its last line are rows of the excerpt. -/
  mem : ∀ i a, e.highlights[i]? = some a → ∀ row,
    row ∈ e.rowsOf a.start.line i a ∨ row ∈ e.rowsOf a.stop.line i a → row ∈ rows
  /-- If messages are aligned, all heads of messages under a line end in one column, which is where
  the longest of them ends anyway: markers by spaces, and hooks by a longer line. -/
  aligned : e.options.alignMessages = true → ∀ line, (e.headEnds line).Nonempty →
    ∃ stop, IsGreatest (e.headEnds line) stop ∧ ∀ i a, e.highlights[i]? = some a →
      a.multiline = false → a.start.line = line → HasMessage a →
        e.MessagesAt g level marker corner horizontal i a stop stop
  /-- If they are not, each head ends where it does anyway. -/
  unaligned : e.options.alignMessages = false → ∀ i a, e.highlights[i]? = some a →
    a.multiline = false → HasMessage a →
      e.MessagesAt g level marker corner horizontal i a (markerEnd a) (hookEnd a)
  /-- A highlight on one line without messages has one row, which ends with its marker. -/
  silent : ∀ i a, e.highlights[i]? = some a → a.multiline = false → ¬HasMessage a →
    ∃ row, e.rowsOf a.start.line i a = [row] ∧
      (row.printed g e.gutterWidth level).toList.drop e.textColumn =
        List.replicate (a.start.column - 1) ' ' ++ List.replicate a.width marker
  /-- The message of an opening corner hangs behind its marker. -/
  opening : ∀ i a, e.highlights[i]? = some a → a.multiline = true →
    messageLines a.span.inlineMessage ≠ [] →
      e.Hangs g level (connectorHead marker horizontal a.start.column) a.start.column
        (messageLines a.span.inlineMessage) (e.rowsOf a.start.line i a)
  /-- So does that of a closing corner. -/
  closing : ∀ i a, e.highlights[i]? = some a → a.multiline = true →
    messageLines a.span.trailingMessage ≠ [] →
      e.Hangs g level (connectorHead marker horizontal (max 1 (a.stop.column - 1)))
        (max 1 (a.stop.column - 1)) (messageLines a.span.trailingMessage)
        (e.rowsOf a.stop.line i a)

section Excerpts

variable {e : Excerpt} {g : Glyphs} {marker corner horizontal : Char}

/-- The messages of a drawn excerpt begin behind their heads. -/
theorem Resolved.messageColumns (h : e.Resolved) (hg : g.Single) (level : Severity)
    (hmarker : g.marker = String.singleton marker)
    (hcorner : g.bottomCorner = String.singleton corner)
    (hhorizontal : g.horizontal = String.singleton horizontal) :
    e.MessageColumns (e.displayedLines.flatMap e.lineRows) g level marker corner horizontal := by
  have hone : ∀ a ∈ e.highlights, 1 ≤ a.start.column := by
    intro a ha
    obtain ⟨j, k, hover⟩ := h.exists_over ha
    rw [hover.start_eq]
    exact Position.one_le_column_after _
  have hmessages : ∀ i a, e.highlights[i]? = some a → a.multiline = false → HasMessage a →
      e.MessagesAt g level marker corner horizontal i a
        (max (e.align a.start.line) (markerEnd a)) (max (e.align a.start.line) (hookEnd a)) :=
    fun i a hi => messagesAt_max hg level hmarker hcorner hhorizontal i
      (hone a (List.mem_of_getElem? hi))
  constructor
  · intro i a hi row hrow
    have ha := List.mem_of_getElem? hi
    have hlines := (h.line_bounds ha).2.1
    rcases hrow with hrow | hrow
    · exact mem_rows_of_mem_rowsUnder (h.mem_displayedLines ha le_rfl hlines)
        (mem_rowsUnder_of_mem_rowsOf hi hrow)
    · exact mem_rows_of_mem_rowsUnder (h.mem_displayedLines ha hlines le_rfl)
        (mem_rowsUnder_of_mem_rowsOf hi hrow)
  · intro halign line hne
    have hgreatest := isGreatest_messageColumn hne
    refine ⟨messageColumn e.highlights line, hgreatest, ?_⟩
    rintro i a hi hlane rfl hmessage
    have ha := List.mem_of_getElem? hi
    -- A head that counts for the column does not end behind it, so the maximum is the column.
    have hall := hmessages i a hi hlane hmessage
    have hcolumn : e.align a.start.line = messageColumn e.highlights a.start.line := if_pos halign
    have hmarkerEnd : markerEnd a ≤ messageColumn e.highlights a.start.line :=
      hgreatest.2 ⟨a, ha, hlane, rfl, Or.inl ⟨hmessage, rfl⟩⟩
    rw [hcolumn, max_eq_left hmarkerEnd] at hall
    refine ⟨hall.one, fun hboth => ?_⟩
    have hhookEnd : hookEnd a ≤ messageColumn e.highlights a.start.line :=
      hgreatest.2 ⟨a, ha, hlane, rfl, Or.inr ⟨hboth, rfl⟩⟩
    rw [max_eq_left hhookEnd] at hall
    exact hall.two hboth
  · intro halign i a hi hlane hmessage
    have hcolumn : e.align a.start.line = 0 := if_neg (by rw [halign]; decide)
    have hall := hmessages i a hi hlane hmessage
    rwa [hcolumn, Nat.zero_max, Nat.zero_max] at hall
  · exact fun i a _ => rowsOf_of_silent hg level hmarker i
  · intro i a hi hlane hmessage
    have ha := List.mem_of_getElem? hi
    rw [rowsOf_of_start hi hlane rfl (h.line_bounds ha).2.1]
    exact hangs_messageRows hg (length_cornerCells_lanesAt hi hlane _ _)
      (length_cells_lanesAt e _ _) hmessage (toList_connector hmarker hhorizontal _ _)
      (length_connectorHead (hone a ha))
  · intro i a hi hlane hmessage
    rw [rowsOf_of_stop hi hlane rfl]
    exact hangs_messageRows hg (length_cornerCells_lanesAt hi hlane _ _)
      (length_cells_lanesAt e _ _) hmessage (toList_connector hmarker hhorizontal _ _)
      (length_connectorHead (le_max_left _ _))

/-- Messages line up. In an excerpt drawn without colour, with marks of one character each, all
lines of a message begin in the column after the space behind its head. If messages are aligned,
those of the highlights on one line begin in one column under each line, where the longest head of a
message leaves them; otherwise each begins behind its own head. -/
theorem messages_begin_behind_heads {rows : List Row} (h : e.Resolved) (hrows : e.rows = .ok rows)
    (hg : g.Single) (level : Severity) :
    (e.draw g level).map (·.map (Line.print false)) =
      .ok ((topLines g level e.gutterWidth e.options).map (Line.print false) ++
        rows.map (Row.printed g e.gutterWidth level) ++
        (bottomLines g e.gutterWidth e.options).map (Line.print false)) ∧
    ∃ marker corner horizontal, g.marker = String.singleton marker ∧
      g.bottomCorner = String.singleton corner ∧ g.horizontal = String.singleton horizontal ∧
      e.MessageColumns rows g level marker corner horizontal := by
  obtain ⟨hall, -⟩ := h.drawRows_eq_of_rows hrows
  obtain ⟨marker, hmarker⟩ := Text.exists_singleton_eq hg.marker
  obtain ⟨corner, hcorner⟩ := Text.exists_singleton_eq hg.bottomCorner
  obtain ⟨horizontal, hhorizontal⟩ := Text.exists_singleton_eq hg.horizontal
  refine ⟨print_draw hrows g level, marker, corner, horizontal, hmarker, hcorner, hhorizontal, ?_⟩
  rw [hall]
  exact h.messageColumns hg level hmarker hcorner hhorizontal

end Excerpts

/-- An excerpt with aligned messages: a highlight without a message, one with a message of two
lines, one with two messages, and one over two lines. -/
def aligned : Excerpt where
  source := ⟨"ab cdef gh\nij"⟩
  highlights :=
    [⟨⟨0, 1, none, none, none⟩, ⟨1, 1, 0⟩, ⟨1, 2, 1⟩⟩,
      ⟨⟨3, 7, none, some "one\nmore", none⟩, ⟨1, 4, 3⟩, ⟨1, 8, 7⟩⟩,
      ⟨⟨8, 9, some "two", some "three", none⟩, ⟨1, 9, 8⟩, ⟨1, 10, 9⟩⟩,
      ⟨⟨9, 12, some "from\nhere", none, none⟩, ⟨1, 10, 9⟩, ⟨2, 2, 12⟩⟩]
  options := { alignMessages := true }

/-- The hook under the ninth column ends with the tenth, and so do all heads of messages under that
line but that of the connector. -/
theorem messages_begin_behind_heads_aligned :
    aligned.Resolved ∧ ∃ rows, aligned.rows = .ok rows ∧
      aligned.Hangs .ascii .error (markerHead '^' aligned.highlights[1] 10) 10 ["one", "more"]
        (aligned.rowsOf 1 1 aligned.highlights[1]) ∧
      (∃ beside below, aligned.rowsOf 1 2 aligned.highlights[2] = beside ++ below ∧
        aligned.Hangs .ascii .error (markerHead '^' aligned.highlights[2] 10) 10 ["two"] beside ∧
        aligned.Hangs .ascii .error (hookHead '\x60' '-' aligned.highlights[2] 10) 10 ["three"]
          below) ∧
      aligned.Hangs .ascii .error (connectorHead '^' '-' 10) 10 ["from", "here"]
        (aligned.rowsOf 1 3 aligned.highlights[3]) := by
  have hresolved : aligned.Resolved := by
    unfold Resolved
    decide
  obtain ⟨rows, hrows⟩ := hresolved.exists_rows_iff.mpr ⟨by decide, by decide⟩
  obtain ⟨-, marker, corner, horizontal, hmarker, hcorner, hhorizontal, hcolumns⟩ :=
    messages_begin_behind_heads hresolved hrows Glyphs.ascii_visible.toSingle .error
  obtain rfl : '^' = marker := Text.eq_of_singleton_eq hmarker
  obtain rfl : '\x60' = corner := Text.eq_of_singleton_eq hcorner
  obtain rfl : '-' = horizontal := Text.eq_of_singleton_eq hhorizontal
  have hten : 10 ∈ aligned.headEnds 1 :=
    ⟨aligned.highlights[2], by decide, by decide, by decide, Or.inr ⟨by decide, by decide⟩⟩
  obtain ⟨stop, hgreatest, hmessages⟩ := hcolumns.aligned rfl 1 ⟨10, hten⟩
  obtain rfl : stop = 10 := by
    have hends : ∀ a ∈ aligned.highlights,
        markerEnd a ≤ 10 ∧ (HasTwoMessages a → hookEnd a ≤ 10) := by decide
    refine hgreatest.unique ⟨hten, ?_⟩
    rintro n ⟨a, ha, -, -, ⟨-, rfl⟩ | ⟨hboth, rfl⟩⟩
    · exact (hends a ha).1
    · exact (hends a ha).2 hboth
  exact ⟨hresolved, rows, hrows, (hmessages 1 _ rfl (by decide) rfl (by decide)).one (by decide),
    (hmessages 2 _ rfl (by decide) rfl (by decide)).two (by decide),
    hcolumns.opening 3 _ rfl (by decide) (by decide)⟩

end Diagnostics.Excerpt
