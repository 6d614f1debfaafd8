import Diagnostics.Proofs.FrameNumbers

/-!
# Where continuation lines begin

A text of several lines is shown with its first line behind a lead and its further lines behind an
indentation, and each block makes the two in its own way. This file shows that they are as wide, so
that all lines of a text begin in one column: in headers, notes and excerpts with every glyph table,
in lists of steps and in the outermost error of a stack with tables of single marks.
-/

namespace Diagnostics.Layout

/-- Lines show the parts of a text, one on each line and in their order, and all parts begin behind
the same number of columns. -/
def InOneColumn (column : ℕ) (parts lines : List String) : Prop :=
  List.Forall₂ (fun part line => ∃ lead : String, lead.length = column ∧ line = lead ++ part)
    parts lines

/-- The lines of a value of a header, if it is shown. -/
def shownLines (value : Option String) (shown : Bool) : List String :=
  if shown then Excerpt.messageLines value else []

/-- The text of a line that stands alone where a text has no lines. -/
def aloneIfEmpty (alone text : String) : List String :=
  if text = "" then [alone] else []

section Hanging

variable {alone lead indent : Line} {column : ℕ}

/-- One line behind a lead and the others behind an indentation begin in one column if the two are
as wide. -/
theorem inOneColumn_cons {front back : String} (hfront : front.length = column)
    (hback : back.length = column) (first : String) (rest : List String) :
    InOneColumn column (first :: rest) ((front ++ first) :: rest.map (back ++ ·)) := by
  refine .cons ⟨front, hfront, rfl⟩ ?_
  rw [List.forall₂_map_right_iff, List.forall₂_same]
  exact fun part _ => ⟨back, hback, rfl⟩

/-- A hanging text is printed behind the texts of its lead and its indentation. -/
theorem map_print_hanging (lead indent : Line) (text : String) :
    (hanging lead indent text).map (Line.print false) =
      (lead.text ++ (Text.firstAndRest text).1) ::
        (Text.firstAndRest text).2.map (indent.text ++ ·) := by
  have hprint : ∀ (front : Line) (part : String),
      Line.print false (front ++ Line.plain part) = front.text ++ part := fun front part => by
    rw [Line.print_false, Excerpt.text_append, Excerpt.text_plain]
  simp only [hanging, List.map_cons, List.map_map, Function.comp_def, hprint]

/-- A hanging text begins in one column if its lead and its indentation are as wide. -/
theorem inOneColumn_hanging (hlead : lead.width = column) (hindent : indent.width = column)
    (text : String) :
    InOneColumn column (Text.physicalLines text)
      ((hanging lead indent text).map (Line.print false)) := by
  rw [map_print_hanging]
  exact inOneColumn_cons hlead hindent _ _

/-- So it does if it has lines; one that has none leaves a line of its own to the block. -/
theorem exists_inOneColumn {text : String} (hlead : text ≠ "" → lead.width = column)
    (hindent : indent.width = column) (alone : Line) :
    ∃ lines, (if text.isEmpty then [alone] else hanging lead indent text).map (Line.print false) =
        aloneIfEmpty alone.text text ++ lines ∧
      InOneColumn column (Text.lines text) lines := by
  by_cases hempty : text = ""
  · subst hempty
    exact ⟨[], congrArg (fun s => [s]) (Line.print_false alone), .nil⟩
  · have hcolumn := inOneColumn_hanging (hlead hempty) hindent text
    rw [Text.physicalLines, Text.firstAndRest_eq_lines hempty] at hcolumn
    refine ⟨_, ?_, hcolumn⟩
    rw [if_neg (by simpa using hempty), aloneIfEmpty, if_neg hempty, List.nil_append]

/-- A painted text with another behind it is as wide as both. -/
theorem width_lead (level : Severity) (s t : String) :
    Line.width [level.paint s, { text := t }] = s.length + t.length := by
  simp [Line.width, Line.text, Severity.paint]

/-- Spaces are as wide as they are many. -/
theorem width_spaces (n : ℕ) : Line.width (Line.plain (Text.spaces n)) = n := by
  rw [Line.width, Excerpt.text_plain, Text.length_spaces]

end Hanging

section Headings

variable (g : Glyphs) (level : Severity)

/-- The title of a header begins two columns behind its tag. -/
theorem exists_headerTitle_eq (h : Header) :
    ∃ lines, (headerTitle level h).map (Line.print false) =
        aloneIfEmpty (headerTag level h) h.title ++ lines ∧
      InOneColumn ((headerTag level h).length + 2) (Text.lines h.title) lines := by
  obtain ⟨lines, hlines, hcolumn⟩ := exists_inOneColumn
    (fun _ : h.title ≠ "" => width_lead level (headerTag level h) ": ") (width_spaces _)
    [level.paint (headerTag level h)]
  rw [text_paint] at hlines
  exact ⟨lines, hlines, hcolumn⟩

/-- A value of a header begins behind an arrow and a label with a space before and behind each. -/
theorem inOneColumn_headerField (label : String) (value : Option String) (shown : Bool) :
    InOneColumn (g.arrow.length + label.length + 3) (shownLines value shown)
      ((headerField g level label value shown).map (Line.print false)) := by
  have hlead : Line.width [level.paint (" " ++ g.arrow), { text := " " ++ label ++ " " }] =
      g.arrow.length + label.length + 3 := by
    have hspace : " ".length = 1 := rfl
    rw [width_lead, String.length_append, String.length_append, String.length_append]
    omega
  cases hvalue : Text.nonempty? value with
  | none =>
    rw [headerField, hvalue, shownLines, Excerpt.nonempty?_eq_none_iff.mp hvalue, ite_self]
    exact .nil
  | some s =>
    obtain ⟨rfl, hne⟩ := Text.nonempty?_eq_some_iff.mp hvalue
    rw [headerField, hvalue, shownLines]
    cases shown with
    | false => exact .nil
    | true =>
      rw [if_pos rfl, Excerpt.messageLines_some hne]
      exact inOneColumn_hanging hlead (width_spaces _) s

/-- The message of a note begins behind its glyph and its title. -/
theorem inOneColumn_note (title message : String) :
    InOneColumn (g.note.length + (Text.onOneLine title).length + 3) (Text.physicalLines message)
      ((note g level title message).map (Line.print false)) := by
  refine inOneColumn_hanging ?_ (width_spaces _) message
  have hspace : " ".length = 1 := rfl
  have hcolon : ": ".length = 2 := rfl
  rw [width_lead, String.length_append, String.length_append]
  omega

end Headings

section Branches

variable {g : Glyphs} (level : Severity)

/-- With single marks, the title of a list of steps begins behind two columns. -/
theorem exists_stepsTitle_eq (hvertical : g.vertical.length = 1) (title : String) :
    ∃ lines, (stepsTitle g level title).map (Line.print false) =
        aloneIfEmpty level.symbol title ++ lines ∧
      InOneColumn 2 (Text.lines title) lines := by
  have hlead : Line.width [level.paint level.symbol, { text := " " }] = 2 := by
    rw [width_lead, level.length_symbol]
    rfl
  have hindent : Line.width [level.paint (g.vertical ++ " ")] = 2 := by
    rw [Line.width, text_paint, String.length_append, hvertical]
    rfl
  obtain ⟨lines, hlines, hcolumn⟩ :=
    exists_inOneColumn (fun _ => hlead) hindent [level.paint level.symbol]
  rw [text_paint] at hlines
  exact ⟨lines, hlines, hcolumn⟩

/-- Their final message begins behind four columns. -/
theorem exists_stepsEnd_eq (hg : g.Single) (hpointer : g.pointer.length = 1)
    (finalMessage : String) :
    ∃ lines, (stepsEnd g level finalMessage).map (Line.print false) =
        aloneIfEmpty (g.bottomCorner ++ g.horizontal) finalMessage ++ lines ∧
      InOneColumn 4 (Text.lines finalMessage) lines := by
  have hlead : Line.width [level.paint (g.bottomCorner ++ g.horizontal ++ g.pointer),
      { text := " " }] = 4 := by
    rw [width_lead, String.length_append, String.length_append, hg.bottomCorner, hg.horizontal,
      hpointer]
    rfl
  obtain ⟨lines, hlines, hcolumn⟩ := exists_inOneColumn (fun _ => hlead) (width_spaces 4)
    [level.paint (g.bottomCorner ++ g.horizontal)]
  rw [text_paint] at hlines
  exact ⟨lines, hlines, hcolumn⟩

/-- So does the message of the outermost error of a stack. -/
theorem exists_errorMessage_eq (hg : g.Single) (hpointer : g.pointer.length = 1)
    (error : StackError) :
    ∃ lines, (errorMessage g level false error).map (Line.print false) =
        aloneIfEmpty (g.topCorner ++ g.horizontal) error.message ++ lines ∧
      InOneColumn 4 (Text.lines error.message) lines := by
  have hlead : error.message ≠ "" →
      Line.width [level.paint (errorLead g false error), { text := " " }] = 4 := by
    intro hne
    rw [width_lead, errorLead, if_neg Bool.false_ne_true, if_neg (by simpa using hne),
      String.length_append, String.length_append, hg.topCorner, hg.horizontal, hpointer]
    rfl
  have hindent : Line.width [level.paint (g.vertical ++ Text.spaces 3)] = 4 := by
    rw [Line.width, text_paint, String.length_append, hg.vertical, Text.length_spaces]
  obtain ⟨lines, hlines, hcolumn⟩ :=
    exists_inOneColumn hlead hindent [level.paint (errorLead g false error)]
  refine ⟨lines, hlines.trans ?_, hcolumn⟩
  -- The lead of an error without a message has no pointer.
  rw [text_paint, aloneIfEmpty, aloneIfEmpty, errorLead, if_neg Bool.false_ne_true]
  by_cases hempty : error.message = ""
  · rw [if_pos hempty, if_pos hempty, if_pos (by simpa using hempty), String.append_empty]
  · rw [if_neg hempty, if_neg hempty]

end Branches

end Diagnostics.Layout

namespace Diagnostics.Excerpt

variable (g : Glyphs) (level : Severity) (e : Excerpt)

/-- The title and the top border of an excerpt begin right of the gutter. -/
theorem inOneColumn_topLines :
    Layout.InOneColumn (e.gutterWidth + 1) (messageLines e.options.title ++ [topBorder g e.options])
      ((topLines g level e.gutterWidth e.options).map (Line.print false)) := by
  have hwidth : 1 ≤ e.gutterWidth := by
    unfold gutterWidth
    split
    · exact le_rfl
    · exact Nat.length_repr_pos
  have hsymbol : (Text.padLeft e.gutterWidth level.symbol ++ " ").length = e.gutterWidth + 1 := by
    rw [String.length_append, Text.length_padLeft, level.length_symbol, Nat.max_eq_left hwidth]
    rfl
  obtain ⟨first, rest, hparts, hlines⟩ := exists_topLines_eq g level e.gutterWidth e.options
  rw [hparts, hlines]
  exact Layout.inOneColumn_cons hsymbol (Text.length_spaces _) first rest

/-- The final message of an excerpt begins behind the bottom border. -/
theorem exists_bottomLines_eq_message :
    ∃ lines, (bottomLines g e.gutterWidth e.options).map (Line.print false) =
        (if messageLines e.options.finalMessage = [] then
          [Text.spaces (e.gutterWidth + 1) ++ g.bottomCorner ++ g.horizontal] else []) ++ lines ∧
      Layout.InOneColumn (e.gutterWidth + g.bottomCorner.length + g.horizontal.length + 2)
        (messageLines e.options.finalMessage) lines := by
  let border := Text.spaces (e.gutterWidth + 1) ++ g.bottomCorner ++ g.horizontal
  have hborder : border.length + 1 =
      e.gutterWidth + g.bottomCorner.length + g.horizontal.length + 2 := by
    rw [String.length_append, String.length_append, Text.length_spaces]
    omega
  have hprint : ∀ text : String, Line.print false (Line.plain text) = text := fun text => by
    rw [Line.print_false, text_plain]
  cases hmessage : Text.nonempty? e.options.finalMessage with
  | none =>
    rw [nonempty?_eq_none_iff.mp hmessage, bottomLines, hmessage, List.map_singleton, hprint]
    exact ⟨[], rfl, .nil⟩
  | some message =>
    obtain ⟨hpresent, hne⟩ := Text.nonempty?_eq_some_iff.mp hmessage
    have hspace : (border ++ " ").length = border.length + 1 := by
      rw [String.length_append]
      rfl
    rw [hpresent, messageLines_some hne, if_neg (List.cons_ne_nil _ _), bottomLines, hmessage]
    simp only [List.map_cons, List.map_map, Function.comp_def, hprint]
    exact ⟨_, rfl, Layout.inOneColumn_cons (hspace.trans hborder)
      ((Text.length_spaces _).trans hborder) _ _⟩

end Diagnostics.Excerpt

namespace Diagnostics.Layout

section Blocks

variable (g : Glyphs) (level : Severity)

/-- A header is printed as the lines of its title and of each value that is shown, those of each
text in one column. A header without a title begins with its tag alone. -/
def HeaderAligned (h : Header) : Prop :=
  ∃ title location timestamp thread,
    (Diagnostic.ofBlock level (.header h)).render g false =
      .ok (aloneIfEmpty (headerTag level h) h.title ++ title ++ location ++ timestamp ++ thread) ∧
    InOneColumn ((headerTag level h).length + 2) (Text.lines h.title) title ∧
    InOneColumn (g.arrow.length + 5) (shownLines h.location h.showLocation) location ∧
    InOneColumn (g.arrow.length + 5) (shownLines h.timestamp h.showTimestamp) timestamp ∧
    InOneColumn (g.arrow.length + 12) (shownLines h.threadId h.showThread) thread

/-- A note is printed as the lines of its message in one column. -/
def NoteAligned (title message : String) : Prop :=
  ∃ lines, (Diagnostic.ofBlock level (.note title message)).render g false = .ok lines ∧
    InOneColumn (g.note.length + (Text.onOneLine title).length + 3) (Text.physicalLines message)
      lines

/-- The lines of a drawn excerpt are those of its title and the top border, in one column, its rows,
and those of its final message in another. Without a final message the bottom border stands
alone. -/
def ExcerptAligned (e : Excerpt) (drawn : List Line) : Prop :=
  ∃ rows top bottom, e.rows = .ok rows ∧
    drawn.map (Line.print false) = top ++ rows.map (Excerpt.Row.printed g e.gutterWidth level) ++
      ((if Excerpt.messageLines e.options.finalMessage = [] then
        [Text.spaces (e.gutterWidth + 1) ++ g.bottomCorner ++ g.horizontal] else []) ++ bottom) ∧
    InOneColumn (e.gutterWidth + 1)
      (Excerpt.messageLines e.options.title ++ [Excerpt.topBorder g e.options]) top ∧
    InOneColumn (e.gutterWidth + g.bottomCorner.length + g.horizontal.length + 2)
      (Excerpt.messageLines e.options.finalMessage) bottom

/-- A list of steps is printed as the lines of its title in one column, its steps, and the lines of
its final message in another. Without one of the texts its lead stands alone. -/
def StepsAligned (title : String) (items : List Block) (finalMessage : String) : Prop :=
  ∃ top body bottom, steps g level items = .ok body ∧
    (Diagnostic.ofBlock level (.steps title items finalMessage)).render g false =
      .ok (aloneIfEmpty level.symbol title ++ top ++ body.map (Line.print false) ++
        (aloneIfEmpty (g.bottomCorner ++ g.horizontal) finalMessage ++ bottom)) ∧
    InOneColumn 2 (Text.lines title) top ∧
    InOneColumn 4 (Text.lines finalMessage) bottom

/-- A stack is printed as the lines of the message of its outermost error in one column, and what
follows them. Without that message its lead stands alone. -/
def StackAligned (s : Stack) : Prop :=
  ∃ message rest, (Diagnostic.ofBlock level (.stack s)).render g false =
      .ok (aloneIfEmpty (g.topCorner ++ g.horizontal) s.error.message ++ message ++ rest) ∧
    InOneColumn 4 (Text.lines s.error.message) message

/-- Every header is aligned. -/
theorem headerAligned (h : Header) : HeaderAligned g level h := by
  obtain ⟨title, htitle, hcolumn⟩ := exists_headerTitle_eq level h
  refine ⟨title, _, _, _, ?_, hcolumn, inOneColumn_headerField g level "in" _ _,
    inOneColumn_headerField g level "at" _ _, inOneColumn_headerField g level "in thread" _ _⟩
  have hblock : block g level (.header h) = .ok (header g level h) := by rw [block]
  rw [Diagnostic.render_ofBlock hblock, header]
  simp only [List.map_append, htitle]

/-- Every note is aligned. -/
theorem noteAligned (title message : String) : NoteAligned g level title message := by
  have hblock : block g level (.note title message) = .ok (note g level title message) := by
    rw [block]
  exact ⟨_, Diagnostic.render_ofBlock hblock false, inOneColumn_note g level title message⟩

variable {g level} in
/-- Every drawn excerpt is aligned. -/
theorem excerptAligned_of_draw {e : Excerpt} {drawn : List Line}
    (hdraw : e.draw g level = .ok drawn) : ExcerptAligned g level e drawn := by
  obtain ⟨rows, hrows, -⟩ := Excerpt.exists_rows_of_draw hdraw
  obtain ⟨bottom, hbottom, hcolumn⟩ := Excerpt.exists_bottomLines_eq_message g e
  have hprint := Excerpt.print_draw hrows g level
  rw [hdraw, hbottom] at hprint
  exact ⟨rows, _, bottom, hrows, Except.ok.inj hprint, Excerpt.inOneColumn_topLines g level e,
    hcolumn⟩

variable {g} in
/-- Every list of steps without a foreign value is aligned if the marks are single. -/
theorem stepsAligned (hg : g.Single) (hpointer : g.pointer.length = 1) {items : List Block}
    (hitems : Block.foreignsOfAll items = []) (title finalMessage : String) :
    StepsAligned g level title items finalMessage := by
  have hsteps := steps_failsFor g level items
  rw [hitems] at hsteps
  obtain ⟨body, hbody⟩ := hsteps
  have hblock : block g level (.steps title items finalMessage) =
      .ok (stepsTitle g level title ++ body ++ stepsEnd g level finalMessage) := by
    rw [block, hbody]
    rfl
  obtain ⟨top, htop, htopColumn⟩ := exists_stepsTitle_eq level hg.vertical title
  obtain ⟨bottom, hbottom, hbottomColumn⟩ := exists_stepsEnd_eq level hg hpointer finalMessage
  refine ⟨top, body, bottom, hbody, ?_, htopColumn, hbottomColumn⟩
  rw [Diagnostic.render_ofBlock hblock, List.map_append, List.map_append, htop, hbottom]

variable {g} in
/-- Every stack is aligned if the marks are single. -/
theorem stackAligned (hg : g.Single) (hpointer : g.pointer.length = 1) (s : Stack) :
    StackAligned g level s := by
  have hblock : block g level (.stack s) = .ok (stack g level s) := by rw [block]
  obtain ⟨message, hmessage, hcolumn⟩ := exists_errorMessage_eq level hg hpointer s.error
  have hstack : ∃ rest, stack g level s = errorMessage g level false s.error ++ rest := by
    rw [stack, stackError, List.append_assoc, List.append_assoc]
    exact ⟨_, rfl⟩
  obtain ⟨rest, hrest⟩ := hstack
  refine ⟨message, rest.map (Line.print false), ?_, hcolumn⟩
  rw [Diagnostic.render_ofBlock hblock, hrest, List.map_append, hmessage]

end Blocks

/-- Continuation lines stand under their first line. Printed without colour, the lines of the title
and of each shown value of a header, of the message of a note, and of the title and the final
message of a drawn excerpt begin in one column each, whatever the glyphs; a code block is always
drawn. With the built-in tables so do the lines of the title and of the final message of a list of
steps, and those of the message of the outermost error of a stack. No line of a text is lost, and
the lines keep their order. -/
theorem continuations_in_one_column (level : Severity) :
    (∀ g h, HeaderAligned g level h) ∧
    (∀ g title message, NoteAligned g level title message) ∧
    (∀ g (e : Excerpt) drawn, e.draw g level = .ok drawn → ExcerptAligned g level e drawn) ∧
    (∀ g (c : Code), ∃ drawn, c.excerpt.draw g level = .ok drawn ∧
      (Diagnostic.ofBlock level (.code c)).render g false =
        .ok (drawn.map (Line.print false))) ∧
    ∀ g, g = .boxDrawing ∨ g = .ascii →
      (∀ title items finalMessage, Block.foreignsOfAll items = [] →
        StepsAligned g level title items finalMessage) ∧
      ∀ s, StackAligned g level s := by
  have hmarks (g : Glyphs) (hg : g = .boxDrawing ∨ g = .ascii) :
      g.Single ∧ g.pointer.length = 1 := by
    rcases hg with rfl | rfl
    · exact ⟨Glyphs.boxDrawing_visible.toSingle, by decide⟩
    · exact ⟨Glyphs.ascii_visible.toSingle, by decide⟩
  refine ⟨fun g h => headerAligned g level h, fun g => noteAligned g level,
    fun g e drawn => excerptAligned_of_draw, fun g c => ?_, fun g hg => ?_⟩
  · obtain ⟨drawn, hdrawn⟩ := c.exists_draw g level
    have hblock : block g level (.code c) = .ok drawn := by rw [block, hdrawn]
    exact ⟨drawn, hdrawn, Diagnostic.render_ofBlock hblock false⟩
  · obtain ⟨hsingle, hpointer⟩ := hmarks g hg
    exact ⟨fun title items finalMessage hitems =>
      stepsAligned level hsingle hpointer hitems title finalMessage,
      stackAligned level hsingle hpointer⟩

/-- An excerpt with a title and a final message of two lines each. -/
def titled : Excerpt :=
  { Excerpt.nested with options := { title := some "t\r\nu", finalMessage := some "m\nn" } }

/-- A glyph table without corners and bars, in which the marks of headers and notes are wide. -/
def wideMarks : Glyphs where
  vertical := ""
  horizontal := ""
  topCorner := ""
  bottomCorner := ""
  marker := "^^"
  ellipsis := ""
  arrow := "==>"
  newline := ""
  note := "note"
  pointer := ">>"
  branch := ""

/-- With wide marks and without corners, the titles of an excerpt and of a header and the final
message begin in columns of their own. A list of steps and a stack have theirs at two and four. -/
theorem continuations_in_one_column_titled :
    (∃ drawn rows top bottom, titled.draw wideMarks .warn = .ok drawn ∧
      drawn.map (Line.print false) = top ++ rows ++ bottom ∧
      InOneColumn 2 ["t", "u", ""] top ∧ InOneColumn 3 ["m", "n"] bottom) ∧
    (∃ title location,
      (Diagnostic.ofBlock .warn (.header
        { title := "a\u2028b", code := some "E1", location := some "x\x0by" })).render
          wideMarks false = .ok (title ++ location) ∧
      InOneColumn 10 ["a", "b"] title ∧ InOneColumn 8 ["x", "y"] location) ∧
    (∃ top body bottom,
      (Diagnostic.ofBlock .warn (.steps "a\r\nb" [.tag "s"] "c\x85d\n")).render .ascii false =
        .ok (top ++ body ++ bottom) ∧
      InOneColumn 2 ["a", "b"] top ∧ InOneColumn 4 ["c", "d"] bottom) ∧
    ∃ message rest,
      (Diagnostic.ofBlock .warn (.stack { error := { message := "\ne" } })).render
        .boxDrawing false = .ok (message ++ rest) ∧
      InOneColumn 4 ["", "e"] message := by
  have hresolved : titled.Resolved := by
    unfold Excerpt.Resolved
    decide
  obtain ⟨rows, hrows⟩ := hresolved.exists_rows_iff.mpr ⟨by decide, by decide⟩
  have hdraw : titled.draw wideMarks .warn = .ok (titled.frame wideMarks .warn rows) := by
    rw [Excerpt.draw, hrows]
    rfl
  obtain ⟨hheader, -, hexcerpt, -, htrees⟩ := continuations_in_one_column .warn
  obtain ⟨shown, top, bottom, -, hlines, htop, hbottom⟩ := hexcerpt wideMarks titled _ hdraw
  obtain ⟨title, location, timestamp, thread, hrender, htitle, hlocation, htime, hthread⟩ :=
    hheader wideMarks
      { title := "a\u2028b", code := some "E1", location := some "x\x0by" }
  obtain ⟨first, body, last, -, hsteps, hfirst, hlast⟩ :=
    (htrees .ascii (.inr rfl)).1 "a\r\nb" [.tag "s"] "c\x85d\n" rfl
  obtain ⟨message, rest, hstack, hmessage⟩ :=
    (htrees .boxDrawing (.inl rfl)).2 { error := { message := "\ne" } }
  refine ⟨⟨_, _, top, bottom, hdraw, hlines, htop, hbottom⟩,
    ⟨title, location, ?_, htitle, hlocation⟩, ⟨first, _, last, hsteps, hfirst, hlast⟩,
    ⟨message, rest, hstack, hmessage⟩⟩
  cases htime
  cases hthread
  simpa [aloneIfEmpty] using hrender

end Diagnostics.Layout
