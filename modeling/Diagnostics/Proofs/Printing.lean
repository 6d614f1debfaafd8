import Diagnostics.Proofs.LayoutCharacters
import Diagnostics.Proofs.PrintedRows
import Diagnostics.Proofs.Totality

/-!
# Printed lines

Printing brackets the emphasised pieces of a line with escape sequences. Where no piece holds an
escape character, erasing the sequences undoes this, so colour changes nothing but the look of a
line. And since neither layout nor an escape sequence has a line feed, each line is printed on one
physical line.
-/

namespace Diagnostics

namespace Styled

/-- Only the escape character begins an escape sequence. -/
theorem escapeLength_of_ne {c : Char} (hc : c ≠ '\x1b') (cs : List Char) :
    escapeLength (c :: cs) = 0 := by
  unfold escapeLength
  split
  · rename_i heq
    exact absurd (List.cons.inj heq).1 hc
  · rfl

/-- Characters before the first escape character are kept. -/
theorem eraseFrom_append_of_not_mem {cs : List Char} (h : '\x1b' ∉ cs) (rest : List Char) :
    eraseFrom 0 (cs ++ rest) = cs ++ eraseFrom 0 rest := by
  induction cs with
  | nil => rfl
  | cons c cs ih =>
    rw [List.mem_cons, not_or] at h
    rw [List.cons_append, eraseFrom, escapeLength_of_ne (Ne.symm h.1)]
    exact congrArg (c :: ·) (ih h.2)

/-- The rest of a sequence already begun is skipped. -/
theorem eraseFrom_length_append (cs rest : List Char) :
    eraseFrom cs.length (cs ++ rest) = eraseFrom 0 rest := by
  induction cs with
  | nil => rfl
  | cons c cs ih => exact ih

/-- Characters that are one escape sequence: an escape character, a bracket, parameters and a
letter. -/
def IsEscape (cs : List Char) : Prop :=
  ∃ parameters letter, cs = '\x1b' :: '[' :: (parameters ++ [letter]) ∧
    parameters.all isParameter = true ∧ letter.isAlpha = true

/-- A letter is no parameter, so it ends the sequence it stands in. -/
theorem isParameter_eq_false_of_isAlpha {c : Char} (h : c.isAlpha = true) :
    isParameter c = false := by
  rw [← Bool.not_eq_true]
  intro hparameter
  simp only [isParameter, Bool.or_eq_true, beq_iff_eq] at hparameter
  obtain ⟨rfl | rfl⟩ | hdigit := hparameter
  · revert h
    decide
  · revert h
    decide
  · have hhigh : c.toNat ≤ 57 := (Char.isDigit_iff_toNat.mp hdigit).2
    simp only [Char.isAlpha, Char.isUpper, Char.isLower, Bool.or_eq_true, Bool.and_eq_true,
      decide_eq_true_eq, ge_iff_le] at h
    have hlow : 65 ≤ c.toNat := by
      rcases h with h | h
      · exact UInt32.le_iff_toNat_le.mp h.1
      · exact le_trans (by decide) (UInt32.le_iff_toNat_le.mp h.1)
    omega

/-- An escape sequence ends with its letter, whatever comes behind. -/
theorem escapeLength_append {cs : List Char} (h : IsEscape cs) (rest : List Char) :
    escapeLength (cs ++ rest) = cs.length := by
  obtain ⟨parameters, letter, rfl, hall, hletter⟩ := h
  have hends := isParameter_eq_false_of_isAlpha hletter
  have hparameter := List.all_eq_true.mp hall
  have hdrop : (parameters ++ letter :: rest).dropWhile isParameter = letter :: rest := by
    rw [List.dropWhile_append_of_pos hparameter,
      List.dropWhile_cons_of_neg (by rw [hends]; decide)]
  have htake : (parameters ++ letter :: rest).takeWhile isParameter = parameters := by
    rw [List.takeWhile_append_of_pos hparameter,
      List.takeWhile_cons_of_neg (by rw [hends]; decide), List.append_nil]
  rw [List.cons_append, List.cons_append, List.append_assoc, List.singleton_append, escapeLength,
    hdrop, htake]
  simp [hletter]

/-- An escape sequence is erased. -/
theorem eraseFrom_append_of_isEscape {cs : List Char} (h : IsEscape cs) (rest : List Char) :
    eraseFrom 0 (cs ++ rest) = eraseFrom 0 rest := by
  have hlength := escapeLength_append h rest
  obtain ⟨parameters, letter, rfl, -⟩ := h
  have hskip := eraseFrom_length_append ('[' :: (parameters ++ [letter])) rest
  rw [List.cons_append] at hlength ⊢
  rw [eraseFrom, hlength]
  exact hskip

/-- The characters of an escape sequence. -/
theorem toList_escape (parameter : String) :
    (escape parameter).toList = '\x1b' :: '[' :: (parameter.toList ++ ['m']) := by
  rw [escape, String.toList_append, String.toList_append]
  rfl

/-- What selects a colour or an emphasis is an escape sequence, so it is erased. -/
theorem eraseFrom_escape {parameter : String} (h : parameter.toList.all isParameter = true)
    (rest : List Char) :
    eraseFrom 0 ((escape parameter).toList ++ rest) = eraseFrom 0 rest :=
  eraseFrom_append_of_isEscape ⟨_, _, toList_escape parameter, h, by decide⟩ rest

/-- The parameter of a colour is a number. -/
theorem all_isParameter_parameter (colour : Colour) :
    colour.parameter.toList.all isParameter = true := by
  cases colour <;> decide

/-- Of a text in bold and in a colour the text is left. -/
theorem eraseFrom_embolden {text : String} (h : '\x1b' ∉ text.toList) (colour : Option Colour)
    (rest : List Char) :
    eraseFrom 0 ((embolden colour text).toList ++ rest) = text.toList ++ eraseFrom 0 rest := by
  have hbold : eraseFrom 0 ((escape "1").toList ++ (text.toList ++ ((escape "0").toList ++ rest))) =
      text.toList ++ eraseFrom 0 rest := by
    rw [eraseFrom_escape (by decide), eraseFrom_append_of_not_mem h, eraseFrom_escape (by decide)]
  simp only [embolden, String.toList_append, List.append_assoc]
  cases colour with
  | none => exact hbold
  | some colour =>
    rw [escapeColour, eraseFrom_escape (all_isParameter_parameter colour)]
    exact hbold

end Styled

section Pieces

variable {c : Char} {color : Bool}

/-- Erasing the escape sequences of a printed piece leaves its text. -/
theorem Piece.eraseFrom_print {piece : Piece} (h : '\x1b' ∉ piece.text.toList)
    (rest : List Char) :
    Styled.eraseFrom 0 ((piece.print color).toList ++ rest) =
      piece.text.toList ++ Styled.eraseFrom 0 rest := by
  unfold Piece.print
  split
  · exact Styled.eraseFrom_append_of_not_mem h rest
  · split
    · exact Styled.eraseFrom_embolden h _ rest
    · exact Styled.eraseFrom_append_of_not_mem h rest

/-- Erasing the escape sequences of a printed line leaves its text. -/
theorem Line.eraseEscapes_print {line : Line} (h : line.Avoids '\x1b') :
    Styled.eraseEscapes (line.print color) = line.text := by
  have herased : Styled.eraseFrom 0 (line.print color).toList = line.text.toList := by
    induction line with
    | nil => rfl
    | cons piece line ih =>
      rw [Line.avoids_cons] at h
      rw [Line.print, List.map_cons, String.join_cons, String.toList_append,
        Piece.eraseFrom_print h.1]
      rw [Line.text, List.map_cons, String.join_cons, String.toList_append]
      exact congrArg _ (ih h.2)
  rw [Styled.eraseEscapes, herased, String.ofList_toList]

/-- Escape sequences have one character that is not printable. -/
theorem Styled.not_mem_escape (hc : Text.isPrintable c = false) (hescape : c ≠ '\x1b')
    {parameter : String} (h : parameter.toList.all Text.isPrintable = true) :
    c ∉ (Styled.escape parameter).toList := by
  have hparameter := Text.not_mem_of_all_isPrintable hc h
  have hbracket : c ≠ '[' := fun heq => by rw [heq] at hc; revert hc; decide
  have hletter : c ≠ 'm' := fun heq => by rw [heq] at hc; revert hc; decide
  rw [Styled.toList_escape]
  simp only [List.mem_cons, List.mem_append, List.not_mem_nil, or_false, not_or]
  exact ⟨hescape, hbracket, hparameter, hletter⟩

/-- Printing a piece adds printable characters and escape characters only. -/
theorem Piece.not_mem_print (hc : Text.isPrintable c = false) (hescape : c ≠ '\x1b')
    {piece : Piece} (h : c ∉ piece.text.toList) : c ∉ (piece.print color).toList := by
  unfold Piece.print
  split
  · exact h
  · rename_i colour _
    split
    · have hcolour : c ∉ (Styled.escapeColour colour).toList := by
        cases colour with
        | none => exact List.not_mem_nil
        | some colour => exact Styled.not_mem_escape hc hescape (by cases colour <;> decide)
      simp only [Styled.embolden, Text.not_mem_append]
      exact ⟨⟨⟨hcolour, Styled.not_mem_escape hc hescape (by decide)⟩, h⟩,
        Styled.not_mem_escape hc hescape (by decide)⟩
    · exact h

/-- Printing a line adds printable characters and escape characters only. -/
theorem Line.not_mem_print (hc : Text.isPrintable c = false) (hescape : c ≠ '\x1b') {line : Line}
    (h : line.Avoids c) : c ∉ (line.print color).toList := by
  rw [Line.print, String.toList_join, List.mem_flatMap]
  rintro ⟨s, hs, hmem⟩
  obtain ⟨piece, hpiece, rfl⟩ := List.mem_map.mp hs
  exact Piece.not_mem_print hc hescape (h piece hpiece) hmem

end Pieces

namespace Diagnostic

/-- Rendering prints the lines of the layout. -/
theorem exists_layout_of_blocks {d : Diagnostic} (h : d.foreigns = []) (g : Glyphs) :
    ∃ lines, d.layout g = .ok lines ∧
      ∀ color, d.render g color = .ok (lines.map (Line.print color)) := by
  have hlayout := Layout.reports_failsFor g d.reports
  rw [show (d.reports.flatMap fun r => Block.foreignsOfAll r.blocks) = [] from h] at hlayout
  obtain ⟨lines, hlines⟩ := hlayout
  have hlines : d.layout g = .ok lines := hlines
  refine ⟨lines, hlines, fun color => ?_⟩
  rw [render, hlines]
  rfl

/-- Colour only adds styling. A diagnostic of blocks that has no escape character, drawn with marks
that have none, renders with colour and without into the same number of lines, and erasing the
escape sequences of each coloured line gives the plain one. -/
theorem render_colour_erased {d : Diagnostic} {g : Glyphs} (hblocks : d.foreigns = [])
    (hd : ∀ f ∈ d.fragments, '\x1b' ∉ f.text.toList) (hg : g.Avoids '\x1b') :
    ∃ coloured plain, d.render g true = .ok coloured ∧ d.render g false = .ok plain ∧
      coloured.length = plain.length ∧ coloured.map Styled.eraseEscapes = plain := by
  obtain ⟨lines, hlines, hrender⟩ := d.exists_layout_of_blocks hblocks g
  have havoids : ∀ line ∈ lines, line.Avoids '\x1b' := fun line hline =>
    avoids_of_mem_layout (by decide) hg (fun f hf => Fragment.hides_of_not_mem (hd f hf)) hlines
      hline
  refine ⟨_, _, hrender true, hrender false, ?_, ?_⟩
  · rw [List.length_map, List.length_map]
  · rw [List.map_map]
    refine List.map_congr_left fun line hline => ?_
    rw [Function.comp_apply, Line.eraseEscapes_print (havoids line hline), Line.print_false]

/-- A code block over the first of two lines, in an ink of its own and with a message of two
lines. -/
def remark : Code where
  source := ⟨"é\nb"⟩
  spans := [⟨0, 2, some "one\r\ntwo", none, some .info⟩]
  options := {}
  highlights := [⟨⟨0, 2, some "one\r\ntwo", none, some .info⟩, ⟨1, 1, 0⟩, ⟨1, 2, 2⟩⟩]
  resolved := by decide +kernel
  nonnegative := ⟨by decide, by decide, by decide⟩
  text_ne := by decide
  displayed_ne := by decide

/-- A header, an excerpt and some steps, of which one has a lead, with a tag as the cause. -/
def layered : Diagnostic where
  report := ⟨.error, [.header { title := "a\nb", code := some "E1" }, .code remark,
    .steps "try" [.separator ⟨3, '-', by decide⟩, .prefixed "> " (.note "see" "x\u2028y")] ""]⟩
  causes := [⟨.warn, [.tag "c\nd"]⟩]

/-- Those blocks are all blocks, and none of their strings has an escape character. -/
theorem render_colour_erased_layered :
    layered.foreigns = [] ∧ (∀ f ∈ layered.fragments, '\x1b' ∉ f.text.toList) ∧
      Glyphs.boxDrawing.Avoids '\x1b' ∧
      ∃ coloured plain, layered.render .boxDrawing true = .ok coloured ∧
        layered.render .boxDrawing false = .ok plain ∧ coloured.length = plain.length ∧
        coloured.map Styled.eraseEscapes = plain := by
  have hblocks : layered.foreigns = [] := by rfl
  have hstrings : ∀ f ∈ layered.fragments, '\x1b' ∉ f.text.toList := by decide
  have hmarks : Glyphs.boxDrawing.Avoids '\x1b' := Glyphs.boxDrawing_avoids (by decide)
  exact ⟨hblocks, hstrings, hmarks, render_colour_erased hblocks hstrings hmarks⟩

/-- Lines without line feeds that are joined by line feeds can be told apart again. -/
theorem splitOn_intercalate_feed {lines : List String} (hne : lines ≠ [])
    (h : ∀ line ∈ lines, '\n' ∉ line.toList) :
    (("\n".intercalate lines).toList.splitOn '\n').map String.ofList = lines := by
  have hfeed : ∀ cs ∈ lines.map String.toList, '\n' ∉ cs := List.forall_mem_map.mpr h
  rw [String.toList_intercalate, show "\n".toList = ['\n'] from rfl,
    List.splitOn_intercalate '\n' hfeed (by simpa using hne), List.map_map]
  exact List.map_id'' (fun s => String.ofList_toList) lines

/-- Each rendered line is one line. In a diagnostic of blocks, where no string that is put in as it
stands has a line feed, and with marks that have none, no rendered line has one. So unless there are
no lines, splitting the rendered text at its line feeds gives back the lines. -/
theorem render_unbroken {d : Diagnostic} {g : Glyphs} (hblocks : d.foreigns = [])
    (hd : ∀ f ∈ d.fragments, f.cut = .nowhere → '\n' ∉ f.text.toList) (hg : g.Avoids '\n')
    (color : Bool) :
    ∃ lines, d.render g color = .ok lines ∧ (∀ line ∈ lines, '\n' ∉ line.toList) ∧
      (lines ≠ [] → ∃ text, d.renderText g color = .ok text ∧
        (text.toList.splitOn '\n').map String.ofList = lines) := by
  have hhides : ∀ f ∈ d.fragments, f.Hides '\n' := by
    intro f hf hmem
    cases hcut : f.cut with
    | nowhere => exact absurd hmem (hd f hf hcut)
    | atFeeds => rfl
    | atBoundaries => rfl
  obtain ⟨lines, hlines, hrender⟩ := d.exists_layout_of_blocks hblocks g
  have hunbroken : ∀ line ∈ lines.map (Line.print color), '\n' ∉ line.toList := by
    refine List.forall_mem_map.mpr fun line hline => ?_
    exact Line.not_mem_print (by decide) (by decide)
      (avoids_of_mem_layout (by decide) hg hhides hlines hline)
  refine ⟨_, hrender color, hunbroken, fun hne => ⟨_, ?_, splitOn_intercalate_feed hne hunbroken⟩⟩
  rw [renderText, hrender color]
  rfl

/-- In that diagnostic only the lead of a step and the code of the header are put in as they stand,
so no line has a line feed, although several of its strings have one. -/
theorem render_unbroken_layered :
    layered.foreigns = [] ∧ (∀ f ∈ layered.fragments, f.cut = .nowhere → '\n' ∉ f.text.toList) ∧
      Glyphs.ascii.Avoids '\n' ∧
      ∃ lines, layered.render .ascii true = .ok lines ∧ ∀ line ∈ lines, '\n' ∉ line.toList := by
  have hblocks : layered.foreigns = [] := by rfl
  have hstrings : ∀ f ∈ layered.fragments, f.cut = .nowhere → '\n' ∉ f.text.toList := by decide
  have hmarks : Glyphs.ascii.Avoids '\n' := Glyphs.ascii_avoids (by decide)
  obtain ⟨lines, hlines, hunbroken, -⟩ := render_unbroken hblocks hstrings hmarks true
  exact ⟨hblocks, hstrings, hmarks, lines, hlines, hunbroken⟩

end Diagnostic

end Diagnostics
