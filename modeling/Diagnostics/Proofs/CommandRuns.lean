import Diagnostics.Command.Run
import Diagnostics.Proofs.Decoding
import Diagnostics.Proofs.Paths
import Diagnostics.Proofs.Requests
import Diagnostics.Proofs.Totality

/-!
# From the octets of a file to an excerpt

A command line that names a file and gives spans comes to an excerpt of what is read from the file.
Offsets are those of the text that is read. In it each line break is a line feed, so they are the
offsets of the octets of the file exactly as long as the file has no carriage return.
-/

namespace Diagnostics.Command

section Arguments

variable {events : List Event} {p : Param}

/-- An option that is not given has no values. -/
theorem valuesOf_eq_nil (h : ∀ event ∈ events, event.param ≠ p) : valuesOf p events = [] := by
  refine List.filterMap_eq_nil_iff.mpr fun event hevent => ?_
  cases event with
  | value q text => exact if_neg (h _ hevent)
  | turn q on => rfl

/-- An option that is not given turns nothing on or off. -/
theorem lastTurn?_eq_none (h : ∀ event ∈ events, event.param ≠ p) : lastTurn? p events = none := by
  rw [lastTurn?, List.getLast?_eq_none_iff]
  refine List.filterMap_eq_nil_iff.mpr fun event hevent => ?_
  cases event with
  | value q text => rfl
  | turn q on => exact if_neg (h _ hevent)

end Arguments

/-- Arguments that name a file and give at least one span and some counts of context lines, and
nothing else. -/
structure Asks (r : Reading) (path : String) (spans : List Span)
    (previous next middle : Option ℤ) : Prop where
  words : r.words = [path]
  params : ∀ event ∈ r.events,
    event.param ∈ [Param.span, .previousLines, .nextLines, .middleLines]
  spans_ne : spans ≠ []
  spans_read : (valuesOf .span r.events).mapM readSpan = .ok spans
  previous_read : readInteger "--previous-lines" .previousLines r.events = .ok previous
  next_read : readInteger "--next-lines" .nextLines r.events = .ok next
  middle_read : readInteger "--middle-lines" .middleLines r.events = .ok middle

/-- The request that such arguments stand for, with defaults for all that they do not give. -/
def asked (path : String) (spans : List Span) (previous next middle : Option ℤ) : Request where
  path := path
  spans := spans
  previousLines := previous
  nextLines := next
  middleLines := middle

/-- What such a request shows beside the spans: the name of the file, and lines of context where
they are asked for. -/
def askedOptions (path : String) (previous next middle : Option ℤ) : Excerpt.Options where
  filePath := some (Path.ofText path).name
  previousLines := previous.getD 0
  nextLines := next.getD 0
  middleLines := middle.getD 0

section Asking

variable {t : FileTree} {directory : List String} {r : Reading} {path : String}
  {spans : List Span} {previous next middle : Option ℤ}

/-- What is not asked for is not given. -/
theorem Asks.param_ne (h : Asks r path spans previous next middle) {p : Param}
    (hp : p ∉ [Param.span, .previousLines, .nextLines, .middleLines]) :
    ∀ event ∈ r.events, event.param ≠ p := by
  rintro event hevent rfl
  exact hp (h.params event hevent)

/-- A path with octets passes the check of the path. -/
theorem checkPath_of_read {octets : List UInt8} (h : t.read directory path = .ok octets) :
    checkPath t directory path = .ok () := by
  obtain ⟨place, hplace, hfound⟩ := FileTree.read_eq_ok_iff.mp h
  have hfile := FileTree.hasDirectory_of_find?_file hfound
  rw [checkPath, hplace]
  simp [hfile]

/-- A path that passes the check has octets. -/
theorem exists_read_of_checkPath (h : checkPath t directory path = .ok ()) :
    ∃ octets, t.read directory path = .ok octets := by
  unfold checkPath at h
  split at h
  · cases h
  · cases h
  · rename_i place hplace
    split at h
    · cases h
    · rename_i hfile
      exact FileTree.exists_read_of_locate hplace (by simpa using hfile)

/-- If the path leads to a file, the arguments stand for the request they ask for. -/
theorem Asks.ofReading (h : Asks r path spans previous next middle) {octets : List UInt8}
    (hfile : t.read directory path = .ok octets) :
    Request.ofReading t directory r = .ok (asked path spans previous next middle) := by
  refine Request.ofReading_eq_ok_iff.mpr ⟨fun p => ?_, by rw [h.words]; rfl⟩
  have hvalues := fun p hp => valuesOf_eq_nil (h.param_ne (p := p) hp)
  have hturns := fun p hp => lastTurn?_eq_none (h.param_ne (p := p) hp)
  cases p with
  | path =>
    simp only [Request.Settles, Request.givenPath, h.words, checkPath_of_read hfile]
    rfl
  | span =>
    have hne : ¬(valuesOf .span r.events).isEmpty = true := by
      intro hempty
      have hread := h.spans_read
      rw [List.isEmpty_iff.mp hempty] at hread
      exact h.spans_ne (Except.ok.inj hread).symm
    simp only [Request.Settles, Request.givenSpans, if_neg hne]
    exact h.spans_read
  | level => simp only [Request.Settles, Request.givenLevel, hvalues .level (by decide)]; rfl
  | title => simp only [Request.Settles, hvalues .title (by decide)]; rfl
  | code => simp only [Request.Settles, hvalues .code (by decide)]; rfl
  | note => exact hvalues .note (by decide)
  | previousLines => exact h.previous_read
  | nextLines => exact h.next_read
  | middleLines => exact h.middle_read
  | ascii => simp only [Request.Settles, hturns .ascii (by decide)]; rfl
  | color => exact hturns .color (by decide)
  | output => simp only [Request.Settles, hvalues .output (by decide)]; rfl
  | version | verbose | help => trivial

end Asking

section Reading

variable {t : FileTree} {directory : List String} {path : String} {text : String}

/-- What is read from a file with a text. -/
def readText (text : String) : Source :=
  ⟨String.ofList (Text.unifyBreaks text.toList)⟩

/-- The octets of a file are read as the text they encode, with its line breaks made alike. -/
theorem readSource_eq {octets : List UInt8} (h : t.read directory path = .ok octets) :
    readSource t directory (Path.ofText path).text =
      match Text.decodeUtf8 octets with
      | .error fault => .error (.encoding fault)
      | .ok text => .ok (readText text) := by
  rw [readSource, FileTree.read_text_ofText h]
  rfl

/-- A file with the octets of a text is read as that text. -/
theorem readSource_of_read (h : t.read directory path = .ok (Text.octetsOf text)) :
    readSource t directory (Path.ofText path).text = .ok (readText text) := by
  rw [readSource_eq h, Text.decodeUtf8_octetsOf]

/-- What is read is empty exactly if the file is. -/
theorem readText_text_eq_empty_iff : (readText text).text = "" ↔ text = "" := by
  rw [← String.toList_eq_nil_iff, ← String.toList_eq_nil_iff, readText, String.toList_ofList]
  exact Text.unifyBreaks_eq_nil_iff

/-- Without a carriage return, what is read is the text of the file, and its offsets count the
octets of the file. -/
theorem readText_eq_of_not_mem (h : '\r' ∉ text.toList) :
    readText text = ⟨text⟩ ∧ (readText text).size = (Text.octetsOf text).length := by
  have hsame : readText text = ⟨text⟩ := by
    rw [readText, Text.unifyBreaks_eq_self_iff.mpr h, String.ofList_toList]
  refine ⟨hsame, ?_⟩
  rw [hsame, Text.length_octetsOf]
  rfl

end Reading

section Counts

/-- Integers are taken as counts of context lines unless one of them is negative. -/
theorem readCounts_integer (options : Excerpt.Options) (previous next middle : ℤ) :
    readCounts (.integer previous) (.integer next) (.integer middle) =
      match { options with previousLines := previous, nextLines := next,
                           middleLines := middle : Excerpt.Options }.negativeCount? with
      | some count => .error (.failure (.negativeCount count))
      | none => .ok ⟨.whole previous, .whole next, .whole middle⟩ := by
  have hread : ∀ (name : ContextCount) (n : ℤ), readCount name (.integer n) =
      if n < 0 then .error (.failure (.negativeCount name)) else .ok (.whole n) := by
    intro name n
    simp [readCount, Count.ofValue?, Count.isNegative]
  rw [readCounts, hread, hread, hread, Excerpt.Options.negativeCount?]
  by_cases hprevious : previous < 0
  · simp only [if_pos hprevious]
    rfl
  · by_cases hnext : next < 0
    · simp only [if_neg hprevious, if_pos hnext]
      rfl
    · by_cases hmiddle : middle < 0
      · simp only [if_neg hprevious, if_neg hnext, if_pos hmiddle]
        rfl
      · simp only [if_neg hprevious, if_neg hnext, if_neg hmiddle]
        rfl

/-- With integers as counts a code block is made as if they stood in the options. -/
theorem makeCode_integer (source : Source) (spans : List Span) {options : Excerpt.Options}
    (hoptions : options.Nonnegative) (previous next middle : ℤ) :
    makeCode source spans (.integer previous) (.integer next) (.integer middle) options =
      orFault (Code.make source spans { options with
        previousLines := previous, nextLines := next, middleLines := middle }) := by
  rw [makeCode, readCounts_integer options]
  set counted : Excerpt.Options := { options with
    previousLines := previous, nextLines := next, middleLines := middle } with hcounted
  cases hcount : counted.negativeCount? with
  | some count =>
    rw [Code.make_of_negativeCount hcount]
    rfl
  | none =>
    have hcounts := Excerpt.Options.nonnegative_of_negativeCount?_eq_none hcount
    by_cases htext : source.text = ""
    · have hempty : source.text.isEmpty = true := by simp [htext]
      rw [Code.make_of_empty hcounts htext]
      simp only [hempty]
      rfl
    · have hempty : source.text.isEmpty = false := by simpa using htext
      simp only [hempty]
      cases hspans : Highlight.resolveAll source spans with
      | error failure =>
        rw [Code.make_of_resolveAll_error hcounts htext hspans]
        rfl
      | ok highlights =>
        cases highlights with
        | nil =>
          -- Without highlights the counts are not looked at, and both sides find nothing to show.
          have hnothing : ∀ o : Excerpt.Options, o.Nonnegative →
              Code.make source spans o = .error .nothingHighlighted := by
            intro o ho
            rw [Code.make_of_resolveAll_ok ho htext hspans,
              dif_pos (Excerpt.displayedLines_of_nil rfl)]
          rw [hnothing counted hcounts]
          exact congrArg orFault (hnothing options hoptions)
        | cons a as => rfl

end Counts

section Execution

variable {t : FileTree} {directory : List String} {path text : String} {spans : List Span}
  {previous next middle : Option ℤ}

/-- The diagnostic of such a request: where the file is, and the excerpt. -/
def askedDiagnostic (path : String) (code : Code) : Diagnostic :=
  ⟨⟨.error, [.header { location := some (Path.ofText path).text }, .code code]⟩, []⟩

/-- Without settings, such a request comes to a code block with the counts asked for. -/
theorem buildDiagnostic_asked (path : String) (spans : List Span) (previous next middle : Option ℤ)
    (source : Source) :
    buildDiagnostic (asked path spans previous next middle) {} (Path.ofText path) source =
      (orFault (Code.make source spans (askedOptions path previous next middle))).map
        (askedDiagnostic path) := by
  have hcount : ∀ given : Option ℤ, chooseCount given (.integer 0) = .integer (given.getD 0) := by
    intro given
    cases given <;> rfl
  have hdefault : ({ filePath := some (Path.ofText path).name } : Excerpt.Options).Nonnegative :=
    ⟨le_rfl, le_rfl, le_rfl⟩
  have hmade := makeCode_integer source spans hdefault (previous.getD 0) (next.getD 0)
    (middle.getD 0)
  rw [← hcount, ← hcount, ← hcount] at hmade
  rw [askedOptions, ← hmade]
  rfl

/-- Without a settings file, executing such a request on a file is making a code block of what is
read and, if that succeeds, printing the header and the excerpt. -/
theorem execute_asked {start : String} (hfile : t.read directory path = .ok (Text.octetsOf text))
    (hsettings : Settings.find t directory path = .error (.notFound start)) :
    execute t directory false (asked path spans previous next middle) =
      match Code.make (readText text) spans (askedOptions path previous next middle) with
      | .error failure => .ofFault "" (.failure failure)
      | .ok code =>
        deliver t directory false (asked path spans previous next middle) {} ""
          (askedDiagnostic path code) := by
  have hnearest : readSettings t directory path = .ok (none, {}) := by
    rw [readSettings, Settings.nearest, hsettings]
  have hbuilt := buildDiagnostic_asked path spans previous next middle (readText text)
  have hpath : (asked path spans previous next middle).path = path := rfl
  simp only [execute, hpath, hnearest, readSource_of_read hfile, bind, Except.bind, hbuilt]
  cases Code.make (readText text) spans (askedOptions path previous next middle) with
  | error failure => rfl
  | ok code => rfl

/-- A code block is printed under the header that names its file. -/
theorem exists_render_asked (path : String) (code : Code) :
    ∃ drawn, code.excerpt.draw .boxDrawing .error = .ok drawn ∧
      (askedDiagnostic path code).render .boxDrawing false = .ok
        ((Layout.header .boxDrawing .error { location := some (Path.ofText path).text } ++
          drawn).map (Line.print false)) := by
  obtain ⟨drawn, hdrawn⟩ := code.exists_draw .boxDrawing .error
  refine ⟨drawn, hdrawn, ?_⟩
  have hlayout : (askedDiagnostic path code).layout .boxDrawing = .ok
      (Layout.header .boxDrawing .error { location := some (Path.ofText path).text } ++ drawn) := by
    simp only [Diagnostic.layout, askedDiagnostic, Diagnostic.reports, Layout.reports,
      Layout.blocks, Layout.block, hdrawn, bind, Except.bind, pure, Except.pure, List.append_nil]
  rw [Diagnostic.render, hlayout]
  rfl

/-- A fault ends a run with its status and without output. -/
theorem ofFault_silent (trace : String) (fault : Fault) :
    (Outcome.ofFault trace fault).status = fault.status ∧
      (Outcome.ofFault trace fault).stdout = "" ∧
      (Outcome.ofFault trace fault).written = none := by
  unfold Outcome.ofFault
  split <;> exact ⟨rfl, rfl, rfl⟩

/-- A run that ends with a fault does not end well. -/
theorem Fault.status_ne_zero (fault : Fault) : fault.status ≠ 0 := by
  unfold Fault.status
  split <;> decide

/-- A fault is handed on exactly if the command does not report it. -/
theorem ofFault_fault (trace : String) (fault : Fault) :
    (Outcome.ofFault trace fault).fault = if fault.isReported then none else some fault := by
  unfold Outcome.ofFault
  split <;> rfl

variable {arguments : List String} {r : Reading} {start : String}

/-- Running the command on such arguments is making a code block of what is read. -/
theorem run_asked (hfile : t.read directory path = .ok (Text.octetsOf text))
    (hsettings : Settings.find t directory path = .error (.notFound start))
    (hread : readArguments renderOptions .anyOrder none arguments = .ok r)
    (hasks : Asks r path spans previous next middle) :
    run t directory ("render" :: arguments) =
      match Code.make (readText text) spans (askedOptions path previous next middle) with
      | .error failure => .ofFault "" (.failure failure)
      | .ok code =>
        deliver t directory false (asked path spans previous next middle) {} ""
          (askedDiagnostic path code) := by
  have hrun : run t directory ("render" :: arguments) = render t directory false arguments := rfl
  have hhelp : lastTurn? .help r.events = none := lastTurn?_eq_none (hasks.param_ne (by decide))
  rw [hrun, render, hread]
  simp only [hhelp, Option.isSome_none, hasks.ofReading hfile]
  exact execute_asked hfile hsettings

/-- Making the code block decides how the run ends. -/
theorem run_asked_cases (hfile : t.read directory path = .ok (Text.octetsOf text))
    (hsettings : Settings.find t directory path = .error (.notFound start))
    (hread : readArguments renderOptions .anyOrder none arguments = .ok r)
    (hasks : Asks r path spans previous next middle)
    (hcounts : (askedOptions path previous next middle).Nonnegative) :
    (text ≠ "" ∧ (∀ span ∈ spans, span.Fits (readText text)) ∧
      ∃ highlights drawn, Highlight.resolveAll (readText text) spans = .ok highlights ∧
        Excerpt.draw ⟨readText text, highlights, askedOptions path previous next middle⟩
          .boxDrawing .error = .ok drawn ∧
        run t directory ("render" :: arguments) = { stdout := writtenForm false ("\n".intercalate
          ((Layout.header .boxDrawing .error { location := some (Path.ofText path).text } ++
            drawn).map (Line.print false))) }) ∨
    (¬(text ≠ "" ∧ ∀ span ∈ spans, span.Fits (readText text)) ∧
      (run t directory ("render" :: arguments)).status = 1 ∧
        (run t directory ("render" :: arguments)).stdout = "") := by
  have hrun := run_asked hfile hsettings hread hasks
  have hmakes : (∃ code, Code.make (readText text) spans (askedOptions path previous next middle) =
      .ok code) ↔ text ≠ "" ∧ ∀ span ∈ spans, span.Fits (readText text) := by
    rw [Code.exists_make_iff, Ne, readText_text_eq_empty_iff]
    exact ⟨fun h => ⟨h.2.1, h.2.2.2⟩, fun h => ⟨hcounts, h.1, hasks.spans_ne, h.2⟩⟩
  cases hmake : Code.make (readText text) spans (askedOptions path previous next middle) with
  | error failure =>
    right
    rw [hmake] at hrun hmakes
    refine ⟨fun h => ?_, ?_⟩
    · obtain ⟨code, hcode⟩ := hmakes.mpr h
      cases hcode
    · obtain ⟨hstatus, hstdout, -⟩ := ofFault_silent "" (.failure failure)
      rw [hrun]
      exact ⟨hstatus, hstdout⟩
  | ok code =>
    left
    rw [hmake] at hrun
    obtain ⟨htext, hfits⟩ := hmakes.mp ⟨code, hmake⟩
    obtain ⟨hsource, hspans, hoptions⟩ := Code.held_of_make hmake
    obtain ⟨drawn, hdrawn, hrender⟩ := exists_render_asked path code
    refine ⟨htext, hfits, code.highlights, drawn, ?_, ?_, ?_⟩
    · rw [← hsource, ← hspans]
      exact code.resolved
    · rw [← hdrawn, Code.excerpt, hsource, hoptions]
    · rw [hrun]
      have hglyphs : chooseGlyphs (asked path spans previous next middle) {} = .boxDrawing := rfl
      have hcolor : chooseColor (asked path spans previous next middle) {} = false := rfl
      simp only [deliver, hglyphs, hcolor, hrender]
      rfl

end Execution

/-- The command highlights what it reads. For a file that holds the octets of a text, and arguments
that name it and give spans and counts of context lines, none of them negative, without a settings
file: the command ends well exactly if the text is not empty and each span fits what is read, which
is the text with its line breaks made alike. Then it prints the excerpt of what is read with these
spans, under a header that names the file; otherwise it prints no excerpt and ends with status one.
As long as there is no carriage return in the file, what is read is its text, octet for octet. -/
theorem render_highlights_what_is_read {t : FileTree} {directory arguments : List String}
    {r : Reading} {path text start : String} {spans : List Span} {previous next middle : Option ℤ}
    (hfile : t.read directory path = .ok (Text.octetsOf text))
    (hsettings : Settings.find t directory path = .error (.notFound start))
    (hread : readArguments renderOptions .anyOrder none arguments = .ok r)
    (hasks : Asks r path spans previous next middle)
    (hcounts : (askedOptions path previous next middle).Nonnegative) :
    ((run t directory ("render" :: arguments)).status = 0 ↔
      text ≠ "" ∧ ∀ span ∈ spans, span.Fits (readText text)) ∧
    (text ≠ "" → (∀ span ∈ spans, span.Fits (readText text)) →
      ∃ highlights drawn, Highlight.resolveAll (readText text) spans = .ok highlights ∧
        Excerpt.draw ⟨readText text, highlights, askedOptions path previous next middle⟩
          .boxDrawing .error = .ok drawn ∧
        run t directory ("render" :: arguments) = { stdout := writtenForm false ("\n".intercalate
          ((Layout.header .boxDrawing .error { location := some (Path.ofText path).text } ++
            drawn).map (Line.print false))) }) ∧
    (¬(text ≠ "" ∧ ∀ span ∈ spans, span.Fits (readText text)) →
      (run t directory ("render" :: arguments)).status = 1 ∧
        (run t directory ("render" :: arguments)).stdout = "") ∧
    ('\r' ∉ text.toList → readText text = ⟨text⟩ ∧
      (readText text).size = (Text.octetsOf text).length) := by
  have hends := run_asked_cases hfile hsettings hread hasks hcounts
  refine ⟨⟨fun hstatus => ?_, ?_⟩, fun htext hfits => ?_, fun hnot => ?_, readText_eq_of_not_mem⟩
  · rcases hends with ⟨htext, hfits, -⟩ | ⟨-, hfailed, -⟩
    · exact ⟨htext, hfits⟩
    · rw [hstatus] at hfailed
      cases hfailed
  · rintro ⟨htext, hfits⟩
    rcases hends with ⟨-, -, highlights, drawn, -, -, hrun⟩ | ⟨hnot, -⟩
    · rw [hrun]
    · exact absurd ⟨htext, hfits⟩ hnot
  · rcases hends with ⟨-, -, hprinted⟩ | ⟨hnot, -⟩
    · exact hprinted
    · exact absurd ⟨htext, hfits⟩ hnot
  · rcases hends with ⟨htext, hfits, -⟩ | ⟨-, hfailed⟩
    · exact absurd ⟨htext, hfits⟩ hnot
    · exact hfailed

/-- A directory with one file that holds the octets of a text. -/
def folder (text : String) : FileTree :=
  .directory [("a.txt", .file (Text.octetsOf text))]

/-- In a file of two lines, a span over a character of two octets is highlighted, with a message and
a line of context. -/
theorem render_highlights_what_is_read_accented :
    (folder "é\nb").read [] "./a.txt" = .ok (Text.octetsOf "é\nb") ∧
      Settings.find (folder "é\nb") [] "./a.txt" = .error (.notFound "/a.txt") ∧
      (run (folder "é\nb") [] ["render", "./a.txt", "--span=0:2:see", "--next-lines", "1"]).status =
        0 := by
  have hfile : (folder "é\nb").read [] "./a.txt" = .ok (Text.octetsOf "é\nb") := by rfl
  have hsettings : Settings.find (folder "é\nb") [] "./a.txt" = .error (.notFound "/a.txt") := by
    rfl
  have hread : readArguments renderOptions .anyOrder none
      ["./a.txt", "--span=0:2:see", "--next-lines", "1"] =
        .ok ⟨[.value .span "0:2:see", .value .nextLines "1"], ["./a.txt"]⟩ := by rfl
  have hasks : Asks ⟨[.value .span "0:2:see", .value .nextLines "1"], ["./a.txt"]⟩ "./a.txt"
      [⟨0, 2, none, some "see", none⟩] none (some 1) none :=
    ⟨rfl, by decide, by decide, by rfl, by rfl, by rfl, by rfl⟩
  have hfits : (Span.mk 0 2 none (some "see") none).Fits (readText "é\nb") :=
    ⟨by decide, by decide, by decide, ⟨0, by decide⟩, ⟨1, by decide⟩⟩
  obtain ⟨hstatus, -⟩ := render_highlights_what_is_read hfile hsettings hread hasks
    ⟨by decide, by decide, by decide⟩
  exact ⟨hfile, hsettings, hstatus.mpr ⟨by decide, by simpa using hfits⟩⟩

/-- In a file whose lines end in a carriage return and a line feed, the last character is at offset
three, and a span over it fits the text of the file. But what is read has one octet less, so the
command refuses the span. -/
theorem render_refuses_after_carriage_return :
    (folder "a\r\nb").read [] "a.txt" = .ok (Text.octetsOf "a\r\nb") ∧
      Settings.find (folder "a\r\nb") [] "a.txt" = .error (.notFound "/a.txt") ∧
      (Span.mk 3 4 none none none).Fits ⟨"a\r\nb"⟩ ∧
      (run (folder "a\r\nb") [] ["render", "a.txt", "--span", "3:4"]).status = 1 := by
  refine ⟨by rfl, by rfl, ⟨by decide, by decide, by decide, ⟨3, by decide⟩, ⟨4, by decide⟩⟩, ?_⟩
  rfl

end Diagnostics.Command
