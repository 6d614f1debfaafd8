import Diagnostics.Layout.Stack
import Diagnostics.Proofs.Fragments
import Diagnostics.Proofs.TextLines
import Diagnostics.Text.Printable
import Mathlib.Data.List.DropRight
import Mathlib.Data.Nat.Digits.Defs

/-!
# Characters that reach a line

Layout adds printable characters only. A character that is not printable reaches a line from a mark,
or from a string of the diagnostic in which it is not lost. This file shows it for texts and for the
blocks that are leads with texts beside them: headers, notes, tags and error stacks.
-/

namespace Diagnostics

namespace Text

variable {c : Char} {s : String}

/-- A character that is not printable is not in a text of printable ones. -/
theorem not_mem_of_all_isPrintable (hc : isPrintable c = false)
    (hs : s.toList.all isPrintable = true) : c ∉ s.toList := by
  intro hmem
  have hprintable := List.all_eq_true.mp hs c hmem
  rw [hc] at hprintable
  cases hprintable

/-- Texts side by side have the characters of both. -/
theorem not_mem_append {s t : String} : c ∉ (s ++ t).toList ↔ c ∉ s.toList ∧ c ∉ t.toList := by
  rw [String.toList_append, List.mem_append, not_or]

/-- The space is printable. -/
theorem not_mem_space (hc : isPrintable c = false) : c ∉ " ".toList :=
  not_mem_of_all_isPrintable hc (by decide)

/-- Spaces are printable. -/
theorem not_mem_spaces (hc : isPrintable c = false) (n : ℕ) : c ∉ (spaces n).toList := by
  refine not_mem_of_all_isPrintable hc ?_
  rw [spaces, String.toList_ofList]
  exact List.all_eq_true.mpr fun d hd => by rw [List.eq_of_mem_replicate hd]; decide

/-- Numbers are written in printable digits. -/
theorem not_mem_repr (hc : isPrintable c = false) (n : ℕ) : c ∉ n.repr.toList := by
  refine not_mem_of_all_isPrintable hc (List.all_eq_true.mpr fun d hd => ?_)
  rw [Nat.repr, String.toList_ofList] at hd
  have hdigit := Nat.isDigit_of_mem_toDigits (by decide) (by decide) hd
  rw [Char.isDigit_iff_toNat] at hdigit
  exact isPrintable_of_ascii (by have : '0'.toNat = 48 := rfl; omega)
    (by have : '9'.toNat = 57 := rfl; omega)

/-- A text written several times over has no other characters. -/
theorem not_mem_replicate (hs : c ∉ s.toList) (n : ℕ) : c ∉ (replicate n s).toList := by
  rw [replicate, String.toList_join, List.mem_flatMap]
  rintro ⟨t, ht, hmem⟩
  rw [List.eq_of_mem_replicate ht] at hmem
  exact hs hmem

/-- A text moved to the right has spaces before it. -/
theorem not_mem_padLeft (hc : isPrintable c = false) (hs : c ∉ s.toList) (width : ℕ) :
    c ∉ (padLeft width s).toList := by
  rw [padLeft, not_mem_append]
  exact ⟨not_mem_spaces hc _, hs⟩

/-- Taking blanks away from the end adds no characters. -/
theorem not_mem_trimEnd (hs : c ∉ s.toList) : c ∉ (trimEnd s).toList := by
  intro hmem
  rw [trimEnd, String.toList_ofList] at hmem
  exact hs ((List.rdropWhile_prefix _ _).subset hmem)

/-- A character that is lost where a text is cut is in none of its lines. -/
theorem not_mem_of_mem_lines {line : String} (hs : Fragment.Hides ⟨s, .atBoundaries⟩ c)
    (hline : line ∈ lines s) : c ∉ line.toList := by
  intro hmem
  obtain ⟨hc, hboundary⟩ := mem_and_not_isLineBoundary_of_mem_lines hline hmem
  have hlost : isLineBoundary c = true := hs hc
  rw [hboundary] at hlost
  cases hlost

/-- So it is neither in the first line nor in the others. -/
theorem not_mem_firstAndRest (hs : Fragment.Hides ⟨s, .atBoundaries⟩ c) :
    c ∉ (firstAndRest s).1.toList ∧ ∀ part ∈ (firstAndRest s).2, c ∉ part.toList := by
  by_cases hempty : s = ""
  · subst hempty
    exact ⟨List.not_mem_nil, fun part hpart => absurd hpart List.not_mem_nil⟩
  · have hlines := firstAndRest_eq_lines hempty
    refine ⟨not_mem_of_mem_lines hs (by rw [← hlines]; exact List.mem_cons_self), ?_⟩
    intro part hpart
    exact not_mem_of_mem_lines hs (by rw [← hlines]; exact List.mem_cons_of_mem _ hpart)

/-- Joining texts puts only their characters and those of the separator together. -/
theorem not_mem_intercalate {separator : String} (hseparator : c ∉ separator.toList)
    {texts : List String} (h : ∀ text ∈ texts, c ∉ text.toList) :
    c ∉ (separator.intercalate texts).toList := by
  induction texts with
  | nil => exact List.not_mem_nil
  | cons text texts ih =>
    have htext := h text List.mem_cons_self
    have hrest := ih fun t ht => h t (List.mem_cons_of_mem text ht)
    cases texts with
    | nil => rwa [String.intercalate_singleton]
    | cons next texts =>
      rw [String.intercalate_cons_cons, not_mem_append, not_mem_append]
      exact ⟨⟨htext, hseparator⟩, hrest⟩

/-- The lines of a text on one line. -/
theorem not_mem_onOneLine (hc : isPrintable c = false)
    (hs : Fragment.Hides ⟨s, .atBoundaries⟩ c) : c ∉ (onOneLine s).toList :=
  not_mem_intercalate (not_mem_space hc) fun _ hline => not_mem_of_mem_lines hs hline

end Text

namespace Line

variable {c : Char}

/-- Whether no piece of a line has a character. -/
def Avoids (line : Line) (c : Char) : Prop :=
  ∀ piece ∈ line, c ∉ piece.text.toList

/-- The empty line has no characters. -/
@[simp] theorem avoids_nil : Avoids [] c :=
  fun _ h => absurd h List.not_mem_nil

/-- A line has the characters of its pieces. -/
@[simp] theorem avoids_cons {piece : Piece} {line : Line} :
    Avoids (piece :: line) c ↔ c ∉ piece.text.toList ∧ line.Avoids c :=
  List.forall_mem_cons

/-- Lines side by side have the characters of both. -/
@[simp] theorem avoids_append {left right : Line} :
    Avoids (left ++ right) c ↔ left.Avoids c ∧ right.Avoids c :=
  List.forall_mem_append

/-- A plain line has the characters of its text. -/
@[simp] theorem avoids_plain {s : String} : (plain s).Avoids c ↔ c ∉ s.toList := by
  rw [plain, avoids_cons]
  exact and_iff_left avoids_nil

end Line

/-- A line without a character has a text without it. -/
theorem Line.not_mem_text {c : Char} {line : Line} (h : line.Avoids c) : c ∉ line.text.toList := by
  rw [Line.text, String.toList_join, List.mem_flatMap]
  rintro ⟨s, hs, hmem⟩
  obtain ⟨piece, hpiece, rfl⟩ := List.mem_map.mp hs
  exact h piece hpiece hmem

/-- The marks of the table of box-drawing characters are printable. -/
theorem Glyphs.boxDrawing_avoids {c : Char} (hc : Text.isPrintable c = false) :
    Glyphs.boxDrawing.Avoids c := by
  constructor <;> exact Text.not_mem_of_all_isPrintable hc (by decide +kernel)

/-- The marks of the table of ASCII characters are printable. -/
theorem Glyphs.ascii_avoids {c : Char} (hc : Text.isPrintable c = false) :
    Glyphs.ascii.Avoids c := by
  constructor <;> exact Text.not_mem_of_all_isPrintable hc (by decide)

/-- Ink adds no characters to a text. -/
@[simp] theorem Severity.paint_text (level : Severity) (s : String) : (level.paint s).text = s :=
  rfl

namespace Layout

variable {c : Char} {g : Glyphs} {level : Severity}

/-- The name of a severity is printable. -/
theorem not_mem_tag (hc : Text.isPrintable c = false) (level : Severity) : c ∉ level.tag.toList :=
  Text.not_mem_of_all_isPrintable hc (by cases level <;> decide)

/-- The symbol of a severity is printable. -/
theorem not_mem_symbol (hc : Text.isPrintable c = false) (level : Severity) :
    c ∉ level.symbol.toList :=
  Text.not_mem_of_all_isPrintable hc (by cases level <;> decide +kernel)

/-- A text beside a lead shows the characters of the lead, of the indentation and of its lines. -/
theorem avoids_of_mem_hanging {lead indent line : Line} {text : String} (hlead : lead.Avoids c)
    (hindent : indent.Avoids c) (htext : Fragment.Hides ⟨text, .atBoundaries⟩ c)
    (hline : line ∈ hanging lead indent text) : line.Avoids c := by
  obtain ⟨hfirst, hrest⟩ := Text.not_mem_firstAndRest htext
  rcases List.mem_cons.mp hline with rfl | hline
  · exact Line.avoids_append.mpr ⟨hlead, Line.avoids_plain.mpr hfirst⟩
  · obtain ⟨part, hpart, rfl⟩ := List.mem_map.mp hline
    exact Line.avoids_append.mpr ⟨hindent, Line.avoids_plain.mpr (hrest part hpart)⟩

section Headings

/-- The title of a header. Its code is not cut, so a character of the code reaches the line. -/
theorem avoids_of_mem_headerTitle (hc : Text.isPrintable c = false) {h : Header}
    (hh : ∀ f ∈ h.fragments, f.Hides c) {line : Line} (hline : line ∈ headerTitle level h) :
    line.Avoids c := by
  simp only [Header.fragments, List.forall_mem_cons, List.forall_mem_append, List.cons_append,
    Fragment.forall_mem_present] at hh
  obtain ⟨htitle, hcode, -⟩ := hh
  have htag : c ∉ (headerTag level h).toList := by
    rw [headerTag, Text.not_mem_append]
    refine ⟨not_mem_tag hc level, ?_⟩
    cases hpresent : Text.nonempty? h.code with
    | none => exact List.not_mem_nil
    | some code =>
      have hkept : c ∉ code.toList := by
        intro hmem
        have hlost := hcode code (by simp [(Text.nonempty?_eq_some_iff.mp hpresent).1]) hmem
        cases hlost
      have hopen : c ∉ "[".toList := Text.not_mem_of_all_isPrintable hc (by decide)
      have hclose : c ∉ "]".toList := Text.not_mem_of_all_isPrintable hc (by decide)
      simp only [Text.not_mem_append]
      exact ⟨⟨hopen, hkept⟩, hclose⟩
  have hcolon : c ∉ ": ".toList := Text.not_mem_of_all_isPrintable hc (by decide)
  rw [headerTitle] at hline
  split at hline
  · rw [List.mem_singleton.mp hline]
    simpa using htag
  · refine avoids_of_mem_hanging ?_ ?_ htitle hline
    · simp only [Line.avoids_cons, Severity.paint_text, Line.avoids_nil, and_true]
      exact ⟨htag, hcolon⟩
    · exact Line.avoids_plain.mpr (Text.not_mem_spaces hc _)

/-- A labelled value of a header. -/
theorem avoids_of_mem_headerField (hc : Text.isPrintable c = false) (hg : g.Avoids c)
    {label : String} {value : Option String} {shown : Bool}
    (hlabel : label.toList.all Text.isPrintable = true)
    (hvalue : ∀ s, value = some s → Fragment.Hides ⟨s, .atBoundaries⟩ c) {line : Line}
    (hline : line ∈ headerField g level label value shown) : line.Avoids c := by
  have hspace := Text.not_mem_space hc
  have hname : c ∉ label.toList := Text.not_mem_of_all_isPrintable hc hlabel
  rw [headerField] at hline
  cases hpresent : Text.nonempty? value with
  | none =>
    rw [hpresent] at hline
    exact absurd hline List.not_mem_nil
  | some s =>
    simp only [hpresent] at hline
    split at hline
    · refine avoids_of_mem_hanging ?_ ?_ (hvalue s (Text.nonempty?_eq_some_iff.mp hpresent).1) hline
      · simp only [Line.avoids_cons, Severity.paint_text, Text.not_mem_append, Line.avoids_nil,
          and_true]
        exact ⟨⟨hspace, hg.arrow⟩, ⟨hspace, hname⟩, hspace⟩
      · exact Line.avoids_plain.mpr (Text.not_mem_spaces hc _)
    · exact absurd hline List.not_mem_nil

/-- A header. -/
theorem avoids_of_mem_header (hc : Text.isPrintable c = false) (hg : g.Avoids c) {h : Header}
    (hh : ∀ f ∈ h.fragments, f.Hides c) {line : Line} (hline : line ∈ header g level h) :
    line.Avoids c := by
  have hfields := hh
  simp only [Header.fragments, List.forall_mem_cons, List.forall_mem_append, List.cons_append,
    Fragment.forall_mem_present] at hfields
  obtain ⟨-, -, hfields⟩ := hfields
  simp only [header, List.mem_append] at hline
  rcases hline with ((hline | hline) | hline) | hline
  · exact avoids_of_mem_headerTitle hc hh hline
  · exact avoids_of_mem_headerField hc hg (by decide)
      (fun s hs => hfields s (by simp [hs])) hline
  · exact avoids_of_mem_headerField hc hg (by decide)
      (fun s hs => hfields s (by simp [hs])) hline
  · exact avoids_of_mem_headerField hc hg (by decide)
      (fun s hs => hfields s (by simp [hs])) hline

/-- A note. -/
theorem avoids_of_mem_note (hc : Text.isPrintable c = false) (hg : g.Avoids c)
    {title message : String} (htitle : Fragment.Hides ⟨title, .atBoundaries⟩ c)
    (hmessage : Fragment.Hides ⟨message, .atBoundaries⟩ c) {line : Line}
    (hline : line ∈ note g level title message) : line.Avoids c := by
  have hspace := Text.not_mem_space hc
  have hcolon : c ∉ ": ".toList := Text.not_mem_of_all_isPrintable hc (by decide)
  refine avoids_of_mem_hanging ?_ ?_ hmessage hline
  · simp only [Line.avoids_cons, Severity.paint_text, Text.not_mem_append, Line.avoids_nil,
      and_true]
    exact ⟨hg.note, ⟨hspace, Text.not_mem_onOneLine hc htitle⟩, hcolon⟩
  · exact Line.avoids_plain.mpr (Text.not_mem_spaces hc _)

/-- A tag. -/
theorem avoids_of_mem_tag (hc : Text.isPrintable c = false) (hg : g.Avoids c) {label : String}
    (hlabel : Fragment.Hides ⟨label, .atBoundaries⟩ c) {line : Line}
    (hline : line ∈ tag g level label) : line.Avoids c := by
  have hspace := Text.not_mem_space hc
  rw [List.mem_singleton.mp hline]
  simp only [Line.avoids_cons, Severity.paint_text, Line.avoids_nil, and_true]
  exact ⟨hg.note, hspace, Text.not_mem_onOneLine hc hlabel⟩

end Headings

section Stacks

/-- The line that opens an error is drawn with marks and fixed words. -/
theorem not_mem_errorLead (hc : Text.isPrintable c = false) (hg : g.Avoids c) (isCause : Bool)
    (error : StackError) : c ∉ (errorLead g isCause error).toList := by
  have hwords : c ∉ " Caused by:".toList := Text.not_mem_of_all_isPrintable hc (by decide)
  unfold errorLead
  split
  · simp only [Text.not_mem_append]
    exact ⟨⟨⟨hg.branch, Text.not_mem_replicate hg.horizontal 3⟩, hg.pointer⟩, hwords⟩
  · simp only [Text.not_mem_append]
    refine ⟨⟨hg.topCorner, hg.horizontal⟩, ?_⟩
    split
    · exact List.not_mem_nil
    · exact hg.pointer

/-- The message of an error. -/
theorem avoids_of_mem_errorMessage (hc : Text.isPrintable c = false) (hg : g.Avoids c)
    {isCause : Bool} {error : StackError}
    (hmessage : Fragment.Hides ⟨error.message, .atBoundaries⟩ c) {line : Line}
    (hline : line ∈ errorMessage g level isCause error) : line.Avoids c := by
  have hspace := Text.not_mem_space hc
  have hlead := not_mem_errorLead hc hg isCause error
  rcases List.mem_append.mp hline with hline | hline
  · split at hline
    · rw [List.mem_singleton.mp hline]
      simpa using hg.vertical
    · exact absurd hline List.not_mem_nil
  · split at hline
    · rw [List.mem_singleton.mp hline]
      simpa using hlead
    · refine avoids_of_mem_hanging ?_ ?_ hmessage hline
      · simp only [Line.avoids_cons, Severity.paint_text, Line.avoids_nil, and_true]
        exact ⟨hlead, hspace⟩
      · simp only [Line.avoids_cons, Severity.paint_text, Text.not_mem_append, Line.avoids_nil,
          and_true]
        exact ⟨hg.vertical, Text.not_mem_spaces hc _⟩

/-- The place of a frame. -/
theorem avoids_frameHead (hc : Text.isPrintable c = false) {f : Frame}
    (hlocation : ∀ s, f.location = some s → Fragment.Hides ⟨s, .atBoundaries⟩ c)
    (hpath : ∀ s, f.codePath = some s → Fragment.Hides ⟨s, .atBoundaries⟩ c) :
    (frameHead level f).Avoids c := by
  have hunknown : c ∉ "<unknown location>".toList :=
    Text.not_mem_of_all_isPrintable hc (by decide)
  have hopen : c ∉ "(".toList := Text.not_mem_of_all_isPrintable hc (by decide)
  have hclose : c ∉ ")".toList := Text.not_mem_of_all_isPrintable hc (by decide)
  rw [frameHead, Line.avoids_cons]
  constructor
  · cases hpresent : Text.nonempty? f.location with
    | none => exact hunknown
    | some s =>
      exact Text.not_mem_onOneLine hc (hlocation s (Text.nonempty?_eq_some_iff.mp hpresent).1)
  · cases hpresent : Text.nonempty? f.codePath with
    | none => exact Line.avoids_nil
    | some s =>
      have hs := hpath s (Text.nonempty?_eq_some_iff.mp hpresent).1
      simp only [Line.avoids_cons, Severity.paint_text, Line.avoids_nil, and_true]
      exact ⟨hopen, Text.not_mem_onOneLine hc hs, hclose⟩

/-- The lines of a frame after its label. -/
theorem avoids_of_mem_frame (hc : Text.isPrintable c = false) {f : Frame} {lead indent line : Line}
    (hlead : lead.Avoids c) (hindent : indent.Avoids c)
    (hlocation : ∀ s, f.location = some s → Fragment.Hides ⟨s, .atBoundaries⟩ c)
    (hpath : ∀ s, f.codePath = some s → Fragment.Hides ⟨s, .atBoundaries⟩ c)
    (hmessage : ∀ s, f.message = some s → Fragment.Hides ⟨s, .atBoundaries⟩ c)
    (hline : line ∈ frame level lead indent f) : line.Avoids c := by
  have hdash : c ∉ " - ".toList := Text.not_mem_of_all_isPrintable hc (by decide)
  have hhead : (lead ++ frameHead level f).Avoids c :=
    Line.avoids_append.mpr ⟨hlead, avoids_frameHead hc hlocation hpath⟩
  rw [frame] at hline
  cases hpresent : Text.nonempty? f.message with
  | none =>
    simp only [hpresent] at hline
    rwa [List.mem_singleton.mp hline]
  | some s =>
    simp only [hpresent] at hline
    refine avoids_of_mem_hanging (Line.avoids_append.mpr ⟨hhead, ?_⟩) hindent
      (hmessage s (Text.nonempty?_eq_some_iff.mp hpresent).1) hline
    simp only [Line.avoids_cons, Severity.paint_text, Line.avoids_nil, and_true]
    exact hdash

/-- The label of a frame. -/
theorem not_mem_frameLabel (hc : Text.isPrintable c = false) (showNumbers : Bool)
    (digits number : ℕ) : c ∉ (frameLabel showNumbers digits number).toList := by
  have hopen : c ∉ "[".toList := Text.not_mem_of_all_isPrintable hc (by decide)
  have hclose : c ∉ "] ".toList := Text.not_mem_of_all_isPrintable hc (by decide)
  unfold frameLabel
  split
  · simp only [Text.not_mem_append]
    exact ⟨⟨hopen, Text.not_mem_padLeft hc (Text.not_mem_repr hc number) digits⟩, hclose⟩
  · exact Text.not_mem_of_all_isPrintable hc (by decide)

/-- The frames of an error. -/
theorem avoids_of_mem_frames (hc : Text.isPrintable c = false) (hg : g.Avoids c)
    {showNumbers : Bool} {digits above : ℕ} {fs : List Frame}
    (hfs : ∀ f ∈ fs, ∀ s, some s ∈ [f.location, f.codePath, f.message] →
      Fragment.Hides ⟨s, .atBoundaries⟩ c) {line : Line}
    (hline : line ∈ frames g level showNumbers digits above fs) : line.Avoids c := by
  have hblank : c ∉ "  ".toList := Text.not_mem_of_all_isPrintable hc (by decide)
  induction fs with
  | nil => exact absurd hline List.not_mem_nil
  | cons f rest ih =>
    rw [frames] at hline
    rcases List.mem_append.mp hline with hline | hline
    · have hf := hfs f List.mem_cons_self
      refine avoids_of_mem_frame hc ?_ ?_ (fun s hs => hf s (by simp [hs]))
        (fun s hs => hf s (by simp [hs])) (fun s hs => hf s (by simp [hs])) hline
      · simp only [Line.avoids_cons, Severity.paint_text, Text.not_mem_append, Line.avoids_nil,
          and_true]
        exact ⟨⟨hg.vertical, hblank⟩, not_mem_frameLabel hc showNumbers digits _⟩
      · simp only [Line.avoids_cons, Severity.paint_text, Text.not_mem_append, Line.avoids_nil,
          and_true]
        exact ⟨⟨hg.vertical, hblank⟩, Text.not_mem_spaces hc _⟩
    · exact ih (fun f hf => hfs f (List.mem_cons_of_mem _ hf)) hline

/-- An error of a stack. -/
theorem avoids_of_mem_stackError (hc : Text.isPrintable c = false) (hg : g.Avoids c)
    {digits above : ℕ} {isCause : Bool} {error : StackError}
    (herror : ∀ f ∈ error.fragments, f.Hides c) {line : Line}
    (hline : line ∈ stackError g level digits above isCause error) : line.Avoids c := by
  simp only [StackError.fragments, List.forall_mem_cons, List.mem_flatMap, forall_exists_index,
    and_imp] at herror
  obtain ⟨hmessage, hframes⟩ := herror
  rcases List.mem_append.mp hline with hline | hline
  · exact avoids_of_mem_errorMessage hc hg hmessage hline
  · refine avoids_of_mem_frames hc hg (fun f hf => ?_) hline
    exact Fragment.forall_mem_present.mp fun fragment => hframes fragment f hf

/-- The causes of a stack. -/
theorem avoids_of_mem_stackCauses (hc : Text.isPrintable c = false) (hg : g.Avoids c)
    {digits above : ℕ} {errors : List StackError}
    (herrors : ∀ error ∈ errors, ∀ f ∈ error.fragments, f.Hides c) {line : Line}
    (hline : line ∈ stackCauses g level digits above errors) : line.Avoids c := by
  induction errors generalizing above with
  | nil => exact absurd hline List.not_mem_nil
  | cons error rest ih =>
    rw [stackCauses] at hline
    rcases List.mem_append.mp hline with hline | hline
    · exact avoids_of_mem_stackError hc hg (herrors error List.mem_cons_self) hline
    · exact ih (fun e he => herrors e (List.mem_cons_of_mem _ he)) hline

/-- A whole stack. -/
theorem avoids_of_mem_stack (hc : Text.isPrintable c = false) (hg : g.Avoids c) {s : Stack}
    (hs : ∀ f ∈ s.fragments, f.Hides c) {line : Line} (hline : line ∈ stack g level s) :
    line.Avoids c := by
  have herrors : ∀ error ∈ s.error :: s.causes, ∀ f ∈ error.fragments, f.Hides c :=
    fun error herror f hf => hs f (List.mem_flatMap.mpr ⟨error, herror, hf⟩)
  rw [List.forall_mem_cons] at herrors
  simp only [stack, List.mem_append] at hline
  rcases hline with (hline | hline) | hline
  · exact avoids_of_mem_stackError hc hg herrors.1 hline
  · exact avoids_of_mem_stackCauses hc hg herrors.2 hline
  · rw [List.mem_singleton.mp hline]
    simp only [Line.avoids_cons, Severity.paint_text, Text.not_mem_append, Line.avoids_nil,
      and_true]
    exact ⟨hg.bottomCorner, hg.horizontal⟩

end Stacks

end Layout

end Diagnostics
