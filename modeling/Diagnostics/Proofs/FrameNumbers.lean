import Diagnostics.Proofs.Gutters
import Diagnostics.Proofs.PhysicalLines
import Mathlib

/-!
# The numbers of frames

The frames of an error stack are numbered from the outermost error to the root cause. Each error is
given the numbers after those of the errors above it and counts them down, so all frames together
have each number from one to their count once. The numbers are written in fields that are as wide
as the largest of them, and they do not depend on which errors show theirs.
-/

namespace Diagnostics

/-- A numbering of groups of the given sizes, from the number after `above` on. -/
structure Numbering (above : ℕ) (counts : List ℕ) (numbers : List (List ℕ)) : Prop where
  /-- Each group has as many numbers as members. -/
  fits : numbers.map List.length = counts
  /-- The numbers of all groups are the next ones, each used once. -/
  complete : numbers.flatten.Perm (List.range' (above + 1) counts.sum)
  /-- In a group the numbers descend by one. -/
  descending : ∀ group ∈ numbers, group.IsChain fun number next => number = next + 1
  /-- The numbers of a group are greater than those of all groups before it. -/
  ascending : numbers.Pairwise fun earlier later => ∀ m ∈ earlier, ∀ n ∈ later, m < n

/-- The numbers after `above`, the largest first. -/
def countdown (above count : ℕ) : List ℕ :=
  (List.range' (above + 1) count).reverse

/-- The numbers of groups of the given sizes, counted down in each. -/
def numbersFrom (above : ℕ) : List ℕ → List (List ℕ)
  | [] => []
  | count :: rest => countdown above count :: numbersFrom (above + count) rest

@[simp] theorem length_countdown (above count : ℕ) : (countdown above count).length = count := by
  rw [countdown, List.length_reverse, List.length_range']

/-- One number more stands before the others. -/
theorem countdown_succ (above count : ℕ) :
    countdown above (count + 1) = (above + count + 1) :: countdown above count := by
  rw [countdown, List.range'_concat, List.reverse_append, List.reverse_singleton, countdown]
  have hlast : above + 1 + 1 * count = above + count + 1 := by omega
  rw [hlast, List.singleton_append]

theorem mem_countdown {above count n : ℕ} :
    n ∈ countdown above count ↔ above < n ∧ n ≤ above + count := by
  rw [countdown, List.mem_reverse, List.mem_range'_1]
  omega

/-- Counting down is descending by one. -/
theorem isChain_countdown (above count : ℕ) :
    (countdown above count).IsChain fun number next => number = next + 1 := by
  induction count with
  | zero => exact .nil
  | succ count ih =>
    rw [countdown_succ]
    cases count with
    | zero => exact .singleton _
    | succ count =>
      rw [countdown_succ] at ih ⊢
      exact .cons_cons (by omega) ih

namespace Numbering

/-- Nothing is numbered. -/
theorem nil (above : ℕ) : Numbering above [] [] where
  fits := rfl
  complete := .refl _
  descending := fun _ hgroup => absurd hgroup List.not_mem_nil
  ascending := .nil

variable {above : ℕ} {counts : List ℕ} {numbers : List (List ℕ)}

/-- The numbers are those after `above`, up to as many as there are members. -/
theorem mem_flatten_iff (h : Numbering above counts numbers) {n : ℕ} :
    n ∈ numbers.flatten ↔ above < n ∧ n ≤ above + counts.sum := by
  rw [h.complete.mem_iff, List.mem_range'_1]
  omega

/-- A group that counts down stands before a numbering that goes on after it. -/
theorem cons {count : ℕ} (h : Numbering (above + count) counts numbers) :
    Numbering above (count :: counts) (countdown above count :: numbers) where
  fits := by rw [List.map_cons, length_countdown, h.fits]
  complete := by
    have hsplit : List.range' (above + 1) (count :: counts).sum =
        List.range' (above + 1) count ++ List.range' (above + count + 1) counts.sum := by
      rw [List.sum_cons, Nat.add_right_comm above count 1]
      exact (List.range'_append_1 ..).symm
    rw [List.flatten_cons, hsplit]
    exact (List.reverse_perm _).append h.complete
  descending := by
    intro group hgroup
    rcases List.mem_cons.mp hgroup with rfl | hgroup
    · exact isChain_countdown above count
    · exact h.descending group hgroup
  ascending := by
    refine List.pairwise_cons.mpr ⟨fun later hlater m hm n hn => ?_, h.ascending⟩
    have hle : m ≤ above + count := (mem_countdown.mp hm).2
    have hlt : above + count < n :=
      (h.mem_flatten_iff.mp (List.mem_flatten_of_mem hlater hn)).1
    omega

end Numbering

/-- Groups that count down one after another are numbered. -/
theorem numbering_numbersFrom (above : ℕ) (counts : List ℕ) :
    Numbering above counts (numbersFrom above counts) := by
  induction counts generalizing above with
  | nil => exact .nil above
  | cons count rest ih => exact .cons (ih (above + count))

namespace Stack

/-- How many frames each error of a stack has, from the outermost to the root cause. -/
def frameCounts (s : Stack) : List ℕ :=
  s.errors.map (·.frames.length)

/-- The numbers of the frames of each error. -/
def numbers (s : Stack) : List (List ℕ) :=
  numbersFrom 0 s.frameCounts

/-- The number of digits of the largest number. -/
def digits (s : Stack) : ℕ :=
  s.countFrames.repr.length

/-- The stack with all errors showing the numbers of their frames. -/
def allNumbered (s : Stack) : Stack where
  error := { s.error with showNumbers := true }
  causes := s.causes.map fun error => { error with showNumbers := true }

/-- The numbers that each error shows. -/
def shownNumbers (s : Stack) : List (List ℕ) :=
  List.zipWith (fun error numbers => if error.showNumbers then numbers else []) s.errors s.numbers

/-- All errors of the numbered stack are those of the stack, with their numbers. -/
theorem errors_allNumbered (s : Stack) :
    s.allNumbered.errors = s.errors.map fun error => { error with showNumbers := true } := rfl

/-- The frames are those of all errors. -/
theorem countFrames_eq_sum (s : Stack) : s.countFrames = s.frameCounts.sum := by
  rw [countFrames, List.length_flatMap, frameCounts]

theorem showNumbers_of_mem_allNumbered {s : Stack} {error : StackError}
    (herror : error ∈ s.allNumbered.errors) : error.showNumbers = true := by
  rw [errors_allNumbered] at herror
  obtain ⟨_, -, rfl⟩ := List.mem_map.mp herror
  rfl

theorem frameCounts_allNumbered (s : Stack) : s.allNumbered.frameCounts = s.frameCounts := by
  rw [frameCounts, errors_allNumbered, List.map_map]
  rfl

/-- Numbers do not depend on what is shown. -/
theorem numbers_allNumbered (s : Stack) : s.allNumbered.numbers = s.numbers := by
  rw [numbers, frameCounts_allNumbered, numbers]

theorem digits_allNumbered (s : Stack) : s.allNumbered.digits = s.digits := by
  rw [digits, countFrames_eq_sum, frameCounts_allNumbered, ← countFrames_eq_sum, digits]

/-- There are numbers for each error. -/
theorem length_numbers (s : Stack) : s.numbers.length = s.errors.length := by
  have hfits := congrArg List.length (numbering_numbersFrom 0 s.frameCounts).fits
  rw [List.length_map, frameCounts, List.length_map] at hfits
  exact hfits

/-- If all errors show numbers, the numbers shown are all. -/
theorem shownNumbers_of_all {s : Stack} (hall : ∀ error ∈ s.errors, error.showNumbers = true) :
    s.shownNumbers = s.numbers := by
  have hlength := s.length_numbers
  rw [shownNumbers]
  generalize s.errors = errors, s.numbers = numbers at hall hlength ⊢
  induction errors generalizing numbers with
  | nil => exact (List.length_eq_zero_iff.mp hlength).symm
  | cons error rest ih =>
    cases numbers with
    | nil => cases hlength
    | cons group others =>
      rw [List.zipWith_cons_cons, if_pos (hall error List.mem_cons_self),
        ih others (fun e he => hall e (List.mem_cons_of_mem _ he)) (Nat.succ.inj hlength)]

/-- No number of a frame has more digits than the largest. -/
theorem length_repr_le_digits {s : Stack} {group : List ℕ} (hgroup : group ∈ s.numbers) {n : ℕ}
    (hn : n ∈ group) : n.repr.length ≤ s.digits := by
  have hle : n ≤ s.countFrames := by
    have hmem := (numbering_numbersFrom 0 s.frameCounts).mem_flatten_iff.mp
      (List.mem_flatten_of_mem hgroup hn)
    have hcount := s.countFrames_eq_sum
    omega
  have hlt : s.countFrames < 10 ^ s.digits :=
    (Nat.length_repr_le_iff Nat.length_repr_pos).mp le_rfl
  exact (Nat.length_repr_le_iff Nat.length_repr_pos).mpr (Nat.lt_of_le_of_lt hle hlt)

end Stack

namespace Layout

section Structure

variable (g : Glyphs) (level : Severity)

/-- A frame behind its label. -/
def labelled (showNumbers : Bool) (digits number : ℕ) (f : Frame) : List Line :=
  frame level [level.paint (g.vertical ++ "  " ++ frameLabel showNumbers digits number)]
    [level.paint (g.vertical ++ "  " ++ Text.spaces (digits + 2))] f

/-- An error with its message and its frames, which have the given numbers. -/
def numberedError (digits : ℕ) (isCause : Bool) (error : StackError) (numbers : List ℕ) :
    List Line :=
  errorMessage g level isCause error ++
    (List.zipWith (labelled g level error.showNumbers digits) numbers error.frames).flatten

/-- The lines of each error of a stack. -/
def errorLines (s : Stack) : List (List Line) :=
  (s.errors.zip s.numbers).mapIdx fun place numbered =>
    numberedError g level s.digits (place ≠ 0) numbered.1 numbered.2

variable {g level}

/-- The frames of an error count down to the number after those of the errors above. -/
theorem frames_eq (showNumbers : Bool) (digits above : ℕ) (fs : List Frame) :
    frames g level showNumbers digits above fs =
      (List.zipWith (labelled g level showNumbers digits) (countdown above fs.length)
        fs).flatten := by
  induction fs with
  | nil => rw [frames, List.zipWith_nil_right, List.flatten_nil]
  | cons f rest ih =>
    rw [frames, List.length_cons, countdown_succ, List.zipWith_cons_cons, List.flatten_cons, ih,
      labelled]

theorem stackError_eq (digits above : ℕ) (isCause : Bool) (error : StackError) :
    stackError g level digits above isCause error =
      numberedError g level digits isCause error (countdown above error.frames.length) := by
  rw [stackError, frames_eq, numberedError]

/-- Causes are numbered one after another. -/
theorem stackCauses_eq (digits above : ℕ) (causes : List StackError) :
    stackCauses g level digits above causes =
      ((causes.zip (numbersFrom above (causes.map (·.frames.length)))).map fun numbered =>
        numberedError g level digits true numbered.1 numbered.2).flatten := by
  induction causes generalizing above with
  | nil => rfl
  | cons error rest ih =>
    rw [stackCauses, stackError_eq, ih, List.map_cons, numbersFrom, List.zip_cons_cons,
      List.map_cons, List.flatten_cons]

/-- A stack has the lines of its errors and a corner. -/
theorem stack_eq_errorLines (s : Stack) :
    stack g level s =
      (errorLines g level s).flatten ++ [[level.paint (g.bottomCorner ++ g.horizontal)]] := by
  have hnumbers : s.numbers = countdown 0 s.error.frames.length ::
      numbersFrom s.error.frames.length (s.causes.map (·.frames.length)) := by
    rw [Stack.numbers, Stack.frameCounts, Stack.errors, List.map_cons, numbersFrom, Nat.zero_add]
  -- Every error but the first is a cause.
  have hcauses : ∀ numbered : List (StackError × List ℕ),
      (numbered.mapIdx fun place one =>
        numberedError g level s.digits (decide (place + 1 ≠ 0)) one.1 one.2) =
      numbered.map fun one => numberedError g level s.digits true one.1 one.2 := by
    intro numbered
    refine List.ext_getElem? fun i => ?_
    rw [List.getElem?_mapIdx, List.getElem?_map]
    simp
  rw [errorLines, hnumbers, Stack.errors, List.zip_cons_cons, List.mapIdx_cons, hcauses,
    List.flatten_cons, ← stackCauses_eq, stack, stackError_eq]
  rfl

/-- An error that shows numbers has the same lines if all others do. -/
theorem errorLines_allNumbered {s : Stack} {j : ℕ} {error : StackError}
    (herror : s.errors[j]? = some error) (hshows : error.showNumbers = true) :
    (errorLines g level s)[j]? = (errorLines g level s.allNumbered)[j]? := by
  have hsame : ({ error with showNumbers := true } : StackError) = error := by
    rw [← hshows]
  rw [errorLines, errorLines, List.getElem?_mapIdx, List.getElem?_mapIdx, s.numbers_allNumbered,
    s.digits_allNumbered, s.errors_allNumbered, List.zip, List.getElem?_zipWith,
    List.getElem?_zipWith, List.getElem?_map, herror, Option.map_some, hsame]

end Structure

section Reading

/-- The number that a printed line has in brackets behind the bar and two spaces. -/
def frameNumber? (g : Glyphs) (digits : ℕ) (line : String) : Option ℕ :=
  let opening := g.vertical ++ "  ["
  if opening.toList <+: line.toList then
    Text.numberIn digits (String.ofList (line.toList.drop opening.length))
  else none

/-- The numbers in lines that are printed without colour. -/
def frameNumbers (g : Glyphs) (digits : ℕ) (lines : List Line) : List ℕ :=
  lines.filterMap fun line => frameNumber? g digits (line.print false)

variable {g : Glyphs} {level : Severity} {digits : ℕ}

/-- A painted text is the text of its line. -/
theorem text_paint (s : String) : Line.text [level.paint s] = s :=
  Excerpt.text_plain s

/-- Lines are read one after another. -/
theorem frameNumbers_append (lines others : List Line) :
    frameNumbers g digits (lines ++ others) =
      frameNumbers g digits lines ++ frameNumbers g digits others :=
  List.filterMap_append

theorem frameNumbers_flatten (parts : List (List Line)) :
    frameNumbers g digits parts.flatten = (parts.map (frameNumbers g digits)).flatten := by
  rw [frameNumbers, List.filterMap_flatten]
  rfl

theorem frameNumbers_singleton (line : Line) :
    frameNumbers g digits [line] = (frameNumber? g digits line.text).toList := by
  rw [frameNumbers, List.filterMap_cons, List.filterMap_nil, Line.print_false]
  cases frameNumber? g digits line.text <;> rfl

/-- A number in a label is read. -/
theorem frameNumber?_label {n : ℕ} (hn : n.repr.length ≤ digits) (rest : String) :
    frameNumber? g digits (g.vertical ++ "  " ++ frameLabel true digits n ++ rest) = some n := by
  have hline : g.vertical ++ "  " ++ frameLabel true digits n ++ rest =
      (g.vertical ++ "  [") ++ (Text.padLeft digits n.repr ++ ("] " ++ rest)) := by
    rw [frameLabel, if_pos rfl]
    simp [← String.toList_inj]
  rw [hline, frameNumber?]
  generalize g.vertical ++ "  [" = opening
  rw [String.toList_append, if_pos (List.prefix_append _ _), ← String.length_toList,
    List.drop_left, String.ofList_toList]
  exact Text.numberIn_repr _ hn

/-- No number is read from a line that has no space in the second column or no bracket in the
fourth. -/
theorem frameNumber?_eq_none (hvertical : g.vertical.length = 1) {line : String}
    (hline : line.toList[1]? ≠ some ' ' ∨ line.toList[3]? ≠ some '[') :
    frameNumber? g digits line = none := by
  obtain ⟨v, hv⟩ := Text.exists_singleton_eq hvertical
  rw [frameNumber?, if_neg]
  rintro ⟨rest, hrest⟩
  rw [hv] at hrest
  simp [← hrest] at hline

/-- Nor from one that has a third space behind the bar. -/
theorem frameNumber?_bar (hvertical : g.vertical.length = 1) {s : String}
    (hs : s.toList[2]? = some ' ') (rest : String) :
    frameNumber? g digits (g.vertical ++ s ++ rest) = none := by
  obtain ⟨v, hv⟩ := Text.exists_singleton_eq hvertical
  refine frameNumber?_eq_none hvertical (Or.inr ?_)
  have hlength : 2 < s.toList.length := (List.getElem?_eq_some_iff.mp hs).1
  rw [hv, String.append_assoc, String.toList_append, String.toList_singleton,
    List.singleton_append, List.getElem?_cons_succ, String.toList_append,
    List.getElem?_append_left hlength, hs]
  decide

/-- Nor from one that begins with a mark and a run. -/
theorem frameNumber?_run (hg : g.Visible) {mark : String} (hmark : mark.length = 1)
    (rest : String) : frameNumber? g digits (mark ++ g.horizontal ++ rest) = none := by
  obtain ⟨m, hm⟩ := Text.exists_singleton_eq hmark
  obtain ⟨h, hh⟩ := Text.exists_singleton_eq hg.horizontal
  have hseen : h ≠ ' ' := by
    rintro rfl
    have hblank := hg.horizontal_seen
    rw [hh] at hblank
    exact absurd hblank (by decide)
  refine frameNumber?_eq_none hg.vertical (Or.inl ?_)
  rw [hm, hh]
  simpa using hseen

/-- What is read from a text behind a lead is read from the lead, if nothing is read from the
indentation. -/
theorem frameNumbers_hanging {lead indent : Line} {number : Option ℕ}
    (hlead : ∀ rest, frameNumber? g digits (lead.text ++ rest) = number)
    (hindent : ∀ rest, frameNumber? g digits (indent.text ++ rest) = none) (text : String) :
    frameNumbers g digits (hanging lead indent text) = number.toList := by
  have hrest : frameNumbers g digits
      ((Text.firstAndRest text).2.map fun part => indent ++ Line.plain part) = [] := by
    rw [frameNumbers, List.filterMap_eq_nil_iff]
    intro line hline
    obtain ⟨part, -, rfl⟩ := List.mem_map.mp hline
    rw [Line.print_false, Excerpt.text_append]
    exact hindent _
  have hlines : hanging lead indent text = [lead ++ Line.plain (Text.firstAndRest text).1] ++
      (Text.firstAndRest text).2.map fun part => indent ++ Line.plain part := rfl
  rw [hlines, frameNumbers_append, hrest, frameNumbers_singleton, Excerpt.text_append, hlead,
    List.append_nil]

/-- No number is read from a line that begins with the lead of an error. -/
theorem frameNumber?_errorLead (hg : g.Visible) (hbranch : g.branch.length = 1) (isCause : Bool)
    (error : StackError) (rest : String) :
    frameNumber? g digits (errorLead g isCause error ++ rest) = none := by
  cases isCause with
  | false =>
    rw [errorLead, if_neg (by decide), String.append_assoc]
    exact frameNumber?_run hg hg.topCorner _
  | true =>
    have hrun : errorLead g true error ++ rest =
        g.branch ++ g.horizontal ++
          (Text.replicate 2 g.horizontal ++ g.pointer ++ " Caused by:" ++ rest) := by
      simp [errorLead, Text.replicate, List.replicate_succ, String.append_assoc]
    rw [hrun]
    exact frameNumber?_run hg hbranch _

/-- No number is read from the message of an error. -/
theorem frameNumbers_errorMessage (hg : g.Visible) (hbranch : g.branch.length = 1)
    (isCause : Bool) (error : StackError) :
    frameNumbers g digits (errorMessage g level isCause error) = [] := by
  have hlead : ∀ rest, frameNumber? g digits (errorLead g isCause error ++ rest) = none :=
    frameNumber?_errorLead hg hbranch isCause error
  have hbar : frameNumbers g digits
      (if isCause then [[level.paint g.vertical]] else ([] : List Line)) = [] := by
    obtain ⟨v, hv⟩ := Text.exists_singleton_eq hg.vertical
    cases isCause with
    | false => rfl
    | true =>
      rw [if_pos rfl, frameNumbers_singleton, text_paint, frameNumber?_eq_none hg.vertical]
      · rfl
      · exact Or.inl (by simp [hv])
  -- Further lines of a message stand at least three spaces behind the bar, labels only two.
  rw [errorMessage, frameNumbers_append, hbar, List.nil_append]
  split
  · have hread := hlead ""
    rw [String.append_empty] at hread
    rw [frameNumbers_singleton, text_paint, hread]
    rfl
  · have hnone : ([] : List ℕ) = Option.toList none := rfl
    rw [hnone]
    refine frameNumbers_hanging (fun rest => ?_) (fun rest => ?_) error.message
    · simpa [Line.text, Severity.paint, String.append_assoc] using hlead (" " ++ rest)
    · rw [text_paint]
      refine frameNumber?_bar hg.vertical ?_ rest
      cases isCause <;> decide

/-- The number in the label of a frame is read, and nothing else. -/
theorem frameNumbers_labelled (hvertical : g.vertical.length = 1) (showNumbers : Bool) {n : ℕ}
    (hn : n.repr.length ≤ digits) (f : Frame) :
    frameNumbers g digits (labelled g level showNumbers digits n f) =
      if showNumbers then [n] else [] := by
  let number : Option ℕ := if showNumbers then some n else none
  have hlabel : ∀ rest, frameNumber? g digits
      (g.vertical ++ "  " ++ frameLabel showNumbers digits n ++ rest) = number := by
    intro rest
    cases showNumbers with
    | true => exact frameNumber?_label hn rest
    | false =>
      have hword : g.vertical ++ "  " ++ frameLabel false digits n = g.vertical ++ "   at " := by
        simp [frameLabel, ← String.toList_inj]
      rw [hword]
      exact frameNumber?_bar hvertical (by decide) rest
  have hhead : ∀ others rest, frameNumber? g digits
      (Line.text (level.paint (g.vertical ++ "  " ++ frameLabel showNumbers digits n) :: others) ++
        rest) = number := by
    intro others rest
    rw [← List.singleton_append, Excerpt.text_append, text_paint, String.append_assoc]
    exact hlabel _
  have hnumber : number.toList = if showNumbers then [n] else [] := by
    cases showNumbers <;> rfl
  rw [← hnumber, labelled, frame]
  split
  · have hread := hhead (frameHead level f) ""
    rw [String.append_empty] at hread
    rw [frameNumbers_singleton]
    exact congrArg Option.toList hread
  · refine frameNumbers_hanging (fun rest => hhead _ rest) (fun rest => ?_) _
    have hspaces : g.vertical ++ "  " ++ Text.spaces (digits + 2) =
        g.vertical ++ Text.spaces (digits + 4) := by
      rw [String.append_assoc, Text.spaces_of_le (by omega : 2 ≤ digits + 4)]
      rfl
    rw [text_paint, hspaces]
    exact frameNumber?_bar hvertical (by simp) rest

/-- The numbers of an error are read from its frames if they are shown. -/
theorem frameNumbers_numberedError (hg : g.Visible) (hbranch : g.branch.length = 1)
    (isCause : Bool) (error : StackError) {numbers : List ℕ}
    (hlength : numbers.length = error.frames.length)
    (hdigits : ∀ n ∈ numbers, n.repr.length ≤ digits) :
    frameNumbers g digits (numberedError g level digits isCause error numbers) =
      if error.showNumbers then numbers else [] := by
  rw [numberedError, frameNumbers_append, frameNumbers_errorMessage hg hbranch, List.nil_append,
    frameNumbers_flatten]
  generalize error.showNumbers = showNumbers, error.frames = fs at hlength ⊢
  induction numbers generalizing fs with
  | nil => rw [List.zipWith_nil_left, List.map_nil, List.flatten_nil, ite_self]
  | cons n rest ih =>
    cases fs with
    | nil => cases hlength
    | cons f others =>
      have hrest := ih (fun m hm => hdigits m (List.mem_cons_of_mem _ hm)) others
        (Nat.succ.inj hlength)
      rw [List.zipWith_cons_cons, List.map_cons, List.flatten_cons, hrest,
        frameNumbers_labelled hg.vertical _ (hdigits n List.mem_cons_self)]
      cases showNumbers <;> rfl

variable (level) in
/-- The numbers that a stack shows are read from its errors. -/
theorem map_frameNumbers_errorLines (hg : g.Visible) (hbranch : g.branch.length = 1) (s : Stack) :
    (errorLines g level s).map (frameNumbers g s.digits) = s.shownNumbers := by
  have hfits : s.numbers.map List.length = s.errors.map (·.frames.length) :=
    (numbering_numbersFrom 0 s.frameCounts).fits
  refine List.ext_getElem? fun j => ?_
  rw [errorLines, Stack.shownNumbers, List.getElem?_map, List.getElem?_mapIdx, List.zip,
    List.getElem?_zipWith, List.getElem?_zipWith]
  cases herror : s.errors[j]? with
  | none => rfl
  | some error =>
    cases hgroup : s.numbers[j]? with
    | none => rfl
    | some group =>
      have hlength : group.length = error.frames.length := by
        have hj := congrArg (·[j]?) hfits
        simpa [herror, hgroup] using hj
      exact congrArg some (frameNumbers_numberedError hg hbranch _ error hlength fun n hn =>
        Stack.length_repr_le_digits (List.mem_of_getElem? hgroup) hn)

/-- No number is read from the corner that closes a stack. -/
theorem frameNumbers_corner (hg : g.Visible) :
    frameNumbers g digits [[level.paint (g.bottomCorner ++ g.horizontal)]] = [] := by
  have hread : frameNumber? g digits (g.bottomCorner ++ g.horizontal ++ "") = none :=
    frameNumber?_run hg hg.bottomCorner ""
  rw [String.append_empty] at hread
  rw [frameNumbers_singleton, text_paint, hread]
  rfl

end Reading

/-- The numbers of the frames of a stack are a numbering: those of all errors together are the
numbers from one to the count of frames, each used once; they descend by one from frame to frame of
an error, and those of a cause are greater than all above. The stack is printed with each frame
behind a label with its number, and all labels are as wide. An error that shows numbers is printed
the same whether the others show theirs or not. With single marks, the numbers read from the lines
of each error are its numbers if it shows them and none if it does not, and no number is read from
any other line. -/
theorem stack_numbered (g : Glyphs) (level : Severity) (s : Stack) :
    Numbering 0 s.frameCounts s.numbers ∧
    s.countFrames = s.frameCounts.sum ∧
    (∀ group ∈ s.numbers, ∀ n ∈ group, (frameLabel true s.digits n).length = s.digits + 3) ∧
    (∀ color, (Diagnostic.ofBlock level (.stack s)).render g color =
      .ok (((errorLines g level s).flatten ++
        [[level.paint (g.bottomCorner ++ g.horizontal)]]).map (Line.print color))) ∧
    (∀ (j : ℕ) (error : StackError), s.errors[j]? = some error → error.showNumbers = true →
      (errorLines g level s)[j]? = (errorLines g level s.allNumbered)[j]?) ∧
    (g.Visible → g.branch.length = 1 →
      (errorLines g level s).map (frameNumbers g s.digits) = s.shownNumbers ∧
      (errorLines g level s.allNumbered).map (frameNumbers g s.digits) = s.numbers ∧
      ∃ lines, (Diagnostic.ofBlock level (.stack s)).render g false = .ok lines ∧
        lines.filterMap (frameNumber? g s.digits) = s.shownNumbers.flatten ∧
        ((∀ error ∈ s.errors, error.showNumbers = true) →
          (lines.filterMap (frameNumber? g s.digits)).Perm (List.range' 1 s.countFrames))) := by
  have hnumbers : Numbering 0 s.frameCounts s.numbers := numbering_numbersFrom 0 s.frameCounts
  have hrender (color : Bool) : (Diagnostic.ofBlock level (.stack s)).render g color =
      .ok (((errorLines g level s).flatten ++
        [[level.paint (g.bottomCorner ++ g.horizontal)]]).map (Line.print color)) := by
    rw [← stack_eq_errorLines]
    exact Diagnostic.render_ofBlock (by rw [block]) color
  refine ⟨hnumbers, s.countFrames_eq_sum, fun group hgroup n hn => ?_, hrender,
    fun j error herror hshows => errorLines_allNumbered herror hshows, fun hg hbranch => ?_⟩
  · have hfits := Stack.length_repr_le_digits hgroup hn
    rw [frameLabel, if_pos rfl, String.length_append, String.length_append, Text.length_padLeft,
      Nat.max_eq_left hfits, Nat.add_comm _ s.digits]
    rfl
  · have hread := map_frameNumbers_errorLines level hg hbranch s
    have hall := map_frameNumbers_errorLines level hg hbranch s.allNumbered
    have hevery : s.allNumbered.shownNumbers = s.allNumbered.numbers :=
      Stack.shownNumbers_of_all fun _ => Stack.showNumbers_of_mem_allNumbered
    rw [s.digits_allNumbered, hevery, s.numbers_allNumbered] at hall
    have hlines : ((((errorLines g level s).flatten ++
        [[level.paint (g.bottomCorner ++ g.horizontal)]]).map
          (Line.print false)).filterMap (frameNumber? g s.digits)) = s.shownNumbers.flatten := by
      rw [List.filterMap_map, ← hread, ← frameNumbers_flatten]
      change frameNumbers g s.digits _ = _
      rw [frameNumbers_append, frameNumbers_corner hg, List.append_nil]
    refine ⟨hread, hall, _, hrender false, hlines, fun hshow => ?_⟩
    rw [hlines, Stack.shownNumbers_of_all hshow, s.countFrames_eq_sum]
    exact hnumbers.complete

/-- An error with nine frames that shows no numbers, and its cause with two frames that does. -/
def nineAndTwo : Stack where
  error := { message := "a", frames := List.replicate 9 {} }
  causes := [{ frames := [{ message := some "x\ny" }, {}], showNumbers := true }]

/-- The cause has the tenth and the eleventh number, in two columns as all eleven would be. -/
theorem stack_numbered_nineAndTwo :
    (∃ lines, (Diagnostic.ofBlock .warn (.stack nineAndTwo)).render .boxDrawing false = .ok lines ∧
      lines.filterMap (frameNumber? .boxDrawing 2) = [11, 10]) ∧
    (∃ lines, (Diagnostic.ofBlock .warn (.stack nineAndTwo.allNumbered)).render .ascii false =
        .ok lines ∧
      (lines.filterMap (frameNumber? .ascii 2)).Perm (List.range' 1 11)) ∧
    (frameLabel true 2 9).length = 5 ∧ (frameLabel true 2 10).length = 5 ∧
    (errorLines .ascii .warn nineAndTwo)[1]? =
      (errorLines .ascii .warn nineAndTwo.allNumbered)[1]? := by
  obtain ⟨-, -, hwidth, -, hsame, -⟩ := stack_numbered .ascii .warn nineAndTwo
  obtain ⟨-, -, -, -, -, hbox⟩ := stack_numbered .boxDrawing .warn nineAndTwo
  obtain ⟨-, -, lines, hlines, hshown, -⟩ := hbox Glyphs.boxDrawing_visible (by decide)
  obtain ⟨-, -, -, -, -, hall⟩ := stack_numbered .ascii .warn nineAndTwo.allNumbered
  obtain ⟨-, -, others, hothers, -, hperm⟩ := hall Glyphs.ascii_visible (by decide)
  refine ⟨⟨lines, hlines, ?_⟩, ⟨others, hothers, ?_⟩, ?_, ?_, hsame 1 _ rfl rfl⟩
  · exact hshown
  · exact hperm (by decide)
  · exact hwidth (countdown 0 9) (by decide) 9 (by decide)
  · exact hwidth [11, 10] (by decide) 10 (by decide)

end Layout

end Diagnostics
