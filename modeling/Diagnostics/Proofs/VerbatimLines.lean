import Diagnostics.Proofs.PhysicalLines

/-!
# Lines that are cut once

A verbatim block cuts its texts when it is made. This file shows that nothing is left to cut after
that: a block of the lines of a block is the same block, and the lines of several texts are those of
the single texts one after another. Cutting takes away the line boundaries and nothing else.
-/

namespace Diagnostics

namespace Text

/-- A character put in front of the first line comes before those of all lines. -/
theorem flatten_consFirst (c : Char) (lines : List (List Char)) :
    (consFirst c lines).flatten = c :: lines.flatten := by
  cases lines <;> rfl

/-- The lines of characters are those characters in their order, without the line boundaries. -/
theorem flatten_cutLines (cs : List Char) :
    (cutLines cs).flatten = cs.filter (· ∉ lineBoundaries) := by
  have hcut (c : Char) : decide (c ∉ lineBoundaries) = !isLineBoundary c := by
    rw [isLineBoundary, List.contains_eq_mem, decide_not]
  -- The cases are those of the cut: the end, a return with a feed, a boundary, another character.
  induction cs using cutLines.induct with
  | case1 => rfl
  | case2 cs ih =>
    rw [cutLines, List.flatten_cons, List.nil_append, ih,
      List.filter_cons_of_neg (by decide), List.filter_cons_of_neg (by decide)]
  | case3 c cs hreturn hc ih =>
    rw [cutLines, if_pos hc, List.flatten_cons, List.nil_append, ih,
      List.filter_cons_of_neg (by rw [hcut, hc]; decide)]
    exact hreturn
  | case4 c cs hreturn hc ih =>
    rw [Bool.not_eq_true] at hc
    rw [cutLines_cons hc, flatten_consFirst, ih, List.filter_cons_of_pos (by rw [hcut, hc]; rfl)]

/-- So are the physical lines of a text. -/
theorem flatMap_toList_physicalLines (s : String) :
    (physicalLines s).flatMap String.toList = s.toList.filter (· ∉ lineBoundaries) := by
  rw [← flatten_cutLines]
  by_cases hempty : s = ""
  · subst hempty
    rfl
  · rw [physicalLines, firstAndRest_eq_lines hempty, lines, List.flatMap_def, List.map_map]
    simp only [Function.comp_def, String.toList_ofList, List.map_id']

/-- A text without line boundaries is its one physical line. -/
theorem physicalLines_of_unbroken {s : String} (h : Unbroken s) : physicalLines s = [s] := by
  by_cases hempty : s = ""
  · subst hempty
    rfl
  · rw [physicalLines, firstAndRest_eq_lines hempty, lines, cutLines_of_unbroken h,
      if_neg (mt String.toList_eq_nil_iff.mp hempty), List.map_singleton, String.ofList_toList]

end Text

namespace Verbatim

/-- Lines that are unbroken are kept as they are. -/
theorem ofTexts_eq_of_unbroken (v : Verbatim) : ofTexts v.lines = v := by
  have hlines : v.lines.flatMap Text.physicalLines = v.lines := by
    have hsingle : ∀ line ∈ v.lines, Text.physicalLines line = [line] :=
      fun line hline => Text.physicalLines_of_unbroken (v.unbroken line hline)
    rw [List.flatMap_congr hsingle, List.flatMap_singleton']
  unfold ofTexts
  simp only [hlines]

/-- A block of one text has its physical lines. -/
theorem lines_ofText (text : String) : (ofText text).lines = Text.physicalLines text :=
  List.flatMap_singleton _ _

/-- A block of several texts has the lines of the single texts one after another. -/
theorem lines_ofTexts (texts : List String) :
    (ofTexts texts).lines = texts.flatMap fun text => (ofText text).lines := by
  simp only [lines_ofText]
  rfl

/-- It has at least one line for each text. -/
theorem length_le_length_lines (texts : List String) :
    texts.length ≤ (ofTexts texts).lines.length := by
  induction texts with
  | nil => exact Nat.zero_le _
  | cons text rest ih =>
    have hone : 1 ≤ (Text.physicalLines text).length := Nat.succ_pos _
    have hcons : (ofTexts (text :: rest)).lines =
        Text.physicalLines text ++ (ofTexts rest).lines := List.flatMap_cons
    rw [hcons, List.length_append, List.length_cons]
    omega

/-- Verbatim blocks are cut once and for all. No line of a block has a line boundary; a block made
again from its lines is the same block; a block of several texts has the lines of the single texts
one after another, at least one for each; and the lines of a text are its characters in their order
without the line boundaries. -/
theorem verbatim_cut_once (xs ys : List String) :
    (∀ line ∈ (ofTexts xs).lines, ∀ c ∈ line.toList, c ∉ Text.lineBoundaries) ∧
    ofTexts (ofTexts xs).lines = ofTexts xs ∧
    (ofTexts xs).lines = xs.flatMap (fun x => (ofTexts [x]).lines) ∧
    (ofTexts (xs ++ ys)).lines = (ofTexts xs).lines ++ (ofTexts ys).lines ∧
    xs.length ≤ (ofTexts xs).lines.length ∧
    ∀ x, (ofTexts [x]).lines ≠ [] ∧
      (ofTexts [x]).lines.flatMap String.toList = x.toList.filter (· ∉ Text.lineBoundaries) := by
  refine ⟨fun line hline c hc => ?_, ofTexts_eq_of_unbroken _, lines_ofTexts xs,
    List.flatMap_append, length_le_length_lines xs, fun x => ?_⟩
  · have hunbroken := (ofTexts xs).unbroken line hline c hc
    rw [Text.isLineBoundary, List.contains_eq_mem] at hunbroken
    exact of_decide_eq_false hunbroken
  · have hlines : (ofTexts [x]).lines = Text.physicalLines x := lines_ofText x
    rw [hlines]
    exact ⟨List.cons_ne_nil _ _, Text.flatMap_toList_physicalLines x⟩

/-- A return with a line feed is one boundary, and a text without characters is one line. -/
example : (ofTexts ["a\r\nb\u2028", "", "c\n\nd"]).lines = ["a", "b", "", "c", "", "d"] := by
  decide

end Verbatim

end Diagnostics
