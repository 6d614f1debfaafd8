import Diagnostics.Excerpt.Lanes
import Mathlib.Data.List.DropRight

/-!
# The states of lanes

Drawing threads the open lanes through all lines and all highlights. Which of them are open has a
description without that history: it depends only on the line and on the highlight that holds the
lane, and on whether the rows of that highlight under the line have been drawn. This file proves
that the rows of each highlight take the lanes from one such state to the next.
-/

namespace Diagnostics

namespace Highlight

/-- A highlight over several lines begins and ends on different lines. -/
theorem multiline_iff {a : Highlight} : a.multiline = true ↔ a.start.line ≠ a.stop.line := by
  rw [multiline, bne_iff_ne]

/-- A highlight on one line begins and ends on it. -/
theorem multiline_eq_false_iff {a : Highlight} :
    a.multiline = false ↔ a.start.line = a.stop.line := by
  rw [multiline, bne_eq_false_iff_eq]

/-- Whether the lane of a highlight is open above the rows under a line, and so on the row of the
line itself. -/
def openAbove (line : ℕ) (a : Highlight) : Bool :=
  decide (a.start.line < line ∧ line ≤ a.stop.line)

/-- Whether the lane of a highlight is open below the rows under a line. -/
def openBelow (line : ℕ) (a : Highlight) : Bool :=
  decide (a.start.line ≤ line ∧ line < a.stop.line)

end Highlight

namespace Excerpt

/-- The highlights that have a lane, from the leftmost lane to the rightmost. -/
def laneHolders (highlights : List Highlight) : List Highlight :=
  highlights.filter (·.multiline)

/-- The number of lanes of the highlights before number `i`, which is the lane of number `i` if it
has one. -/
def laneOf (highlights : List Highlight) (i : ℕ) : ℕ :=
  laneCount (highlights.take i)

section Holders

variable {highlights : List Highlight} {i m : ℕ} {a : Highlight}

/-- There are as many lanes as highlights that hold one. -/
@[simp] theorem length_laneHolders (highlights : List Highlight) :
    (laneHolders highlights).length = laneCount highlights :=
  List.countP_eq_length_filter.symm

/-- Lanes are given to the highlights of two lists in turn. -/
theorem laneHolders_take_append_drop (highlights : List Highlight) (i : ℕ) :
    laneHolders (highlights.take i) ++ laneHolders (highlights.drop i) =
      laneHolders highlights := by
  rw [laneHolders, laneHolders, ← List.filter_append, List.take_append_drop, laneHolders]

/-- The highlights up to number `i` hold the lanes before it and, if it has one, its own. -/
theorem laneHolders_take_succ (h : highlights[i]? = some a) :
    laneHolders (highlights.take (i + 1)) =
      laneHolders (highlights.take i) ++ if a.multiline then [a] else [] := by
  obtain ⟨hi, rfl⟩ := List.getElem?_eq_some_iff.mp h
  rw [List.take_succ_eq_append_getElem hi, laneHolders, List.filter_append, List.filter_singleton,
    Bool.cond_eq_ite]
  rfl

/-- The highlights from number `i` on hold its own lane, if it has one, and the lanes after it. -/
theorem laneHolders_drop (h : highlights[i]? = some a) :
    laneHolders (highlights.drop i) =
      (if a.multiline then [a] else []) ++ laneHolders (highlights.drop (i + 1)) := by
  obtain ⟨hi, rfl⟩ := List.getElem?_eq_some_iff.mp h
  rw [List.drop_eq_getElem_cons hi, laneHolders, List.filter_cons]
  by_cases hlane : highlights[i].multiline
  · rw [if_pos hlane, if_pos hlane]
    rfl
  · rw [if_neg hlane, if_neg hlane]
    rfl

/-- The lane of a highlight is held by it. -/
theorem laneHolders_laneOf (h : highlights[i]? = some a) (hlane : a.multiline = true) :
    (laneHolders highlights)[laneOf highlights i]? = some a := by
  have hlength : (laneHolders (highlights.take i)).length = laneOf highlights i :=
    length_laneHolders _
  rw [← laneHolders_take_append_drop highlights i, List.getElem?_append_right hlength.le, hlength,
    Nat.sub_self, laneHolders_drop h, if_pos hlane]
  rfl

/-- The lane after number `i` is the next one exactly if number `i` has a lane. -/
theorem laneOf_succ (h : highlights[i]? = some a) :
    laneOf highlights (i + 1) = if a.multiline then laneOf highlights i + 1
      else laneOf highlights i := by
  obtain ⟨hi, rfl⟩ := List.getElem?_eq_some_iff.mp h
  rw [laneOf, List.take_succ_eq_append_getElem hi, laneCount, List.countP_append, laneOf, laneCount]
  by_cases hlane : highlights[i].multiline <;> simp [hlane]

/-- Later highlights have later lanes. -/
theorem laneOf_mono (him : i ≤ m) : laneOf highlights i ≤ laneOf highlights m :=
  (List.take_sublist_take_left him).countP_le

/-- The lane of a highlight is one of those there are. -/
theorem laneOf_lt_laneCount (h : highlights[i]? = some a) (hlane : a.multiline = true) :
    laneOf highlights i < laneCount highlights := by
  rw [← length_laneHolders]
  exact (List.getElem?_eq_some_iff.mp (laneHolders_laneOf h hlane)).1

/-- Lanes are in the order of their highlights. -/
theorem laneOf_lt_laneOf_iff (h : highlights[i]? = some a) (hlane : a.multiline = true) :
    laneOf highlights i < laneOf highlights m ↔ i < m := by
  constructor
  · intro hlt
    by_contra hge
    have hle : laneOf highlights m ≤ laneOf highlights i := laneOf_mono (by omega)
    omega
  · intro him
    have hnext := laneOf_succ h
    rw [if_pos hlane] at hnext
    have hle : laneOf highlights (i + 1) ≤ laneOf highlights m := laneOf_mono him
    omega

/-- Every lane is that of a highlight. -/
theorem exists_laneOf_eq {k : ℕ} (hk : k < laneCount highlights) :
    ∃ i a, highlights[i]? = some a ∧ a.multiline = true ∧ laneOf highlights i = k := by
  induction highlights generalizing k with
  | nil => simp [laneCount] at hk
  | cons b rest ih =>
    have hshift : ∀ i, laneOf (b :: rest) (i + 1) =
        laneOf rest i + if b.multiline then 1 else 0 := by
      intro i
      simp [laneOf, laneCount, List.countP_cons]
    rw [laneCount, List.countP_cons] at hk
    by_cases hb : b.multiline = true
    · cases k with
      | zero => exact ⟨0, b, rfl, hb, rfl⟩
      | succ k =>
        rw [if_pos hb] at hk
        obtain ⟨i, a, hi, ha, hlane⟩ := ih (show k < laneCount rest by rw [laneCount]; omega)
        exact ⟨i + 1, a, hi, ha, by rw [hshift, if_pos hb, hlane]⟩
    · rw [if_neg hb] at hk
      obtain ⟨i, a, hi, ha, hlane⟩ := ih (show k < laneCount rest by rw [laneCount]; omega)
      exact ⟨i + 1, a, hi, ha, by rw [hshift, if_neg hb, hlane, Nat.add_zero]⟩

end Holders

/-- The lanes between the rows of the highlights before number `i` and those from number `i` on,
under one line. -/
def lanesAt (highlights : List Highlight) (line i : ℕ) : Lanes :=
  (laneHolders (highlights.take i)).map (·.openBelow line) ++
    (laneHolders (highlights.drop i)).map (·.openAbove line)

section States

variable {highlights : List Highlight} {line i m : ℕ} {a : Highlight}

/-- The number of lanes never changes. -/
@[simp] theorem length_lanesAt (highlights : List Highlight) (line i : ℕ) :
    (lanesAt highlights line i).length = laneCount highlights := by
  rw [lanesAt, List.length_append, List.length_map, List.length_map, ← List.length_append,
    laneHolders_take_append_drop, length_laneHolders]

/-- The state of one lane: the highlights whose lanes lie to the left have already been drawn. -/
theorem lanesAt_getElem? (highlights : List Highlight) (line i k : ℕ) :
    (lanesAt highlights line i)[k]? = (laneHolders highlights)[k]?.map fun a =>
      if k < laneOf highlights i then a.openBelow line else a.openAbove line := by
  have hlength : (laneHolders (highlights.take i)).length = laneOf highlights i :=
    length_laneHolders _
  rw [← laneHolders_take_append_drop highlights i, lanesAt]
  by_cases hk : k < laneOf highlights i
  · rw [List.getElem?_append_left (by rw [List.length_map]; omega), List.getElem?_map,
      List.getElem?_append_left (by omega)]
    simp [hk]
  · rw [List.getElem?_append_right (by rw [List.length_map]; omega), List.length_map,
      List.getElem?_map, List.getElem?_append_right (by omega)]
    simp [hk]

/-- The state of the lane of a highlight between the rows of two highlights under a line. -/
theorem lanesAt_laneOf (line m : ℕ) (h : highlights[i]? = some a) (hlane : a.multiline = true) :
    (lanesAt highlights line m)[laneOf highlights i]? =
      some (if i < m then a.openBelow line else a.openAbove line) := by
  rw [lanesAt_getElem?, laneHolders_laneOf h hlane, Option.map_some]
  simp only [laneOf_lt_laneOf_iff h hlane]

/-- Before the first highlight every lane is as it is above the line's rows. -/
theorem lanesAt_zero (highlights : List Highlight) (line : ℕ) :
    lanesAt highlights line 0 = (laneHolders highlights).map (·.openAbove line) := by
  simp [lanesAt, laneHolders]

/-- Behind the last highlight every lane is as it is below the line. -/
theorem lanesAt_of_length_le (h : highlights.length ≤ i) :
    lanesAt highlights line i = (laneHolders highlights).map (·.openBelow line) := by
  rw [lanesAt, List.take_of_length_le h, List.drop_of_length_le h]
  simp [laneHolders]

/-- The lane of a highlight that has one stands between the lanes before and after it. -/
theorem lanesAt_of_multiline (line : ℕ) (h : highlights[i]? = some a) (hlane : a.multiline = true) :
    ∃ left right, left.length = laneOf highlights i ∧
      lanesAt highlights line i = left ++ a.openAbove line :: right ∧
      lanesAt highlights line (i + 1) = left ++ a.openBelow line :: right := by
  refine ⟨(laneHolders (highlights.take i)).map (·.openBelow line),
    (laneHolders (highlights.drop (i + 1))).map (·.openAbove line), ?_, ?_, ?_⟩
  · rw [List.length_map, length_laneHolders, laneOf]
  · rw [lanesAt, laneHolders_drop h, if_pos hlane]
    rfl
  · rw [lanesAt, laneHolders_take_succ h, if_pos hlane, List.map_append, List.append_assoc]
    rfl

/-- A highlight without a lane leaves the lanes as they are. -/
theorem lanesAt_succ_of_not_multiline (h : highlights[i]? = some a) (hlane : a.multiline = false) :
    lanesAt highlights line (i + 1) = lanesAt highlights line i := by
  rw [lanesAt, lanesAt, laneHolders_take_succ h, laneHolders_drop h, hlane]
  simp

/-- Putting a lane in its state below the line takes the lanes past its highlight. -/
theorem set_lanesAt (line : ℕ) (h : highlights[i]? = some a) (hlane : a.multiline = true) :
    (lanesAt highlights line i).set (laneOf highlights i) (a.openBelow line) =
      lanesAt highlights line (i + 1) := by
  obtain ⟨left, right, hleft, hbefore, hafter⟩ := lanesAt_of_multiline line h hlane
  rw [hbefore, hafter, List.set_append_right _ _ hleft.le, hleft, Nat.sub_self, List.set_cons_zero]

/-- A lane that is in the same state above and below the line's rows is left alone. -/
theorem lanesAt_succ_of_same (h : highlights[i]? = some a) (hlane : a.multiline = true)
    (hsame : a.openAbove line = a.openBelow line) :
    lanesAt highlights line (i + 1) = lanesAt highlights line i := by
  obtain ⟨left, right, hleft, hbefore, hafter⟩ := lanesAt_of_multiline line h hlane
  rw [hbefore, hafter, hsame]

end States

section Below

variable {line align lane : ℕ} {lanes : Lanes} {a : Highlight}

/-- Below the first of its lines, a highlight opens its lane. -/
theorem rowsBelow_of_start (hlane : a.multiline = true) (hstart : a.start.line = line) :
    rowsBelow line align lane lanes a = openRows lane lanes a := by
  have hstop : a.stop.line ≠ line := hstart ▸ (Highlight.multiline_iff.mp hlane).symm
  simp [rowsBelow, hlane, hstart, hstop]

/-- Below the last of its lines, a highlight closes its lane. -/
theorem rowsBelow_of_stop (hlane : a.multiline = true) (hstop : a.stop.line = line) :
    rowsBelow line align lane lanes a = closeRows lane lanes a := by
  have hstart : a.start.line ≠ line := hstop ▸ Highlight.multiline_iff.mp hlane
  simp [rowsBelow, hlane, hstart, hstop]

/-- Below any other line, a highlight over several lines has no rows. -/
theorem rowsBelow_of_ne (hlane : a.multiline = true) (hstart : a.start.line ≠ line)
    (hstop : a.stop.line ≠ line) : rowsBelow line align lane lanes a = ([], lanes) := by
  simp [rowsBelow, hlane, hstart, hstop]

/-- A highlight on one line has rows below that line only and leaves the lanes alone. -/
theorem rowsBelow_of_not_multiline (hlane : a.multiline = false) :
    rowsBelow line align lane lanes a =
      (if a.start.line = line then pointerRows lanes align a else [], lanes) := by
  by_cases hstart : a.start.line = line <;> simp [rowsBelow, hlane, hstart]

end Below

/-- The lanes after the rows of a highlight are those before the next one: a lane is opened below
the first line of its highlight, closed below the last, and left alone below any other. -/
theorem rowsBelow_snd {highlights : List Highlight} {i : ℕ} {a : Highlight} (line align : ℕ)
    (h : highlights[i]? = some a) (hlines : a.start.line ≤ a.stop.line) :
    (rowsBelow line align (laneOf highlights i) (lanesAt highlights line i) a).2 =
      lanesAt highlights line (i + 1) := by
  by_cases hlane : a.multiline = true
  · have hne : a.start.line ≠ a.stop.line := Highlight.multiline_iff.mp hlane
    rw [← set_lanesAt line h hlane]
    by_cases hstart : a.start.line = line
    · have hopen : a.openBelow line = true := decide_eq_true ⟨hstart.le, by omega⟩
      rw [rowsBelow_of_start hlane hstart, hopen]
      rfl
    · by_cases hstop : a.stop.line = line
      · have hclosed : a.openBelow line = false := decide_eq_false (by omega)
        rw [rowsBelow_of_stop hlane hstop, hclosed]
        rfl
      · have hsame : a.openAbove line = a.openBelow line := by
          rw [Highlight.openBelow, Highlight.openAbove, decide_eq_decide]
          omega
        rw [rowsBelow_of_ne hlane hstart hstop, set_lanesAt line h hlane,
          lanesAt_succ_of_same h hlane hsame]
  · have hflat : a.multiline = false := by simpa using hlane
    rw [lanesAt_succ_of_not_multiline h hflat, rowsBelow_of_not_multiline hflat]

end Excerpt

end Diagnostics
