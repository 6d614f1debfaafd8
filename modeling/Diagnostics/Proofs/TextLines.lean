import Diagnostics.Block.Basic
import Mathlib.Tactic.ByContra

/-!
# The lines of a text

Cutting a text into lines takes away its line boundaries and nothing else. This file shows that a
text with characters has a line, and that the characters of its lines are characters of the text.
-/

namespace Diagnostics.Text

/-- A text with characters has a line. -/
theorem cutLines_ne_nil {cs : List Char} (h : cs ≠ []) : cutLines cs ≠ [] := by
  induction cs using cutLines.induct with
  | case1 => exact absurd rfl h
  | case2 cs ih =>
    rw [cutLines]
    exact List.cons_ne_nil _ _
  | case3 c cs hne hc ih =>
    rw [cutLines, if_pos hc]
    · exact List.cons_ne_nil _ _
    · exact hne
  | case4 c cs hne hc ih =>
    rw [cutLines, if_neg hc]
    · cases cutLines cs <;> exact List.cons_ne_nil _ _
    · exact hne

/-- The characters of the lines of a text are characters of the text. -/
theorem mem_of_mem_cutLines {cs line : List Char} {c : Char} (h : line ∈ cutLines cs)
    (hc : c ∈ line) : c ∈ cs := by
  induction cs using cutLines.induct generalizing line with
  | case1 => exact absurd h List.not_mem_nil
  | case2 cs ih =>
    rw [cutLines] at h
    rcases List.mem_cons.mp h with rfl | h
    · exact absurd hc List.not_mem_nil
    · exact List.mem_cons_of_mem _ (List.mem_cons_of_mem _ (ih h hc))
  | case3 d cs hne hd ih =>
    rw [cutLines, if_pos hd] at h
    · rcases List.mem_cons.mp h with rfl | h
      · exact absurd hc List.not_mem_nil
      · exact List.mem_cons_of_mem _ (ih h hc)
    · exact hne
  | case4 d cs hne hd ih =>
    rw [cutLines, if_neg hd] at h
    · cases hlines : cutLines cs with
      | nil =>
        rw [hlines, consFirst, List.mem_singleton] at h
        subst h
        rw [List.mem_singleton.mp hc]
        exact List.mem_cons_self
      | cons first rest =>
        rw [hlines, consFirst, List.mem_cons] at h
        rcases h with rfl | h
        · rcases List.mem_cons.mp hc with rfl | hc
          · exact List.mem_cons_self
          · exact List.mem_cons_of_mem _ (ih (by rw [hlines]; exact List.mem_cons_self) hc)
        · exact List.mem_cons_of_mem _ (ih (by rw [hlines]; exact List.mem_cons_of_mem _ h) hc)
    · exact hne

/-- Only the empty text has no lines. -/
theorem lines_eq_nil_iff {s : String} : lines s = [] ↔ s = "" := by
  constructor
  · intro h
    have hcut : cutLines s.toList = [] := List.map_eq_nil_iff.mp h
    have hnil : s.toList = [] := by
      by_contra hne
      exact cutLines_ne_nil hne hcut
    rw [← String.toList_inj, hnil]
    rfl
  · rintro rfl
    rfl

/-- The first line of a text and the lines after it are all its lines. -/
theorem firstAndRest_eq_lines {s : String} (h : s ≠ "") :
    (firstAndRest s).1 :: (firstAndRest s).2 = lines s := by
  obtain ⟨first, rest, hlines⟩ := List.exists_cons_of_ne_nil (mt lines_eq_nil_iff.mp h)
  rw [firstAndRest, hlines]

/-- The characters of the lines of a text are characters of the text and end no line. -/
theorem mem_and_not_isLineBoundary_of_mem_lines {s line : String} {c : Char} (h : line ∈ lines s)
    (hc : c ∈ line.toList) : c ∈ s.toList ∧ isLineBoundary c = false := by
  obtain ⟨cs, hcs, rfl⟩ := List.mem_map.mp h
  rw [String.toList_ofList] at hc
  exact ⟨mem_of_mem_cutLines hcs hc, not_isLineBoundary_of_mem_cutLines hcs hc⟩

/-- A text that is taken as present is not empty. -/
theorem nonempty?_eq_some_iff {message : Option String} {s : String} :
    nonempty? message = some s ↔ message = some s ∧ s ≠ "" := by
  cases message with
  | none => simp [nonempty?]
  | some t =>
    by_cases ht : t = ""
    · subst ht
      simp [nonempty?]
    · simp only [nonempty?, String.isEmpty_iff, ht, if_false, Option.some.injEq]
      constructor
      · rintro rfl
        exact ⟨rfl, ht⟩
      · exact And.left

/-- A text that begins with the character it is split at has an empty first piece. -/
theorem splitOn_cons_self (a : Char) (cs : List Char) :
    (a :: cs).splitOn a = [] :: cs.splitOn a := by
  rw [List.splitOn_cons_eq_if_modifyHead, if_pos (beq_self_eq_true a)]

/-- Any other character at the beginning of a text belongs to its first piece. -/
theorem splitOn_cons_of_ne {a c : Char} (h : c ≠ a) (cs : List Char) :
    ∃ first others, cs.splitOn a = first :: others ∧
      (c :: cs).splitOn a = (c :: first) :: others := by
  obtain ⟨first, others, hpieces⟩ := List.exists_cons_of_ne_nil (List.splitOn_ne_nil a cs)
  refine ⟨first, others, hpieces, ?_⟩
  rw [List.splitOn_cons_eq_if_modifyHead, if_neg (by simpa using h), hpieces]
  rfl

/-- The pieces of a text between the places of a character hold its other characters. -/
theorem mem_and_ne_of_mem_splitOn {cs piece : List Char} {a c : Char} (h : piece ∈ cs.splitOn a)
    (hc : c ∈ piece) : c ∈ cs ∧ c ≠ a := by
  induction cs generalizing piece with
  | nil =>
    rw [List.splitOn_nil, List.mem_singleton] at h
    rw [h] at hc
    exact absurd hc List.not_mem_nil
  | cons d cs ih =>
    have htail : ∀ p ∈ cs.splitOn a, c ∈ p → c ∈ d :: cs ∧ c ≠ a := fun p hp hcp =>
      ⟨List.mem_cons_of_mem d (ih hp hcp).1, (ih hp hcp).2⟩
    by_cases hd : d = a
    · rw [hd, splitOn_cons_self] at h
      rcases List.mem_cons.mp h with rfl | h
      · exact absurd hc List.not_mem_nil
      · exact htail piece h hc
    · -- Only the first piece is longer than the piece it comes from, by the character at hand.
      obtain ⟨first, others, hrest, hpieces⟩ := splitOn_cons_of_ne hd cs
      rw [hrest] at htail
      rw [hpieces] at h
      rcases List.mem_cons.mp h with rfl | h
      · rcases List.mem_cons.mp hc with rfl | hc
        · exact ⟨List.mem_cons_self, hd⟩
        · exact htail first List.mem_cons_self hc
      · exact htail piece (List.mem_cons_of_mem first h) hc

end Diagnostics.Text
