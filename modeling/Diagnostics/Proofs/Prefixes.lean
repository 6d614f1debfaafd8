import Diagnostics.Source
import Mathlib.Data.List.DropRight

/-!
# Positions behind prefixes

Every place in a text lies behind some prefix of its characters, and the prefix alone determines
the line, the column and the offset there. Seeking an offset finds the prefix with that number of
octets. Longer prefixes have later positions.
-/

namespace Diagnostics

/-- Octets are counted separately on both sides of any cut between characters. -/
@[simp] theorem octetCount_append (left right : List Char) :
    octetCount (left ++ right) = octetCount left + octetCount right := by
  induction left with
  | nil => simp [octetCount]
  | cons c cs ih => simp [octetCount, ih, Nat.add_assoc]

/-- Characters that take up no octets are no characters. -/
@[simp] theorem octetCount_eq_zero_iff {cs : List Char} : octetCount cs = 0 ↔ cs = [] := by
  cases cs with
  | nil => simp [octetCount]
  | cons c cs =>
    have hsize := c.utf8Size_pos
    simp only [octetCount, reduceCtorEq, iff_false]
    omega

/-- The octets counted here are those of core's own encoding of the text. -/
theorem octetCount_eq_utf8ByteSize (cs : List Char) :
    octetCount cs = (String.ofList cs).utf8ByteSize := by
  induction cs with
  | nil => simp [octetCount]
  | cons c cs ih =>
    have hsplit : String.ofList (c :: cs) = String.singleton c ++ String.ofList cs := by
      rw [← String.toList_inj]
      simp
    rw [hsplit, String.utf8ByteSize_append, String.utf8ByteSize_singleton, ← ih, octetCount]

/-- A longer prefix takes up more octets. -/
theorem octetCount_take_lt {cs : List Char} {j k : ℕ} (hjk : j < k) (hj : j < cs.length) :
    octetCount (cs.take j) < octetCount (cs.take k) := by
  have hsplit : cs.take k = cs.take j ++ (cs.drop j).take (k - j) := by
    rw [← List.take_add, Nat.add_sub_cancel' hjk.le]
  have hne : (cs.drop j).take (k - j) ≠ [] := by
    rw [← List.length_pos_iff, List.length_take, List.length_drop]
    omega
  have hpos := Nat.pos_of_ne_zero (mt octetCount_eq_zero_iff.mp hne)
  rw [hsplit, octetCount_append]
  omega

/-- No prefix takes up more octets than the whole text. -/
theorem octetCount_take_le (cs : List Char) (k : ℕ) : octetCount (cs.take k) ≤ octetCount cs := by
  conv_rhs => rw [← List.take_append_drop k cs, octetCount_append]
  omega

/-- Prefixes with equally many octets are equal. -/
theorem take_eq_take_of_octetCount_eq {cs : List Char} {j k : ℕ}
    (h : octetCount (cs.take j) = octetCount (cs.take k)) : cs.take j = cs.take k := by
  wlog hjk : j ≤ k generalizing j k
  · exact (this h.symm (by omega)).symm
  by_cases hlt : j < k ∧ j < cs.length
  · have := octetCount_take_lt hlt.1 hlt.2
    omega
  · by_cases hj : j = k
    · rw [hj]
    · rw [List.take_of_length_le (by omega), List.take_of_length_le (by omega)]

namespace Position

/-- The position behind the characters that a text begins with: the line feeds among them decide
the line, and those behind the last line feed decide the column. -/
def after (before : List Char) : Position :=
  ⟨1 + before.count '\n', 1 + (before.rtakeWhile (· ≠ '\n')).length, octetCount before⟩

@[simp] theorem after_nil : after [] = start :=
  rfl

@[simp] theorem after_offset (before : List Char) : (after before).offset = octetCount before :=
  rfl

/-- Advancing over a character gives the position behind it. -/
@[simp] theorem advance_after (before : List Char) (c : Char) :
    (after before).advance c = after (before ++ [c]) := by
  by_cases hc : c = '\n'
  · subst hc
    simp [advance, after, octetCount, Nat.add_comm, Nat.add_left_comm]
  · simp [advance, after, octetCount, hc, Nat.add_comm]

/-- Behind the beginning of a line, each character other than a line feed is one column. -/
theorem after_append_of_unbroken {before text : List Char}
    (hopens : before = [] ∨ before.getLast? = some '\n') (htext : '\n' ∉ text) :
    after (before ++ text) =
      ⟨1 + before.count '\n', 1 + text.length, octetCount before + octetCount text⟩ := by
  have hbefore : before.rtakeWhile (· ≠ '\n') = [] := by
    rcases hopens with rfl | hlast
    · rfl
    · obtain ⟨init, rfl⟩ := List.getLast?_eq_some_iff.mp hlast
      simp
  have hcolumns : (before ++ text).rtakeWhile (· ≠ '\n') = text := by
    induction text using List.reverseRecOn with
    | nil => simpa using hbefore
    | append_singleton text c ih =>
      simp only [List.mem_append, List.mem_singleton, not_or] at htext
      rw [← List.append_assoc, List.rtakeWhile_concat_pos _ _ _ (by simpa using Ne.symm htext.2),
        ih htext.1]
  have hcount : text.count '\n' = 0 := List.count_eq_zero.mpr htext
  simp only [after, hcolumns, List.count_append, hcount, octetCount_append, Nat.add_zero]

/-- Seeking from behind `before` finds exactly the prefix with the wanted number of octets. -/
theorem seek_after_eq_some_iff {offset : ℕ} {before rest : List Char} {p : Position} :
    (after before).seek offset rest = some p ↔
      ∃ k, octetCount (before ++ rest.take k) = offset ∧ p = after (before ++ rest.take k) := by
  induction rest generalizing before with
  | nil =>
    simp only [seek, after_offset, List.take_nil, List.append_nil, exists_const, eq_comm (a := p)]
    by_cases hfound : octetCount before = offset <;> simp [hfound]
  | cons c rest ih =>
    have hsize := c.utf8Size_pos
    by_cases hfound : octetCount before = offset
    · have hhere : (after before).seek offset (c :: rest) = some (after before) := by
        rw [seek, after_offset, if_pos hfound]
      rw [hhere]
      constructor
      · intro h
        exact ⟨0, by simpa using hfound, by simpa using h.symm⟩
      · rintro ⟨k, hk, rfl⟩
        have hnil : (c :: rest).take k = [] := by
          rw [← octetCount_eq_zero_iff]
          simp only [octetCount_append] at hk
          omega
        simp [hnil]
    · have hthere : (after before).seek offset (c :: rest) =
          (after (before ++ [c])).seek offset rest := by
        rw [seek, after_offset, if_neg hfound, advance_after]
      rw [hthere, ih]
      constructor
      · rintro ⟨k, hk, rfl⟩
        exact ⟨k + 1, by simpa using hk, by simp⟩
      · rintro ⟨k, hk, rfl⟩
        cases k with
        | zero => exact absurd (by simpa using hk) hfound
        | succ k => exact ⟨k, by simpa using hk, by simp⟩

/-- Positions are ordered strictly. -/
theorem lt_irrefl (p : Position) : ¬p < p := by
  intro h
  have h : p.line < p.line ∨ p.line = p.line ∧
    (p.column < p.column ∨ p.column = p.column ∧ p.offset < p.offset) := h
  omega

/-- The order of positions is transitive. -/
theorem lt_trans {p q r : Position} (hpq : p < q) (hqr : q < r) : p < r := by
  have hpq : p.line < q.line ∨ p.line = q.line ∧
    (p.column < q.column ∨ p.column = q.column ∧ p.offset < q.offset) := hpq
  have hqr : q.line < r.line ∨ q.line = r.line ∧
    (q.column < r.column ∨ q.column = r.column ∧ q.offset < r.offset) := hqr
  change p.line < r.line ∨ p.line = r.line ∧
    (p.column < r.column ∨ p.column = r.column ∧ p.offset < r.offset)
  omega

/-- Advancing over a character leads to a later position. -/
theorem lt_advance (p : Position) (c : Char) : p < p.advance c := by
  by_cases hc : c = '\n'
  · rw [advance, if_pos hc]
    exact Or.inl (Nat.lt_succ_self _)
  · rw [advance, if_neg hc]
    exact Or.inr ⟨rfl, Or.inl (Nat.lt_succ_self _)⟩

/-- The position behind more characters is later. -/
theorem after_lt_after_append {before text : List Char} (htext : text ≠ []) :
    after before < after (before ++ text) := by
  induction text generalizing before with
  | nil => exact absurd rfl htext
  | cons c text ih =>
    have hstep : after before < after (before ++ [c]) := by
      rw [← advance_after]
      exact lt_advance _ _
    by_cases hrest : text = []
    · simpa [hrest] using hstep
    · have hlater := @ih (before ++ [c]) hrest
      simp only [List.append_assoc, List.singleton_append] at hlater
      exact lt_trans hstep hlater

/-- Of two prefixes of a text, the one with fewer octets has the earlier position. -/
theorem after_take_lt_of_octetCount_lt {cs : List Char} {j k : ℕ}
    (h : octetCount (cs.take j) < octetCount (cs.take k)) :
    after (cs.take j) < after (cs.take k) := by
  have hjk : j < k := by
    by_contra hkj
    have htake : cs.take j = cs.take k ++ (cs.drop k).take (j - k) := by
      rw [← List.take_add, Nat.add_sub_cancel' (by omega)]
    rw [htake, octetCount_append] at h
    omega
  have hsplit : cs.take k = cs.take j ++ (cs.drop j).take (k - j) := by
    rw [← List.take_add, Nat.add_sub_cancel' hjk.le]
  rw [hsplit]
  refine after_lt_after_append fun hnil => ?_
  rw [hsplit, hnil, List.append_nil] at h
  omega

end Position

end Diagnostics
