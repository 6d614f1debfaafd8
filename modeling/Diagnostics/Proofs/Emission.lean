import Diagnostics.Proofs.Printing

/-!
# Emitted text

A rendered diagnostic is written to one destination, ended by a line feed. Where no colour is wanted
what is written has no escape sequences, those of the diagnostic itself included. So the rendered
text is written as it is exactly if colour is wanted or it has no escape sequence, and a diagnostic
without escape characters is always written as it is rendered.
-/

namespace Diagnostics

namespace Styled

/-- Whether characters hold an escape sequence. -/
def HasEscape (cs : List Char) : Prop :=
  ∃ sequence, IsEscape sequence ∧ sequence <:+: cs

/-- What is found at the beginning of a text is an escape sequence, if anything is. -/
theorem escapeLength_eq_zero_iff {cs : List Char} :
    escapeLength cs = 0 ↔ ¬∃ sequence, IsEscape sequence ∧ sequence <+: cs := by
  constructor
  · rintro hzero ⟨sequence, hescape, rest, rfl⟩
    rw [escapeLength_append hescape] at hzero
    obtain ⟨parameters, letter, rfl, -⟩ := hescape
    cases hzero
  · intro hnone
    unfold escapeLength
    split
    · rename_i ds
      split
      · rfl
      · rename_i c rest hdrop
        rw [if_neg]
        intro hletter
        refine hnone ⟨_, ⟨ds.takeWhile isParameter, c, rfl, List.all_takeWhile, hletter⟩, rest, ?_⟩
        have hsplit : ds.takeWhile isParameter ++ ds.dropWhile isParameter = ds :=
          List.takeWhile_append_dropWhile
        rw [hdrop] at hsplit
        simpa using hsplit
    · rfl

/-- Erasing adds no characters. -/
theorem length_eraseFrom_le (skip : ℕ) (cs : List Char) :
    (eraseFrom skip cs).length ≤ cs.length := by
  induction cs generalizing skip with
  | nil => cases skip <;> exact Nat.le_refl 0
  | cons c cs ih =>
    cases skip with
    | succ skip => exact (ih skip).trans (Nat.le_succ _)
    | zero =>
      rw [eraseFrom]
      split
      · exact Nat.succ_le_succ (ih 0)
      · exact (ih _).trans (Nat.le_succ _)

/-- A text is left as it is exactly if it has no escape sequence. By induction on the text: a
sequence either begins it or lies behind its first character. -/
theorem eraseFrom_eq_self_iff {cs : List Char} : eraseFrom 0 cs = cs ↔ ¬HasEscape cs := by
  induction cs with
  | nil =>
    refine iff_of_true rfl ?_
    rintro ⟨sequence, ⟨parameters, letter, rfl, -⟩, hfound⟩
    cases List.infix_nil.mp hfound
  | cons c cs ih =>
    have hcases : HasEscape (c :: cs) ↔
        (∃ sequence, IsEscape sequence ∧ sequence <+: c :: cs) ∨ HasEscape cs := by
      simp only [HasEscape, List.infix_cons_iff, and_or_left, exists_or]
    rw [hcases, not_or, ← ih, ← escapeLength_eq_zero_iff, eraseFrom]
    split
    · rename_i hzero
      rw [List.cons.injEq]
      simp [hzero]
    · rename_i n hlength
      refine iff_of_false (fun heq => ?_) (fun h => ?_)
      · have hshort := length_eraseFrom_le n cs
        rw [heq, List.length_cons] at hshort
        omega
      · rw [hlength] at h
        cases h.1

/-- A text without escape characters has no escape sequence. -/
theorem not_hasEscape_of_not_mem {cs : List Char} (h : '\x1b' ∉ cs) : ¬HasEscape cs := by
  rintro ⟨sequence, ⟨parameters, letter, rfl, -⟩, hfound⟩
  exact h (hfound.subset List.mem_cons_self)

end Styled

/-- A text is written as it is, with a line feed, exactly if colour is wanted or it has no escape
sequence. -/
theorem writtenForm_eq_iff {color : Bool} {text : String} :
    writtenForm color text = text ++ "\n" ↔ color = true ∨ ¬Styled.HasEscape text.toList := by
  rw [writtenForm, String.append_left_inj]
  cases color with
  | true => simp
  | false =>
    rw [← Styled.eraseFrom_eq_self_iff]
    simp [Styled.eraseEscapes, ← String.toList_inj]

/-- What has been written to a destination. -/
def Written.sentTo (written : Written) : Destination → String
  | .file => written.file
  | .stdout => written.stdout
  | .stderr => written.stderr

/-- A text written to one destination is there and nowhere else. -/
theorem Written.sentTo_only (text : String) (destination other : Destination) :
    (Written.only text destination).sentTo other = if other = destination then text else "" := by
  cases destination <;> cases other <;> rfl

namespace Diagnostic

/-- A diagnostic of blocks is written to its destination and to no other: the rendered text without
its escape sequences unless colour is wanted, and a line feed. This is the rendered text itself
exactly if colour is wanted or it has no escape sequence, and so it is for a diagnostic and marks
without escape characters. -/
theorem emit_writes_rendered_text {d : Diagnostic} (hblocks : d.foreigns = []) (g : Glyphs)
    (color : Bool) (destination : Destination) :
    ∃ text written, d.renderText g color = .ok text ∧ d.emit g color destination = .ok written ∧
      (∀ other, other ≠ destination → written.sentTo other = "") ∧
      written.sentTo destination =
        (if color then text else Styled.eraseEscapes text) ++ "\n" ∧
      (written.sentTo destination = text ++ "\n" ↔
        color = true ∨ ¬Styled.HasEscape text.toList) ∧
      ((∀ f ∈ d.fragments, '\x1b' ∉ f.text.toList) → g.Avoids '\x1b' →
        written.sentTo destination = text ++ "\n") := by
  obtain ⟨lines, hlines, hrender⟩ := d.exists_layout_of_blocks hblocks g
  have htext : d.renderText g color =
      .ok ("\n".intercalate (lines.map (Line.print color))) := by
    rw [renderText, hrender color]
    rfl
  set text := "\n".intercalate (lines.map (Line.print color)) with htext_def
  have hsent : (Written.only (writtenForm color text) destination).sentTo destination =
      (if color then text else Styled.eraseEscapes text) ++ "\n" := by
    rw [Written.sentTo_only, if_pos rfl, writtenForm]
  have hiff : (Written.only (writtenForm color text) destination).sentTo destination =
      text ++ "\n" ↔ color = true ∨ ¬Styled.HasEscape text.toList := by
    rw [hsent]
    exact writtenForm_eq_iff
  refine ⟨text, Written.only (writtenForm color text) destination, htext, ?_, ?_, hsent, hiff, ?_⟩
  · rw [emit, htext]
    rfl
  · intro other hother
    rw [Written.sentTo_only, if_neg hother]
  · intro hd hg
    refine hiff.mpr ?_
    cases color with
    | true => exact Or.inl rfl
    | false =>
      refine Or.inr (Styled.not_hasEscape_of_not_mem (Text.not_mem_intercalate (by decide) ?_))
      refine List.forall_mem_map.mpr fun line hline => ?_
      rw [Line.print_false]
      refine Line.not_mem_text (avoids_of_mem_layout (by decide) hg (fun f hf => ?_) hlines hline)
      exact Fragment.hides_of_not_mem (hd f hf)

/-- Of a diagnostic in colour all is written as it is rendered, to the chosen destination only. -/
theorem emit_writes_rendered_text_layered :
    layered.foreigns = [] ∧ ∃ text written, layered.renderText .boxDrawing true = .ok text ∧
      layered.emit .boxDrawing true .stderr = .ok written ∧
      written.file = "" ∧ written.stdout = "" ∧ written.stderr = text ++ "\n" := by
  have hblocks : layered.foreigns = [] := by rfl
  obtain ⟨text, written, htext, hwritten, hothers, -, hsame, -⟩ :=
    emit_writes_rendered_text hblocks .boxDrawing true .stderr
  exact ⟨hblocks, text, written, htext, hwritten, hothers .file (by decide),
    hothers .stdout (by decide), hsame.mpr (Or.inl rfl)⟩

/-- An excerpt of a source that begins with an escape sequence, with a span behind it. -/
def tinted : Code where
  source := ⟨"\x1b[0mab"⟩
  spans := [⟨4, 5, none, none, none⟩]
  options := {}
  highlights := [⟨⟨4, 5, none, none, none⟩, ⟨1, 5, 4⟩, ⟨1, 6, 5⟩⟩]
  resolved := by decide +kernel
  nonnegative := Excerpt.Options.nonnegative_default
  text_ne := by decide
  displayed_ne := by decide

/-- Of that excerpt without colour, the row of the source loses its escape sequence when it is
written, and the marker no longer stands under the highlighted character. -/
theorem emit_drops_escapes_of_source :
    renderText ⟨⟨.error, [.code tinted]⟩, []⟩ .ascii false =
        .ok "× ,-\n1 | \x1b[0mab\n  |     ^\n  \x60-" ∧
      emit ⟨⟨.error, [.code tinted]⟩, []⟩ .ascii false .file =
        .ok { file := "× ,-\n1 | ab\n  |     ^\n  \x60-\n" } := by
  constructor <;> rfl

end Diagnostic

end Diagnostics
