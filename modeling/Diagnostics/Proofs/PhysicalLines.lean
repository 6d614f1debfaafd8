import Diagnostics.Proofs.Printing

/-!
# Physical lines of rendered blocks

Who reads a rendered text may end its lines at every line boundary and not at line feeds only. This
file shows when the two ways agree for blocks that show no source: exactly if no code of a header
and no character of a separator that is drawn is a line boundary. Then a lead in front of a block
stands in front of each physical line. These two are the only strings that layout neither cuts at
line boundaries nor refuses for one other than the line feed.
-/

namespace Diagnostics

namespace Text

/-- Whether no character of a text is a line boundary. -/
def Unbroken (s : String) : Prop :=
  ∀ c ∈ s.toList, isLineBoundary c = false

instance : DecidablePred Unbroken := fun s =>
  decidable_of_iff (s.toList.all fun c => !isLineBoundary c) (by simp [Unbroken])

/-- Line boundaries are not printable, and none of them is the escape character. -/
theorem not_isPrintable_of_isLineBoundary {c : Char} (h : isLineBoundary c = true) :
    isPrintable c = false ∧ c ≠ '\x1b' := by
  have hmem := List.contains_iff_mem.mp h
  simp only [lineBoundaries, List.mem_cons, List.not_mem_nil, or_false] at hmem
  rcases hmem with rfl | rfl | rfl | rfl | rfl | rfl | rfl | rfl | rfl | rfl <;> decide +kernel

/-- A text is unbroken if it lacks each line boundary. -/
theorem unbroken_iff {s : String} :
    Unbroken s ↔ ∀ c, isLineBoundary c = true → c ∉ s.toList := by
  constructor
  · intro h c hc hmem
    rw [h c hmem] at hc
    cases hc
  · intro h c hmem
    rw [← Bool.not_eq_true]
    exact fun hc => h c hc hmem

/-- A character that is no line boundary belongs to the line of what follows it. -/
theorem cutLines_cons {c : Char} (hc : isLineBoundary c = false) (cs : List Char) :
    cutLines (c :: cs) = consFirst c (cutLines cs) := by
  have hreturn : c ≠ '\r' := by
    rintro rfl
    revert hc
    decide
  rw [cutLines, if_neg (by rw [hc]; decide)]
  rintro rest rfl
  exact absurd rfl hreturn

/-- A line that a line feed ends is cut off as it is. -/
theorem cutLines_append_feed {line : List Char} (h : ∀ c ∈ line, isLineBoundary c = false)
    (rest : List Char) : cutLines (line ++ '\n' :: rest) = line :: cutLines rest := by
  induction line with
  | nil =>
    rw [List.nil_append, cutLines, if_pos (by decide)]
    intro cs hcs
    cases hcs
  | cons c line ih =>
    rw [List.forall_mem_cons] at h
    rw [List.cons_append, cutLines_cons h.1, ih h.2, consFirst]

/-- A text without line boundaries is one line, or none if it is empty. -/
theorem cutLines_of_unbroken {line : List Char} (h : ∀ c ∈ line, isLineBoundary c = false) :
    cutLines line = if line = [] then [] else [line] := by
  induction line with
  | nil => rfl
  | cons c line ih =>
    rw [List.forall_mem_cons] at h
    rw [cutLines_cons h.1, ih h.2, if_neg (List.cons_ne_nil _ _)]
    split
    · rename_i hnil
      rw [hnil, consFirst]
    · rw [consFirst]

/-- Of unbroken lines that are joined by line feeds all are found again, but for an empty one at the
end. -/
theorem cutLines_intercalate {front : List (List Char)} {last : List Char}
    (hfront : ∀ line ∈ front, ∀ c ∈ line, isLineBoundary c = false)
    (hlast : ∀ c ∈ last, isLineBoundary c = false) :
    cutLines (['\n'].intercalate (front ++ [last])) =
      front ++ if last = [] then [] else [last] := by
  induction front with
  | nil =>
    rw [List.nil_append, List.nil_append, List.intercalate_singleton]
    exact cutLines_of_unbroken hlast
  | cons line front ih =>
    rw [List.forall_mem_cons] at hfront
    rw [List.cons_append, List.intercalate_cons_of_ne_nil (by simp), List.append_assoc,
      List.singleton_append, cutLines_append_feed hfront.1, ih hfront.2, List.cons_append]

/-- Of unbroken lines that are joined by line feeds all are found again, but for an empty one at the
end. -/
theorem lines_intercalate {front : List String} {last : String}
    (hfront : ∀ line ∈ front, Unbroken line) (hlast : Unbroken last) :
    lines ("\n".intercalate (front ++ [last])) = front ++ if last = "" then [] else [last] := by
  have hcut := cutLines_intercalate (List.forall_mem_map.mpr hfront) hlast
  have hjoined : ("\n".intercalate (front ++ [last])).toList =
      ['\n'].intercalate (front.map String.toList ++ [last.toList]) := by
    rw [String.toList_intercalate, List.map_append]
    rfl
  have hback : (front.map String.toList).map String.ofList = front := by
    rw [List.map_map]
    exact List.map_id'' (fun s => String.ofList_toList) front
  rw [lines, hjoined, hcut, List.map_append, hback]
  by_cases hempty : last = ""
  · subst hempty
    rfl
  · rw [if_neg hempty, if_neg (fun hnil => hempty (String.toList_eq_nil_iff.mp hnil)),
      List.map_singleton, String.ofList_toList]

/-- Unbroken lines that are joined by line feeds have no other physical lines. -/
theorem mem_of_mem_lines_intercalate {texts : List String} (h : ∀ text ∈ texts, Unbroken text)
    {line : String} (hline : line ∈ lines ("\n".intercalate texts)) : line ∈ texts := by
  rcases List.eq_nil_or_concat' texts with rfl | ⟨front, last, rfl⟩
  · exact absurd hline List.not_mem_nil
  · rw [List.forall_mem_append] at h
    rw [lines_intercalate h.1 (h.2 last List.mem_cons_self)] at hline
    split at hline
    · rw [List.append_nil] at hline
      exact List.mem_append_left _ hline
    · exact hline

/-- Unbroken lines of which none is empty are the physical lines of the text that they are joined
to. -/
theorem lines_intercalate_of_ne {texts : List String} (h : ∀ text ∈ texts, Unbroken text)
    (hne : "" ∉ texts) : lines ("\n".intercalate texts) = texts := by
  rcases List.eq_nil_or_concat' texts with rfl | ⟨front, last, rfl⟩
  · rfl
  · rw [List.forall_mem_append] at h
    rw [lines_intercalate h.1 (h.2 last List.mem_cons_self), if_neg]
    rintro rfl
    exact hne (List.mem_append_right _ List.mem_cons_self)

end Text

/-- Printing a piece keeps its characters. -/
theorem Piece.mem_print {piece : Piece} {color : Bool} {c : Char} (h : c ∈ piece.text.toList) :
    c ∈ (piece.print color).toList := by
  unfold Piece.print
  split
  · exact h
  · split
    · simp only [Styled.embolden, String.toList_append]
      exact List.mem_append_left _ (List.mem_append_right _ h)
    · exact h

/-- A printed line is unbroken exactly if no piece of the line has a line boundary. -/
theorem Line.unbroken_print_iff {line : Line} {color : Bool} :
    Text.Unbroken (line.print color) ↔ ∀ c, Text.isLineBoundary c = true → line.Avoids c := by
  rw [Text.unbroken_iff]
  refine forall₂_congr fun c hc => ⟨fun h piece hpiece hmem => ?_, fun h => ?_⟩
  · rw [Line.print, String.toList_join, List.mem_flatMap] at h
    exact h ⟨_, List.mem_map.mpr ⟨piece, hpiece, rfl⟩, Piece.mem_print hmem⟩
  · obtain ⟨hprint, hescape⟩ := Text.not_isPrintable_of_isLineBoundary hc
    exact Line.not_mem_print hprint hescape h

/-- A diagnostic of one block. -/
def Diagnostic.ofBlock (kind : Severity) (b : Block) : Diagnostic where
  report := ⟨kind, [b]⟩
  causes := []

namespace Block

/-- Whether each code of a header in a block is free of line boundaries, and each character that a
separator in it draws is none. -/
structure CodesAndSeparatorsUnbroken (b : Block) : Prop where
  code : ∀ h code, .header h ∈ b.parts → h.code = some code → Text.Unbroken code
  separator : ∀ s, .separator s ∈ b.parts → 0 < s.width → Text.isLineBoundary s.character = false

end Block

/-- The strings of an error stack are all cut at their line boundaries. -/
theorem Stack.cut_of_mem_fragments {s : Stack} {f : Fragment} (hf : f ∈ s.fragments) :
    f.cut = .atBoundaries := by
  obtain ⟨error, -, hf⟩ := List.mem_flatMap.mp hf
  rcases List.mem_cons.mp hf with rfl | hf
  · rfl
  · obtain ⟨frame, -, hf⟩ := List.mem_flatMap.mp hf
    obtain ⟨text, -, rfl⟩ := List.mem_map.mp hf
    rfl

namespace Layout

variable {c : Char} {g : Glyphs} {level : Severity}

/-- What a block without a source contributes itself has a line boundary only if it is a lead, a
code of a header or the character of a separator. -/
theorem ownAvoids_of_isLineBoundary (hc : Text.isLineBoundary c = true) (hg : g.Avoids c)
    {b : Block} (hsource : ∀ code, b ≠ .code code)
    (hlead : ∀ lead child, b = .prefixed lead child → Text.Unbroken lead)
    (hcode : ∀ h code, b = .header h → h.code = some code → Text.Unbroken code)
    (hseparator : ∀ s, b = .separator s → 0 < s.width → Text.isLineBoundary s.character = false) :
    OwnAvoids g level c b := by
  obtain ⟨hprint, -⟩ := Text.not_isPrintable_of_isLineBoundary hc
  cases b with
  | code code => exact absurd rfl (hsource code)
  | prefixed lead child => exact Text.unbroken_iff.mp (hlead lead child rfl) c hc
  | separator s =>
    refine .ok (List.forall_mem_singleton.mpr (Line.avoids_plain.mpr ?_))
    rw [String.toList_ofList, List.mem_replicate]
    rintro ⟨hwidth, rfl⟩
    rw [hseparator s rfl (Nat.pos_of_ne_zero hwidth)] at hc
    cases hc
  | container children => trivial
  | header h =>
    refine ownAvoids_of_hides hprint hg ?_
    simp only [Block.ownFragments, Header.fragments, List.forall_mem_cons, List.forall_mem_append,
      List.cons_append, Fragment.forall_mem_present]
    refine ⟨fun _ => hc, fun code hmem => ?_, fun _ _ _ => hc⟩
    have hcode := hcode h code rfl (List.mem_singleton.mp hmem).symm
    exact Fragment.hides_of_not_mem (Text.unbroken_iff.mp hcode c hc)
  | verbatim text =>
    exact ownAvoids_of_hides hprint hg (List.forall_mem_map.mpr fun _ _ _ => hc)
  | note title message | steps title items finalMessage =>
    refine ownAvoids_of_hides hprint hg ?_
    simp only [Block.ownFragments, List.forall_mem_cons]
    exact ⟨fun _ => hc, fun _ => hc, fun f hf => absurd hf List.not_mem_nil⟩
  | tag label =>
    exact ownAvoids_of_hides hprint hg (List.forall_mem_singleton.mpr fun _ => hc)
  | stack s =>
    refine ownAvoids_of_hides hprint hg fun f hf _ => ?_
    rw [Stack.cut_of_mem_fragments hf]
    exact hc
  | foreign value => exact .error _

/-- The code of a header is shown as it is. -/
theorem not_avoids_of_mem_code {h : Header} {code : String} (hcode : h.code = some code)
    (hc : c ∈ code.toList) : ∃ line ∈ header g level h, ¬line.Avoids c := by
  have htag : c ∈ (headerTag level h).toList := by
    have hne : code ≠ "" := by
      rintro rfl
      exact absurd hc List.not_mem_nil
    rw [headerTag, Text.nonempty?_eq_some_iff.mpr ⟨hcode, hne⟩, String.toList_append]
    refine List.mem_append_right _ ?_
    rw [String.toList_append, String.toList_append]
    exact List.mem_append_left _ (List.mem_append_right _ hc)
  have htitle : ∃ line ∈ headerTitle level h, ¬line.Avoids c := by
    rw [headerTitle]
    split
    · exact ⟨_, List.mem_cons_self, fun havoids => (Line.avoids_cons.mp havoids).1 htag⟩
    · exact ⟨_, List.mem_cons_self, fun havoids =>
        (Line.avoids_cons.mp (Line.avoids_append.mp havoids).1).1 htag⟩
  obtain ⟨line, hline, hshown⟩ := htitle
  refine ⟨line, ?_, hshown⟩
  rw [header, List.append_assoc, List.append_assoc]
  exact List.mem_append_left _ hline

/-- A separator that is not empty shows its character. -/
theorem not_avoids_separator {s : Separator} (hwidth : 0 < s.width) :
    ¬(Line.plain (String.ofList (List.replicate s.width s.character))).Avoids s.character := by
  rw [Line.avoids_plain, String.toList_ofList, List.mem_replicate]
  exact fun h => h ⟨hwidth.ne', rfl⟩

/-- What a line shows is shown with pieces in front of it. -/
theorem Within.exists_not_avoids {inner lines : List Line} (h : Within inner lines)
    (hinner : ∃ line ∈ inner, ¬line.Avoids c) : ∃ line ∈ lines, ¬line.Avoids c := by
  obtain ⟨line, hline, hshown⟩ := hinner
  obtain ⟨front, hfront⟩ := h line hline
  exact ⟨_, hfront, fun havoids => hshown (Line.avoids_append.mp havoids).2⟩

/-- The lines of a block without a source are free of line boundaries exactly if the codes and the
separators in it are. -/
theorem forall_avoids_iff (hg : ∀ c, Text.isLineBoundary c = true → g.Avoids c) {b : Block}
    (hsource : ∀ code, .code code ∉ b.parts)
    (hlead : ∀ lead child, .prefixed lead child ∈ b.parts → Text.Unbroken lead)
    {lines : List Line} (hlines : block g level b = .ok lines) :
    (∀ line ∈ lines, ∀ c, Text.isLineBoundary c = true → line.Avoids c) ↔
      b.CodesAndSeparatorsUnbroken := by
  constructor
  · intro havoids
    constructor
    · intro h code hpart hcode
      refine Text.unbroken_iff.mpr fun c hc hmem => ?_
      obtain ⟨inner, hinner, hwithin⟩ := within_block hlines hpart
      obtain rfl := Except.ok.inj hinner
      obtain ⟨line, hline, hshown⟩ :=
        hwithin.exists_not_avoids (not_avoids_of_mem_code hcode hmem)
      exact hshown (havoids line hline c hc)
    · intro s hpart hwidth
      rw [← Bool.not_eq_true]
      intro hc
      obtain ⟨inner, hinner, hwithin⟩ := within_block hlines hpart
      obtain rfl := Except.ok.inj hinner
      obtain ⟨line, hline, hshown⟩ :=
        hwithin.exists_not_avoids ⟨_, List.mem_cons_self, not_avoids_separator hwidth⟩
      exact hshown (havoids line hline _ hc)
  · intro hb line hline c hc
    obtain ⟨hprint, -⟩ := Text.not_isPrintable_of_isLineBoundary hc
    refine eachLine_block hprint (hg c hc) b (fun part hpart => ?_) lines hlines line hline
    refine ownAvoids_of_isLineBoundary hc (hg c hc) ?_ ?_ ?_ ?_
    · rintro code rfl
      exact hsource code hpart
    · rintro lead child rfl
      exact hlead lead child hpart
    · rintro h code rfl hcode
      exact hb.code h code hpart hcode
    · rintro s rfl hwidth
      exact hb.separator s hpart hwidth

end Layout

namespace Diagnostic

/-- A diagnostic of one block renders into the lines of the block. -/
theorem render_ofBlock {g : Glyphs} {level : Severity} {b : Block} {lines : List Line}
    (hlines : Layout.block g level b = .ok lines) (color : Bool) :
    (ofBlock level b).render g color = .ok (lines.map (Line.print color)) := by
  have hblocks : Layout.blocks g level [b] = .ok lines :=
    (Layout.blocks_singleton g level b).trans hlines
  rw [render, layout]
  exact congrArg (Except.map _) hblocks

/-- A lead in front of a block stands in front of each of its lines. -/
theorem renderText_prefixed {g : Glyphs} {level : Severity} {b : Block} {lines : List Line}
    (hlines : Layout.block g level b = .ok lines) (lead : String) (color : Bool) :
    (ofBlock level (.prefixed lead b)).renderText g color =
      .ok ("\n".intercalate ((lines.map (Line.print color)).map (lead ++ ·))) := by
  have hprefixed : Layout.block g level (.prefixed lead b) =
      .ok (lines.map (({ text := lead } : Piece) :: ·)) := by
    rw [Layout.block, hlines]
    rfl
  have hprint : ∀ line : Line, Line.print color (({ text := lead } : Piece) :: line) =
      lead ++ Line.print color line := by
    intro line
    rw [Line.print, List.map_cons, String.join_cons]
    rfl
  rw [renderText, render_ofBlock hprefixed, List.map_map, List.map_map]
  exact congrArg (fun f => Except.ok ("\n".intercalate (lines.map f))) (funext hprint)

/-- For a block without a source, whose leads have no line boundary, drawn with a built-in table: it
renders, and its lines are free of line boundaries exactly if no code of a header and no separator
that is drawn has one. Then a lead in front of the block stands in front of each physical line of
the rendered text, and these are all lines of the block. -/
theorem prefixed_leads_physical_lines {b : Block} {g : Glyphs}
    (hg : g = .boxDrawing ∨ g = .ascii) (hblocks : b.foreigns = [])
    (hsource : ∀ code, .code code ∉ b.parts)
    (hleads : ∀ lead child, .prefixed lead child ∈ b.parts → Text.Unbroken lead)
    (level : Severity) (color : Bool) :
    ∃ lines, (ofBlock level b).render g color = .ok lines ∧
      ((∀ line ∈ lines, Text.Unbroken line) ↔ b.CodesAndSeparatorsUnbroken) ∧
      (b.CodesAndSeparatorsUnbroken → ∀ lead, Text.Unbroken lead →
        ∃ text, (ofBlock level (.prefixed lead b)).renderText g color = .ok text ∧
          (∀ line ∈ Text.lines text, ∃ rest ∈ lines, line = lead ++ rest) ∧
          (lead ≠ "" → Text.lines text = lines.map (lead ++ ·))) := by
  have havoids : ∀ c, Text.isLineBoundary c = true → g.Avoids c := by
    intro c hc
    obtain ⟨hprint, -⟩ := Text.not_isPrintable_of_isLineBoundary hc
    rcases hg with rfl | rfl
    · exact Glyphs.boxDrawing_avoids hprint
    · exact Glyphs.ascii_avoids hprint
  have hlaid := Layout.block_failsFor g level b
  rw [hblocks] at hlaid
  obtain ⟨lines, hlines⟩ := hlaid
  have hiff : (∀ line ∈ lines.map (Line.print color), Text.Unbroken line) ↔
      b.CodesAndSeparatorsUnbroken := by
    rw [List.forall_mem_map, ← Layout.forall_avoids_iff havoids hsource hleads hlines]
    exact forall₂_congr fun _ _ => Line.unbroken_print_iff
  refine ⟨_, render_ofBlock hlines color, hiff, fun hb lead hlead => ?_⟩
  have hled : ∀ text ∈ (lines.map (Line.print color)).map (lead ++ ·), Text.Unbroken text := by
    refine List.forall_mem_map.mpr fun line hline c hc => ?_
    rw [String.toList_append, List.mem_append] at hc
    exact hc.elim (hlead c) (hiff.mpr hb line hline c)
  refine ⟨_, renderText_prefixed hlines lead color, fun line hline => ?_, fun hne => ?_⟩
  · obtain ⟨rest, hrest, rfl⟩ := List.mem_map.mp (Text.mem_of_mem_lines_intercalate hled hline)
    exact ⟨rest, hrest, rfl⟩
  · refine Text.lines_intercalate_of_ne hled fun hempty => ?_
    obtain ⟨rest, -, hrest⟩ := List.mem_map.mp hempty
    exact hne (String.append_eq_empty_iff.mp hrest).1

/-- A header, a note and an empty separator with line boundaries in all that is cut or not drawn. -/
def folded : Block :=
  .container [.header { title := "a\u2028b", code := some "E1", location := some "x\ry" },
    .prefixed "| " (.steps "try\x0c" [.note "see" "c\u0085d", .separator ⟨0, '\r', by decide⟩] "")]

/-- No line boundary of that block reaches a line. -/
theorem prefixed_leads_physical_lines_folded :
    folded.foreigns = [] ∧ (∀ code, .code code ∉ folded.parts) ∧
      (∀ lead child, .prefixed lead child ∈ folded.parts → Text.Unbroken lead) ∧
      folded.CodesAndSeparatorsUnbroken ∧ Text.Unbroken "> " ∧
      ∃ lines, (ofBlock .warn folded).render .ascii true = .ok lines ∧
        (∀ line ∈ lines, Text.Unbroken line) ∧
        ∃ text, (ofBlock .warn (.prefixed "> " folded)).renderText .ascii true = .ok text ∧
          Text.lines text = lines.map ("> " ++ ·) := by
  have hblocks : folded.foreigns = [] := by rfl
  have hsource : ∀ code, .code code ∉ folded.parts := by
    simp [folded, Block.parts, Block.partsOfAll]
  have hleads : ∀ lead child, .prefixed lead child ∈ folded.parts → Text.Unbroken lead := by
    simp only [folded, Block.parts, Block.partsOfAll, List.mem_cons, List.mem_append, reduceCtorEq,
      List.not_mem_nil, or_false, false_or, Block.prefixed.injEq]
    rintro lead child ⟨rfl, -⟩
    decide
  have hdrawn : folded.CodesAndSeparatorsUnbroken := by
    constructor
    · simp only [folded, Block.parts, Block.partsOfAll, List.mem_cons, List.mem_append,
        reduceCtorEq, List.not_mem_nil, or_false, false_or, Block.header.injEq]
      rintro h code rfl hcode
      obtain rfl := Option.some.inj hcode
      decide
    · simp only [folded, Block.parts, Block.partsOfAll, List.mem_cons, List.mem_append,
        reduceCtorEq, List.not_mem_nil, or_false, false_or, Block.separator.injEq]
      rintro s rfl hwidth
      exact absurd hwidth (Nat.lt_irrefl 0)
  have hlead : Text.Unbroken "> " := by decide
  obtain ⟨lines, hlines, hiff, hprefixed⟩ :=
    prefixed_leads_physical_lines (Or.inr rfl) hblocks hsource hleads .warn true
  obtain ⟨text, htext, -, hall⟩ := hprefixed hdrawn "> " hlead
  exact ⟨hblocks, hsource, hleads, hdrawn, hlead, lines, hlines, hiff.mpr hdrawn, text, htext,
    hall (by decide)⟩

/-- A separator of carriage returns can be made, and a code with a line feed can be given to a
header. A lead in front of either does not stand in front of its second physical line. -/
theorem prefixed_misses_physical_lines :
    (∃ s, Separator.make 2 "\r" = .ok s ∧
      (ofBlock .info (.prefixed "> " (.separator s))).renderText .boxDrawing false =
        .ok "> \r\r" ∧
      Text.lines "> \r\r" = ["> ", ""]) ∧
    (ofBlock .error (.prefixed "> " (.header { title := "t", code := some "E\n1" }))).renderText
        .boxDrawing false = .ok "> error[E\n1]: t" ∧
      Text.lines "> error[E\n1]: t" = ["> error[E", "1]: t"] := by
  refine ⟨⟨⟨2, '\r', by decide⟩, by rfl, by rfl, by decide⟩, by rfl, by decide⟩

end Diagnostic

end Diagnostics
