import Diagnostics.Command.Request
import Diagnostics.Proofs.Numerals
import Diagnostics.Proofs.Results

/-!
# The syntax of spans

A value of the span option is two integers with a colon between them and, after another colon, a
message. This file says so without reading, and shows that reading takes exactly these values, gives
one span for each in their order, and fails at the first that is none of them.
-/

namespace Diagnostics.Command

/-- The parts of a value: what stands before its first colon, what stands between that and the
second colon or the end, and what stands behind the second colon if there is one. -/
structure Cut (value : String) (start stop : List Char) (message : Option (List Char)) : Prop where
  value_eq : value.toList = start ++ ':' :: (stop ++ message.elim [] (':' :: ·))
  start_unbroken : ':' ∉ start
  stop_unbroken : ':' ∉ stop

/-- A value spells a span if its first two parts are numerals of the offsets and the third is the
message. A message without characters is none. -/
def Spells (value : String) (span : Span) : Prop :=
  ∃ start stop message first last, Cut value start stop message ∧
    Text.Numeral start first ∧ Text.Numeral stop last ∧
    span = { start := first, stop := last,
             trailingMessage := (message.filter (· ≠ [])).map String.ofList }

section Cutting

/-- Characters are cut at their first colon, if they have one. -/
theorem cutAtColon_eq_iff {cs before : List Char} {after : Option (List Char)} :
    cutAtColon cs = (before, after) ↔
      ':' ∉ before ∧ cs = before ++ after.elim [] (':' :: ·) := by
  induction cs generalizing before with
  | nil =>
    constructor
    · rintro ⟨⟩
      exact ⟨List.not_mem_nil, rfl⟩
    · rintro ⟨-, hnil⟩
      obtain ⟨rfl, hafter⟩ := List.append_eq_nil_iff.mp hnil.symm
      cases after with
      | none => rfl
      | some rest => cases hafter
  | cons c cs ih =>
    rw [cutAtColon]
    by_cases hc : c = ':'
    · subst hc
      rw [if_pos rfl]
      constructor
      · rintro ⟨⟩
        exact ⟨List.not_mem_nil, rfl⟩
      · rintro ⟨hbefore, hcons⟩
        cases before with
        | nil =>
          cases after with
          | none => cases hcons
          | some rest =>
            cases hcons
            rfl
        | cons b rest =>
          rw [List.cons_append, List.cons.injEq] at hcons
          rw [← hcons.1] at hbefore
          exact absurd List.mem_cons_self hbefore
    · rw [if_neg hc]
      constructor
      · intro h
        obtain ⟨rfl, hafter⟩ := Prod.mk.inj h
        obtain ⟨hbefore, hcs⟩ := ih.mp (Prod.ext rfl hafter)
        refine ⟨?_, by rw [List.cons_append, ← hcs]⟩
        rw [List.mem_cons]
        exact not_or_intro (Ne.symm hc) hbefore
      · rintro ⟨hbefore, hcons⟩
        cases before with
        | nil =>
          cases after with
          | none => cases hcons
          | some rest => exact absurd (List.cons.inj hcons).1 hc
        | cons b rest =>
          rw [List.cons_append, List.cons.injEq] at hcons
          obtain ⟨rfl, hcs⟩ := hcons
          rw [ih.mpr ⟨fun hmem => hbefore (List.mem_cons_of_mem _ hmem), hcs⟩]

end Cutting

section Reading

variable {value : String} {span : Span} {fault : Fault}

/-- A value without a colon is refused for that. -/
theorem readSpan_of_not_mem (h : ':' ∉ value.toList) :
    readSpan value = .error (.notASpan value) := by
  have hcut : cutAtColon value.toList = (value.toList, none) :=
    cutAtColon_eq_iff.mpr ⟨h, (List.append_nil _).symm⟩
  rw [readSpan, hcut]

/-- A value with a colon has parts. -/
theorem exists_cut (h : ':' ∈ value.toList) :
    ∃ start stop message, Cut value start stop message := by
  obtain ⟨hstart, hvalue⟩ := cutAtColon_eq_iff.mp (Eq.refl (cutAtColon value.toList))
  cases hafter : (cutAtColon value.toList).2 with
  | none =>
    rw [hafter, Option.elim_none, List.append_nil] at hvalue
    rw [hvalue] at h
    exact absurd h hstart
  | some rest =>
    obtain ⟨hstop, hrest⟩ := cutAtColon_eq_iff.mp (Eq.refl (cutAtColon rest))
    rw [hafter, Option.elim_some, hrest] at hvalue
    exact ⟨_, _, _, hvalue, hstart, hstop⟩

/-- A value with parts is read from them. -/
theorem Cut.readSpan_eq {start stop : List Char} {message : Option (List Char)}
    (h : Cut value start stop message) :
    readSpan value =
      match Text.integer? (String.ofList start), Text.integer? (String.ofList stop) with
      | some first, some last =>
        .ok { start := first, stop := last,
              trailingMessage := (message.filter (· ≠ [])).map String.ofList }
      | _, _ => .error (.notOffsets value) := by
  have hfirst : cutAtColon value.toList =
      (start, some (stop ++ message.elim [] (':' :: ·))) :=
    cutAtColon_eq_iff.mpr ⟨h.start_unbroken, h.value_eq⟩
  have hsecond : cutAtColon (stop ++ message.elim [] (':' :: ·)) = (stop, message) :=
    cutAtColon_eq_iff.mpr ⟨h.stop_unbroken, rfl⟩
  have hmessage : Text.nonempty? (message.map String.ofList) =
      (message.filter (· ≠ [])).map String.ofList := by
    cases message with
    | none => rfl
    | some cs => cases cs <;> simp [Text.nonempty?]
  rw [readSpan, hfirst]
  cases hstart : Text.integer? (String.ofList start) with
  | none => simp only [hsecond, hstart]
  | some first =>
    cases hstop : Text.integer? (String.ofList stop) with
    | none => simp only [hsecond, hstart, hstop]
    | some last => simp only [hsecond, hstart, hstop, hmessage]

/-- The spans that are read are those that values spell. -/
theorem readSpan_eq_ok_iff : readSpan value = .ok span ↔ Spells value span := by
  constructor
  · intro h
    have hcolon : ':' ∈ value.toList := by
      by_contra hnot
      rw [readSpan_of_not_mem hnot] at h
      cases h
    obtain ⟨start, stop, message, hcut⟩ := exists_cut hcolon
    rw [hcut.readSpan_eq] at h
    split at h
    · rename_i first last hfirst hlast
      rw [Text.integer?_eq_some_iff, String.toList_ofList] at hfirst hlast
      exact ⟨start, stop, message, first, last, hcut, hfirst, hlast, (Except.ok.inj h).symm⟩
    · cases h
  · rintro ⟨start, stop, message, first, last, hcut, hfirst, hlast, rfl⟩
    rw [← String.toList_ofList (l := start), ← Text.integer?_eq_some_iff] at hfirst
    rw [← String.toList_ofList (l := stop), ← Text.integer?_eq_some_iff] at hlast
    rw [hcut.readSpan_eq, hfirst, hlast]

/-- A value that spells no span is refused for its missing colon, or else for its offsets. -/
theorem readSpan_eq_error_iff :
    readSpan value = .error fault ↔
      (':' ∉ value.toList ∧ fault = .notASpan value) ∨
      (':' ∈ value.toList ∧ (¬ ∃ span, Spells value span) ∧ fault = .notOffsets value) := by
  by_cases hcolon : ':' ∈ value.toList
  · obtain ⟨start, stop, message, hcut⟩ := exists_cut hcolon
    simp only [hcolon, not_true, false_and, false_or, true_and, ← readSpan_eq_ok_iff]
    rw [hcut.readSpan_eq]
    split
    · simp
    · simp [eq_comm]
  · simp [readSpan_of_not_mem hcolon, hcolon, eq_comm]

end Reading

section Writing

variable {first last : ℤ}

/-- What is written of two integers and a message has them as its parts. -/
theorem cut_toString (first last : ℤ) (message : Option (List Char)) :
    Cut (toString first ++ ":" ++ toString last ++ String.ofList (message.elim [] (':' :: ·)))
      (toString first).toList (toString last).toList message where
  value_eq := by
    simp only [String.toList_append, String.toList_ofList, List.append_assoc]
    rfl
  start_unbroken := Text.colon_not_mem_toString first
  stop_unbroken := Text.colon_not_mem_toString last

/-- It is read as the span from the one to the other with that message. -/
theorem readSpan_toString (hfirst : first.natAbs.repr.length ≤ Text.maximumDigits)
    (hlast : last.natAbs.repr.length ≤ Text.maximumDigits) (message : Option (List Char)) :
    readSpan (toString first ++ ":" ++ toString last ++
        String.ofList (message.elim [] (':' :: ·))) =
      .ok { start := first, stop := last,
            trailingMessage := (message.filter (· ≠ [])).map String.ofList } := by
  rw [(cut_toString first last message).readSpan_eq, String.ofList_toList, String.ofList_toList,
    Text.integer?_toString hfirst, Text.integer?_toString hlast]

end Writing

/-- The span option is decoded faithfully. Two written integers, of no more digits than are read,
with a colon between them are read as a span from the one to the other; what stands behind a second
colon is its message, with all further colons, and nothing else is set. A list of values is read as
spans exactly if each value spells its span, in the same order; so reading succeeds exactly if each
value has a colon and numerals before and behind it. Otherwise it fails for the first value that
spells no span: for the colon if there is none, and else for the offsets. -/
theorem spans_decoded :
    (∀ first last : ℤ, first.natAbs.repr.length ≤ Text.maximumDigits →
      last.natAbs.repr.length ≤ Text.maximumDigits →
      (∀ message : String,
        readSpan (toString first ++ ":" ++ toString last ++ ":" ++ message) =
          .ok { start := first, stop := last,
                trailingMessage := if message = "" then none else some message }) ∧
      readSpan (toString first ++ ":" ++ toString last) = .ok { start := first, stop := last }) ∧
    (∀ (values : List String) (spans : List Span),
      values.mapM readSpan = .ok spans ↔ List.Forall₂ Spells values spans) ∧
    (∀ values : List String, (∃ spans, values.mapM readSpan = .ok spans) ↔
      ∀ value ∈ values, ∃ span, Spells value span) ∧
    ∀ (values : List String) (fault : Fault), values.mapM readSpan = .error fault ↔
      ∃ front value back, values = front ++ value :: back ∧
        (∀ v ∈ front, ∃ span, Spells v span) ∧
        ((':' ∉ value.toList ∧ fault = .notASpan value) ∨
          (':' ∈ value.toList ∧ (¬ ∃ span, Spells value span) ∧ fault = .notOffsets value)) := by
  have hlists (values : List String) (spans : List Span) :
      values.mapM readSpan = .ok spans ↔ List.Forall₂ Spells values spans := by
    simp only [mapM_eq_ok_iff, readSpan_eq_ok_iff]
  refine ⟨fun first last hfirst hlast => ⟨fun message => ?_, ?_⟩, hlists, fun values => ?_,
    fun values fault => ?_⟩
  · have hread := readSpan_toString hfirst hlast (some message.toList)
    have hwritten : String.ofList ((some message.toList).elim [] (':' :: ·)) = ":" ++ message := by
      rw [← String.toList_inj, String.toList_append]
      simp
    rw [hwritten, ← String.append_assoc] at hread
    rw [hread]
    by_cases hempty : message = ""
    · subst hempty
      rfl
    · simp [hempty, Option.filter]
  · have hread := readSpan_toString hfirst hlast none
    rwa [Option.elim_none, String.ofList_nil, String.append_empty] at hread
  · simp only [hlists]
    exact exists_forall₂_iff
  · simp only [mapM_eq_error_iff, readSpan_eq_ok_iff, readSpan_eq_error_iff]

/-- Of three values the second has no colon and the third no integers, and the second is at fault;
two that are written with a sign, an underscore, blanks and digits of another script are read. -/
theorem spans_decoded_signed :
    readSpan "-12:7:a:b:" = .ok { start := -12, stop := 7, trailingMessage := some "a:b:" } ∧
    readSpan "-12:7" = .ok { start := -12, stop := 7 } ∧
    ["1:2", "3", "x:y"].mapM readSpan = .error (.notASpan "3") ∧
    ∃ spans, [" +1_0 :\u0663", "0:0:"].mapM readSpan = .ok spans ∧ spans.length = 2 := by
  obtain ⟨hwritten, hlists, hreadable, hfaults⟩ := spans_decoded
  obtain ⟨hmessage, hnone⟩ := hwritten (-12) 7 (by decide) (by decide)
  have hread {value : String} {span : Span} (h : readSpan value = .ok span) :
      ∃ span, Spells value span := ⟨span, readSpan_eq_ok_iff.mp h⟩
  refine ⟨hmessage "a:b:", hnone, ?_, ?_⟩
  · have hfirst : readSpan "1:2" = .ok { start := 1, stop := 2 } := by decide
    refine (hfaults _ _).mpr ⟨["1:2"], "3", ["x:y"], rfl, ?_, .inl ⟨by decide, rfl⟩⟩
    exact List.forall_mem_singleton.mpr (hread hfirst)
  · have hfirst : readSpan " +1_0 :\u0663" = .ok { start := 10, stop := 3 } := by decide
    have hsecond : readSpan "0:0:" = .ok { start := 0, stop := 0 } := by decide
    obtain ⟨spans, hspans⟩ := (hreadable [" +1_0 :\u0663", "0:0:"]).mpr
      (List.forall_mem_cons.mpr ⟨hread hfirst, List.forall_mem_singleton.mpr (hread hsecond)⟩)
    exact ⟨spans, hspans, ((hlists _ _).mp hspans).length_eq.symm⟩

end Diagnostics.Command
