import Diagnostics.Proofs.RunEffects

/-!
# Faults that a run reports

An accepted run writes its diagnostic or reports why it cannot, in one line on the error output. It
does neither only if the settings do not fit the places where they are used: a section is no table,
a count of context lines is no number, or it is a double under which the context would begin or end
inside the source. Then, and if the file system does not answer, the fault is handed on unreported.
This file says exactly when that is.
-/

namespace Diagnostics.Command

/-- The first of some values that cannot be taken as a count of lines, which is none since it is no
number. All values before it are numbers that are not negative. -/
inductive NoNumber : List Toml.Value → Toml.Value → Prop
  | here {value : Toml.Value} {rest : List Toml.Value} (hnone : Count.ofValue? value = none) :
      NoNumber (value :: rest) value
  | later {first value : Toml.Value} {rest : List Toml.Value} {count : Count}
      (hcount : Count.ofValue? first = some count) (hnonnegative : count.isNegative = false)
      (hrest : NoNumber rest value) : NoNumber (first :: rest) value

/-- A count of context lines that is a double and does not reach beyond the source, so the context
would begin or end at a fraction of a line. -/
inductive Fractional (source : Source) : List Highlight → Counts → Prop
  | previous {first : Highlight} {rest : List Highlight} {counts : Counts} {x : Float}
      (hcount : counts.previous = .real x)
      (hinside : 1 < Float.ofNat (Excerpt.firstLine first.start.line rest) - x) :
      Fractional source (first :: rest) counts
  | next {first : Highlight} {rest : List Highlight} {counts : Counts} {x : Float}
      (hcount : counts.next = .real x)
      (hinside : Float.ofNat (Excerpt.lastLine first.stop.line rest) + x <
        Float.ofNat source.lineCount) :
      Fractional source (first :: rest) counts

section Counts

variable {fault : Fault}

/-- Reading a count fails with a fault that is not reported only if the value is no number. -/
theorem readCount_bind_eq_error_iff {α : Type} (hfault : fault.isReported = false)
    (name : ContextCount) (value : Toml.Value) (f : Count → Except Fault α) :
    readCount name value >>= f = .error fault ↔
      (Count.ofValue? value = none ∧
        fault = .failure (.unordered .less value.kind "int")) ∨
      ∃ count, Count.ofValue? value = some count ∧ count.isNegative = false ∧
        f count = .error fault := by
  rw [bind_eq_error_iff, readCount]
  cases hcount : Count.ofValue? value with
  | none =>
    have hsame : Fault.failure (.unordered .less value.kind "int") = fault ↔
        fault = .failure (.unordered .less value.kind "int") := eq_comm
    simp [hsame]
  | some count =>
    cases hnegative : count.isNegative with
    | false => simp [hnegative]
    | true =>
      have hreported : Fault.failure (.negativeCount name) ≠ fault := by
        rintro rfl
        cases hfault
      simp [hnegative, hreported]

/-- The same for the three counts: the first that cannot be taken is no number. -/
theorem readCounts_eq_error_iff (hfault : fault.isReported = false)
    (previous next middle : Toml.Value) :
    readCounts previous next middle = .error fault ↔
      ∃ value, NoNumber [previous, next, middle] value ∧
        fault = .failure (.unordered .less value.kind "int") := by
  unfold readCounts
  rw [readCount_bind_eq_error_iff hfault]
  simp only [readCount_bind_eq_error_iff hfault]
  constructor
  · rintro (⟨hnone, rfl⟩ | ⟨p, hp, hp0, ⟨hnone, rfl⟩ | ⟨n, hn, hn0, ⟨hnone, rfl⟩ | ⟨m, -, -, hm⟩⟩⟩)
    · exact ⟨previous, .here hnone, rfl⟩
    · exact ⟨next, .later hp hp0 (.here hnone), rfl⟩
    · exact ⟨middle, .later hp hp0 (.later hn hn0 (.here hnone)), rfl⟩
    · cases hm
  · rintro ⟨value, hvalue, rfl⟩
    cases hvalue with
    | here hnone => exact Or.inl ⟨hnone, rfl⟩
    | later hp hp0 hrest =>
      refine Or.inr ⟨_, hp, hp0, ?_⟩
      cases hrest with
      | here hnone => exact Or.inl ⟨hnone, rfl⟩
      | later hn hn0 hrest =>
        refine Or.inr ⟨_, hn, hn0, ?_⟩
        cases hrest with
        | here hnone => exact Or.inl ⟨hnone, rfl⟩
        | later hm hm0 hrest => cases hrest

/-- A count before the first line is refused exactly if it is a double that does not reach the first
line of the source. -/
theorem settlePrevious_eq_error_iff {first : ℕ} {count : Count} :
    settlePrevious first count = .error fault ↔
      fault = .fractionalCount ∧ ∃ x, count = .real x ∧ 1 < Float.ofNat first - x := by
  cases count with
  | whole n => simp [settlePrevious]
  | real x =>
    rw [settlePrevious]
    split
    · rename_i hinside
      simp [hinside, eq_comm]
    · rename_i hinside
      simp [hinside]

/-- A count after the last line is refused exactly if it is a double that does not reach the last
line of the source. -/
theorem settleNext_eq_error_iff {last lineCount : ℕ} {count : Count} :
    settleNext last lineCount count = .error fault ↔
      fault = .fractionalCount ∧ ∃ x, count = .real x ∧
        Float.ofNat last + x < Float.ofNat lineCount := by
  cases count with
  | whole n => simp [settleNext]
  | real x =>
    rw [settleNext]
    split
    · rename_i hinside
      simp [hinside, eq_comm]
    · rename_i hinside
      simp [hinside]

/-- Counts cannot be settled exactly if one of them would cut the source inside a line. -/
theorem settleCounts_eq_error_iff {source : Source} {highlights : List Highlight} {counts : Counts}
    {options : Excerpt.Options} :
    settleCounts source highlights counts options = .error fault ↔
      fault = .fractionalCount ∧ Fractional source highlights counts := by
  cases highlights with
  | nil => exact iff_of_false (fun h => by cases h) (fun h => by cases h.2)
  | cons first rest =>
    rw [settleCounts, bind_eq_error_iff]
    constructor
    · rintro (hprevious | ⟨previous, -, h⟩)
      · obtain ⟨rfl, x, hcount, hinside⟩ := settlePrevious_eq_error_iff.mp hprevious
        exact ⟨rfl, .previous hcount hinside⟩
      · rcases bind_eq_error_iff.mp h with hnext | ⟨next, -, h⟩
        · obtain ⟨rfl, x, hcount, hinside⟩ := settleNext_eq_error_iff.mp hnext
          exact ⟨rfl, .next hcount hinside⟩
        · cases h
    · rintro ⟨rfl, hfractional⟩
      cases hprevious : settlePrevious (Excerpt.firstLine first.start.line rest)
          counts.previous with
      | error other => exact Or.inl (by rw [(settlePrevious_eq_error_iff.mp hprevious).1])
      | ok previous =>
        refine Or.inr ⟨previous, rfl, bind_eq_error_iff.mpr (Or.inl ?_)⟩
        cases hfractional with
        | previous hcount hinside =>
          rw [settlePrevious_eq_error_iff.mpr ⟨rfl, _, hcount, hinside⟩] at hprevious
          cases hprevious
        | next hcount hinside => exact settleNext_eq_error_iff.mpr ⟨rfl, _, hcount, hinside⟩

/-- A failure as a fault of the command is a success exactly if there is none. -/
theorem orFault_eq_ok_iff {α : Type} {x : Except Failure α} {a : α} :
    orFault x = .ok a ↔ x = .ok a := by
  cases x <;> simp [orFault]

/-- A failure is the fault that it is taken as. -/
theorem orFault_eq_error_iff {α : Type} {x : Except Failure α} :
    orFault x = .error fault ↔ ∃ failure, x = .error failure ∧ .failure failure = fault := by
  cases x <;> simp [orFault]

/-- Making a code block fails with a fault that is not reported exactly if a count is no number or
one would cut the source inside a line. -/
theorem makeCode_eq_error_iff (hfault : fault.isReported = false) {source : Source}
    {spans : List Span} {previous next middle : Toml.Value} {options : Excerpt.Options} :
    makeCode source spans previous next middle options = .error fault ↔
      (∃ value, NoNumber [previous, next, middle] value ∧
        fault = .failure (.unordered .less value.kind "int")) ∨
      ∃ counts highlights, readCounts previous next middle = .ok counts ∧ source.text ≠ "" ∧
        Highlight.resolveAll source spans = .ok highlights ∧
        Fractional source highlights counts ∧ fault = .fractionalCount := by
  have hreported : ∀ failure : Failure, (Fault.failure failure).isReported = true →
      fault ≠ .failure failure := by
    rintro failure hfailure rfl
    rw [hfailure] at hfault
    cases hfault
  -- What is refused when the block itself is made is always reported.
  have hmade : ∀ options, orFault (Code.make source spans options) ≠ .error fault := by
    intro options h
    obtain ⟨failure, hmake, heq⟩ := orFault_eq_error_iff.mp h
    refine hreported failure ?_ heq.symm
    rcases Code.failure_of_make hmake with ⟨count, rfl⟩ | rfl | ⟨span, cause, rfl⟩ | rfl
    all_goals rfl
  rw [makeCode, bind_eq_error_iff, readCounts_eq_error_iff hfault]
  refine or_congr_right (exists_congr fun counts => ⟨?_, ?_⟩)
  · rintro ⟨hcounts, h⟩
    split at h
    · exact absurd (Except.error.inj h).symm (hreported .emptySource rfl)
    · rename_i htext
      rcases bind_eq_error_iff.mp h with hspans | ⟨highlights, hspans, h⟩
      · obtain ⟨failure, hresolved, heq⟩ := orFault_eq_error_iff.mp hspans
        obtain ⟨span, cause, rfl⟩ := Highlight.exists_invalidSpan_of_resolveAll hresolved
        exact absurd heq.symm (hreported _ rfl)
      · rcases bind_eq_error_iff.mp h with hsettled | ⟨settled, -, h⟩
        · obtain ⟨rfl, hfractional⟩ := settleCounts_eq_error_iff.mp hsettled
          exact ⟨highlights, hcounts, by simpa using htext, orFault_eq_ok_iff.mp hspans,
            hfractional, rfl⟩
        · exact absurd h (hmade settled)
  · rintro ⟨highlights, hcounts, htext, hspans, hfractional, rfl⟩
    have hsettled : settleCounts source highlights counts options = .error .fractionalCount :=
      settleCounts_eq_error_iff.mpr ⟨rfl, hfractional⟩
    refine ⟨hcounts, ?_⟩
    rw [if_neg (by simpa using htext)]
    exact bind_eq_error_iff.mpr (Or.inr ⟨highlights, orFault_eq_ok_iff.mpr hspans,
      bind_eq_error_iff.mpr (Or.inl hsettled)⟩)

end Counts

/-- The counts of context lines that are used for a request, in the order in which they are read. -/
def requestedCounts (request : Request) (settings : Settings) : List Toml.Value :=
  [chooseCount request.previousLines settings.previousLines,
    chooseCount request.nextLines settings.nextLines,
    chooseCount request.middleLines settings.middleLines]

/-- The settings and the text that a request is executed with. -/
structure Reads (t : FileTree) (directory : List String) (request : Request) (settings : Settings)
    (text : String) : Prop where
  settings_read : ∃ origin, Settings.nearest t directory request.path = .ok (origin, settings)
  text_read : ∃ octets, t.read directory request.path = .ok octets ∧
    Text.decodeUtf8 octets = .ok text

/-- A fault that a run on a request finds before its output is opened, and does not report. -/
inductive Misfit (t : FileTree) (directory : List String) (request : Request) : Fault → Prop
  /-- A section of the settings is no table. -/
  | notATable {kind : String}
      (hsettings : Settings.nearest t directory request.path = .error (.notATable kind)) :
      Misfit t directory request (.settings (.notATable kind))
  /-- The file system does not answer when the settings file is looked for or read. -/
  | unreachable {path : String} {cause : FileFault}
      (hsettings : Settings.nearest t directory request.path = .error (.file path cause))
      (hcause : cause ≠ .zeroCharacter) : Misfit t directory request (.settings (.file path cause))
  /-- A count of context lines is no number. -/
  | noNumber {settings : Settings} {text : String} {value : Toml.Value}
      (hreads : Reads t directory request settings text)
      (hvalue : NoNumber (requestedCounts request settings) value) :
      Misfit t directory request (.failure (.unordered .less value.kind "int"))
  /-- A count of context lines would cut the source inside a line. -/
  | fractional {settings : Settings} {text : String} {counts : Counts} {highlights : List Highlight}
      (hreads : Reads t directory request settings text)
      (hcounts : readCounts (chooseCount request.previousLines settings.previousLines)
        (chooseCount request.nextLines settings.nextLines)
        (chooseCount request.middleLines settings.middleLines) = .ok counts)
      (htext : (readText text).text ≠ "")
      (hspans : Highlight.resolveAll (readText text) request.spans = .ok highlights)
      (hfractional : Fractional (readText text) highlights counts) :
      Misfit t directory request .fractionalCount

/-- An outcome that reports a fault in a line on the error output, behind what was printed for
whoever follows the run, and neither prints nor writes anything else. -/
structure Outcome.Reports (o : Outcome) (trace : String) (fault : Fault) : Prop where
  status_eq : o.status = 1
  stdout_eq : o.stdout = ""
  stderr_eq : o.stderr = trace ++ ("error: " ++ Styled.eraseEscapes fault.message ++ "\n")
  written_eq : o.written = none
  fault_eq : o.fault = none

section Runs

variable {t : FileTree} {directory arguments : List String} {outer inner : Reading}
  {verbose : Bool} {request : Request} {trace : String} {fault : Fault}

/-- What stops a run without being reported is a misfit, and a misfit stops it. -/
theorem misfit_iff : Misfit t directory request fault ↔
    fault.isReported = false ∧ ∃ trace, Stops t directory verbose request trace fault := by
  constructor
  · intro h
    cases h with
    | notATable hsettings => exact ⟨rfl, _, .settings hsettings⟩
    | @unreachable path cause hsettings hcause =>
      refine ⟨?_, _, .settings hsettings⟩
      cases cause with
      | zeroCharacter => exact absurd rfl hcause
      | missing | directory | notDirectory | tooLong => rfl
    | noNumber hreads hvalue =>
      obtain ⟨⟨origin, hsettings⟩, octets, hoctets, hdecode⟩ := hreads
      exact ⟨rfl, _, .code hsettings hoctets hdecode
        ((makeCode_eq_error_iff rfl).mpr (Or.inl ⟨_, hvalue, rfl⟩))⟩
    | fractional hreads hcounts htext hspans hfractional =>
      obtain ⟨⟨origin, hsettings⟩, octets, hoctets, hdecode⟩ := hreads
      exact ⟨rfl, _, .code hsettings hoctets hdecode ((makeCode_eq_error_iff rfl).mpr
        (Or.inr ⟨_, _, hcounts, htext, hspans, hfractional, rfl⟩))⟩
  · rintro ⟨hfault, trace, h⟩
    cases h with
    | @settings cause hsettings =>
      cases cause with
      | notATable kind => exact .notATable hsettings
      | file path cause =>
        refine .unreachable hsettings ?_
        rintro rfl
        cases hfault
      | notFound | encoding | toml | charset => cases hfault
    | encoding => cases hfault
    | code hsettings hoctets hdecode hcode =>
      have hreads := Reads.mk ⟨_, hsettings⟩ ⟨_, hoctets, hdecode⟩
      rcases (makeCode_eq_error_iff hfault).mp hcode with
        ⟨value, hvalue, rfl⟩ | ⟨counts, highlights, hcounts, htext, hspans, hfractional, rfl⟩
      · exact .noNumber hreads hvalue
      · exact .fractional hreads hcounts htext hspans hfractional

/-- Before a run stops, nothing is printed but where the settings come from. -/
theorem Stops.exists_origin (h : Stops t directory verbose request trace fault) :
    ∃ origin, trace = settingsTrace verbose origin := by
  cases h with
  | settings => exact ⟨none, rfl⟩
  | @encoding origin => exact ⟨origin, rfl⟩
  | @code origin => exact ⟨origin, rfl⟩

/-- A fault that the command reports ends a run with status one. -/
theorem status_of_isReported (h : fault.isReported = true) : fault.status = 1 := by
  cases fault <;> first | rfl | cases h

/-- A fault that the command reports is reported in a line. -/
theorem ofFault_reports (h : fault.isReported = true) (trace : String) :
    (Outcome.ofFault trace fault).Reports trace fault := by
  have hline : writtenForm false ("error: " ++ fault.message) =
      "error: " ++ Styled.eraseEscapes fault.message ++ "\n" := by
    have herase : Styled.eraseEscapes ("error: " ++ fault.message) =
        "error: " ++ Styled.eraseEscapes fault.message := by
      rw [← String.toList_inj]
      simp only [Styled.eraseEscapes, String.toList_append, String.toList_ofList]
      exact Styled.eraseFrom_append_of_not_mem (by decide) fault.message.toList
    rw [writtenForm, if_neg Bool.false_ne_true, herase]
  rw [Outcome.ofFault, if_pos h]
  exact ⟨status_of_isReported h, rfl, by rw [hline], rfl, rfl⟩

/-- A misfit is handed on. -/
theorem Misfit.run_fault (hmisfit : Misfit t directory request fault)
    (h : Accepts t directory arguments outer inner verbose request) :
    (run t directory arguments).fault = some fault := by
  obtain ⟨hfault, trace, hstops⟩ := misfit_iff.mp hmisfit
  rw [h.run_eq, hstops.execute_eq, ofFault_fault, hfault, if_neg Bool.false_ne_true]

/-- If a diagnostic is ready and its output cannot be opened, that fault is handed on. -/
theorem Unopened.run_fault {cause : FileFault} (hcause : Unopened t directory request cause)
    (ready : Ready t directory request)
    (h : Accepts t directory arguments outer inner verbose request) :
    (run t directory arguments).fault = some (.output request.output cause) := by
  obtain ⟨trace, hrun⟩ := ready.execute_eq verbose
  rw [h.run_eq, hrun, hcause.writeOutput_eq, ofFault_fault]
  rfl

/-- A run that is accepted and hands no fault on either ends well, and then its output has received
what is written for the request, or reports a fault in a line and ends with status one. It hands a
fault on exactly if that is a misfit, or the diagnostic is ready and the output cannot be opened. -/
theorem run_reports_unless_misfit
    (h : Accepts t directory arguments outer inner verbose request) :
    ((run t directory arguments).fault = none →
      (∃ ready : Ready t directory request, (run t directory arguments).status = 0 ∧
        Receives t directory ready.written (run t directory arguments) request.output) ∨
      ∃ origin fault, (run t directory arguments).Reports (settingsTrace verbose origin) fault) ∧
    ∀ fault, (run t directory arguments).fault = some fault ↔
      Misfit t directory request fault ∨
        Nonempty (Ready t directory request) ∧
          ∃ cause, Unopened t directory request cause ∧ fault = .output request.output cause := by
  refine ⟨fun hnone => ?_, fun fault => ⟨fun hsome => ?_, ?_⟩⟩
  · rcases h.ends with
      ⟨trace, stop, hstops, hrun⟩ | ⟨ready, hstatus, -, hreceives⟩ |
        ⟨trace, cause, ⟨ready⟩, hcause, -⟩
    · cases hreported : stop.isReported with
      | true =>
        obtain ⟨origin, rfl⟩ := hstops.exists_origin
        exact Or.inr ⟨origin, stop, hrun ▸ ofFault_reports hreported _⟩
      | false =>
        rw [(misfit_iff.mpr ⟨hreported, trace, hstops⟩).run_fault h] at hnone
        cases hnone
    · exact Or.inl ⟨ready, hstatus, hreceives⟩
    · rw [hcause.run_fault ready h] at hnone
      cases hnone
  · rcases h.ends with
      ⟨trace, stop, hstops, hrun⟩ | ⟨ready, -, hnone, -⟩ | ⟨trace, cause, hready, hcause, hrun⟩
    · rw [hrun, ofFault_fault] at hsome
      cases hreported : stop.isReported with
      | true =>
        rw [hreported, if_pos rfl] at hsome
        cases hsome
      | false =>
        rw [hreported, if_neg Bool.false_ne_true, Option.some.injEq] at hsome
        subst hsome
        exact Or.inl (misfit_iff.mpr ⟨hreported, trace, hstops⟩)
    · rw [hnone] at hsome
      cases hsome
    · rw [hrun, ofFault_fault] at hsome
      exact Or.inr ⟨hready, cause, hcause, (Option.some.inj hsome).symm⟩
  · rintro (hmisfit | ⟨⟨ready⟩, cause, hcause, rfl⟩)
    · exact hmisfit.run_fault h
    · exact hcause.run_fault ready h

end Runs

/-- A directory with a source and a settings file. -/
def configured (settings : String) : FileTree :=
  .directory [("a.txt", .file (Text.octetsOf "ab")),
    ("doclog.toml", .file (Text.octetsOf settings))]

/-- A count in the settings that is no number does no harm if another is given. -/
theorem run_reports_unless_misfit_overridden :
    ∃ ready : Ready (configured "[code]\nprevious_lines = \"2\"\n") []
        { path := "a.txt", spans := [⟨0, 1, none, none, none⟩], previousLines := some 0 },
      Receives (configured "[code]\nprevious_lines = \"2\"\n") [] ready.written
        (run (configured "[code]\nprevious_lines = \"2\"\n") []
          ["render", "a.txt", "--span", "0:1", "--previous-lines", "0"]) "-" := by
  have haccepts : Accepts (configured "[code]\nprevious_lines = \"2\"\n") []
      ["render", "a.txt", "--span", "0:1", "--previous-lines", "0"]
      ⟨[], ["render", "a.txt", "--span", "0:1", "--previous-lines", "0"]⟩
      ⟨[.value .span "0:1", .value .previousLines "0"], ["a.txt"]⟩ false
      { path := "a.txt", spans := [⟨0, 1, none, none, none⟩], previousLines := some 0 } :=
    ⟨by rfl, by rfl, by rfl, by rfl, by rfl, by rfl, by rfl⟩
  rcases (run_reports_unless_misfit haccepts).1 (by decide +kernel) with
    ⟨ready, -, hreceives⟩ | ⟨origin, fault, hreports⟩
  · exact ⟨ready, hreceives⟩
  · exact absurd hreports.status_eq (by decide +kernel)

/-- A count in the settings that is no number is not reported: the run ends with status one and
without a line on the error output. -/
theorem run_hands_misfit_on :
    (run (configured "[code]\nprevious_lines = \"2\"\n") []
      ["render", "a.txt", "--span", "0:1"]).fault =
        some (.failure (.unordered .less "str" "int")) ∧
    (run (configured "[code]\nprevious_lines = \"2\"\n") []
      ["render", "a.txt", "--span", "0:1"]).status = 1 ∧
    (run (configured "[code]\nprevious_lines = \"2\"\n") []
      ["render", "a.txt", "--span", "0:1"]).stderr = "" := by
  refine ⟨?_, ?_, ?_⟩ <;> decide +kernel

end Diagnostics.Command
