import Diagnostics.Proofs.RunCourses

/-!
# What a run changes

A run that does not end well changes no file and prints nothing on the standard output. A run on a
request that ends well gives its one output what was rendered, from a source that was read before
anything was written, and leaves everything else as it was. The rendering goes out as it is unless
it has escape sequences and no colour is wanted.
-/

namespace Diagnostics.Command

/-- The file tree after a run. -/
def Outcome.treeAfter (o : Outcome) (t : FileTree) : FileTree :=
  match o.written with
  | none => t
  | some (names, text) => t.put names (.file (Text.octetsOf text))

/-- An outcome in which a text goes to one output and nowhere else. For a dash this is the standard
output. For a path it is the file that the path leads to, which is made or replaced; all other files
and all directories stay as they are. -/
inductive Receives (t : FileTree) (directory : List String) (text : String) (o : Outcome) :
    String → Prop
  | standard (hprinted : o.stdout = text) (hkept : o.treeAfter t = t) :
      Receives t directory text o "-"
  | file {path : String} {names : List String} (hpath : path ≠ "-")
      (htarget : t.target directory path = .ok names) (hprinted : o.stdout = "")
      (hfiles : ∀ other, (o.treeAfter t).octetsAt? other =
        if other = names then some (Text.octetsOf text) else t.octetsAt? other)
      (hdirectories : ∀ other, (o.treeAfter t).hasDirectory other = t.hasDirectory other) :
      Receives t directory text o path

/-- The output of a request cannot be opened, for the given reason. -/
structure Unopened (t : FileTree) (directory : List String) (request : Request)
    (cause : FileFault) : Prop where
  path_ne : request.output ≠ "-"
  target_eq : t.target directory request.output = .error cause

section Writing

variable {t : FileTree} {directory arguments : List String} {request : Request}

/-- Writing to an output that cannot be opened ends with a fault. -/
theorem Unopened.writeOutput_eq {cause : FileFault} (h : Unopened t directory request cause)
    (trace text : String) : writeOutput t directory request trace text =
      .ofFault trace (.output request.output cause) := by
  rw [writeOutput, if_neg (by simpa using h.path_ne), h.target_eq]

/-- Writing ends well and gives the output the text, unless the output cannot be opened. -/
theorem writeOutput_cases (t : FileTree) (directory : List String) (request : Request)
    (trace text : String) :
    ((writeOutput t directory request trace text).status = 0 ∧
      (writeOutput t directory request trace text).fault = none ∧
      Receives t directory text (writeOutput t directory request trace text) request.output) ∨
    ∃ cause, Unopened t directory request cause := by
  unfold writeOutput
  by_cases hdash : request.output = "-"
  · rw [if_pos (by simpa using hdash), hdash]
    exact Or.inl ⟨rfl, rfl, .standard rfl rfl⟩
  · rw [if_neg (by simpa using hdash)]
    cases htarget : t.target directory request.output with
    | error cause => exact Or.inr ⟨cause, hdash, htarget⟩
    | ok names =>
      have hput := FileTree.put_file (FileTree.holds_of_target htarget) (Text.octetsOf text)
      exact Or.inl ⟨rfl, rfl, .file hdash htarget rfl (fun other => (hput other).1)
        fun other => (hput other).2⟩

/-- A run that ends with a fault changes no file. -/
theorem treeAfter_ofFault (t : FileTree) (trace : String) (fault : Fault) :
    (Outcome.ofFault trace fault).treeAfter t = t := by
  obtain ⟨-, -, hwritten⟩ := ofFault_silent trace fault
  rw [Outcome.treeAfter, hwritten]

/-- An accepted run stops with a fault, or gives the output of its request what is written, or finds
that the output cannot be opened. -/
theorem Accepts.ends {outer inner : Reading} {verbose : Bool}
    (h : Accepts t directory arguments outer inner verbose request) :
    (∃ trace fault, Stops t directory verbose request trace fault ∧
      run t directory arguments = .ofFault trace fault) ∨
    (∃ ready : Ready t directory request, (run t directory arguments).status = 0 ∧
      (run t directory arguments).fault = none ∧
      Receives t directory ready.written (run t directory arguments) request.output) ∨
    ∃ trace cause, Nonempty (Ready t directory request) ∧ Unopened t directory request cause ∧
      run t directory arguments = .ofFault trace (.output request.output cause) := by
  obtain ⟨octets, hoctets⟩ := h.exists_read
  rw [h.run_eq]
  rcases stops_or_ready hoctets verbose with ⟨trace, fault, hstops⟩ | ⟨⟨ready⟩⟩
  · exact Or.inl ⟨trace, fault, hstops, hstops.execute_eq⟩
  · obtain ⟨trace, hrun⟩ := ready.execute_eq verbose
    rw [hrun]
    rcases writeOutput_cases t directory request trace ready.written with
      hwrites | ⟨cause, hunopened⟩
    · exact Or.inr (Or.inl ⟨ready, hwrites⟩)
    · exact Or.inr (Or.inr ⟨trace, cause, ⟨ready⟩, hunopened, hunopened.writeOutput_eq _ _⟩)

end Writing

/-- Only the output of a request changes, and only if the run ends well. Otherwise nothing is
printed on the standard output and all files stay as they are. A run on a request that ends well has
read the source and made an excerpt of what it read, with the spans of the request; the output
receives what is written for it, and nothing else changes. That is the rendering and a line feed,
exactly if colour is wanted or the rendering has no escape sequence. All other runs that end well
print how the program is used, or its version. -/
theorem run_changes_output_only (t : FileTree) (directory arguments : List String) :
    ((run t directory arguments).status ≠ 0 →
      (run t directory arguments).stdout = "" ∧ (run t directory arguments).treeAfter t = t) ∧
    (∀ outer inner verbose request,
      Accepts t directory arguments outer inner verbose request →
      (run t directory arguments).status = 0 →
      ∃ ready : Ready t directory request,
        ready.code.source = readText ready.text ∧ ready.code.spans = request.spans ∧
        ('\r' ∉ ready.text.toList → readText ready.text = ⟨ready.text⟩) ∧
        Receives t directory ready.written (run t directory arguments) request.output ∧
        (ready.written = ready.rendered ++ "\n" ↔
          chooseColor request ready.settings = true ∨
            ¬Styled.HasEscape ready.rendered.toList)) ∧
    ((run t directory arguments).status = 0 →
      (¬∃ outer inner verbose request,
        Accepts t directory arguments outer inner verbose request) →
      (run t directory arguments).stdout ∈ [versionText, helpText, renderHelpText] ∧
        (run t directory arguments).treeAfter t = t) := by
  -- A fault has a status of its own, so each way to end well is one without a fault.
  have hfault : ∀ trace fault, run t directory arguments = .ofFault trace fault →
      (run t directory arguments).status ≠ 0 ∧ (run t directory arguments).stdout = "" ∧
        (run t directory arguments).treeAfter t = t := by
    intro trace fault hrun
    obtain ⟨hstatus, hstdout, -⟩ := ofFault_silent trace fault
    rw [hrun, hstatus]
    exact ⟨fault.status_ne_zero, hstdout, treeAfter_ofFault t trace fault⟩
  refine ⟨fun hstatus => ?_, fun outer inner verbose request haccepts hstatus => ?_,
    fun hstatus hnot => ?_⟩
  · rcases run_cases t directory arguments with
      ⟨outer, inner, verbose, request, haccepts⟩ | ⟨fault, hrun⟩ | ⟨text, -, hrun⟩
    · rcases haccepts.ends with
        ⟨trace, fault, -, hrun⟩ | ⟨ready, hzero, -⟩ | ⟨trace, cause, -, -, hrun⟩
      · exact (hfault _ _ hrun).2
      · exact absurd hzero hstatus
      · exact (hfault _ _ hrun).2
    · exact (hfault _ _ hrun).2
    · rw [hrun] at hstatus
      exact absurd rfl hstatus
  · rcases haccepts.ends with
      ⟨trace, fault, -, hrun⟩ | ⟨ready, -, -, hreceives⟩ | ⟨trace, cause, -, -, hrun⟩
    · exact absurd hstatus (hfault _ _ hrun).1
    · obtain ⟨hsource, hspans⟩ := held_of_requestedCode ready.made
      exact ⟨ready, hsource, hspans, fun hreturn => (readText_eq_of_not_mem hreturn).1, hreceives,
        writtenForm_eq_iff⟩
    · exact absurd hstatus (hfault _ _ hrun).1
  · rcases run_cases t directory arguments with haccepts | ⟨fault, hrun⟩ | ⟨text, htext, hrun⟩
    · exact absurd haccepts hnot
    · exact absurd hstatus (hfault _ _ hrun).1
    · rw [hrun]
      exact ⟨htext, rfl⟩

/-- A request to render the first character of a file, into the file itself. -/
def overwriting : Request where
  path := "a.txt"
  spans := [⟨0, 1, none, none, none⟩]
  output := "a.txt"

/-- A file can be the output of its own rendering, since it is read before. If the span does not fit
the file, the file is left as it is. -/
theorem run_changes_output_only_itself :
    (∃ ready : Ready (folder "ab") [] overwriting, ready.code.source = readText ready.text ∧
      Receives (folder "ab") [] ready.written
        (run (folder "ab") [] ["render", "a.txt", "--span", "0:1", "-o", "a.txt"]) "a.txt") ∧
    (run (folder "ab") [] ["render", "a.txt", "--span", "0:9", "-o", "a.txt"]).treeAfter
      (folder "ab") = folder "ab" := by
  have haccepts : Accepts (folder "ab") []
      ["render", "a.txt", "--span", "0:1", "-o", "a.txt"]
      ⟨[], ["render", "a.txt", "--span", "0:1", "-o", "a.txt"]⟩
      ⟨[.value .span "0:1", .value .output "a.txt"], ["a.txt"]⟩ false overwriting :=
    ⟨by rfl, by rfl, by rfl, by rfl, by rfl, by rfl, by rfl⟩
  obtain ⟨-, hends, -⟩ := run_changes_output_only (folder "ab") []
    ["render", "a.txt", "--span", "0:1", "-o", "a.txt"]
  obtain ⟨hfails, -⟩ := run_changes_output_only (folder "ab") []
    ["render", "a.txt", "--span", "0:9", "-o", "a.txt"]
  obtain ⟨ready, hsource, -, -, hreceives, -⟩ := hends _ _ _ _ haccepts (by decide +kernel)
  exact ⟨⟨ready, hsource, hreceives⟩, (hfails (by decide +kernel)).2⟩

/-- The excerpt of a source that begins with an escape sequence, under the name of its file. -/
def tintedFile : Code :=
  { Diagnostic.tinted with
    options := { filePath := some "a.txt" }
    nonnegative := ⟨by decide, by decide, by decide⟩
    displayed_ne := by decide }

/-- For a file that begins with an escape sequence, a run ends well but does not print the
rendering: the row of the source loses the sequence. -/
theorem run_drops_escapes_of_source :
    requestedCode { path := "a.txt", spans := [⟨4, 5, none, none, none⟩] } {}
      (readText "\x1b[0mab") = .ok tintedFile ∧
    (requestedDiagnostic { path := "a.txt", spans := [⟨4, 5, none, none, none⟩] }
      tintedFile).renderText .boxDrawing false =
        .ok "error\n ↪ in a.txt\n× ╭─[a.txt]\n1 │ \x1b[0mab\n  │     ^\n  ╰─" ∧
    (run (folder "\x1b[0mab") [] ["render", "a.txt", "--span", "4:5"]).status = 0 ∧
    (run (folder "\x1b[0mab") [] ["render", "a.txt", "--span", "4:5"]).stdout =
        "error\n ↪ in a.txt\n× ╭─[a.txt]\n1 │ ab\n  │     ^\n  ╰─\n" := by
  refine ⟨?_, by rfl, by decide +kernel, by decide +kernel⟩
  have hmakes : requestedCode { path := "a.txt", spans := tintedFile.spans } {} tintedFile.source =
      orFault (Code.make tintedFile.source tintedFile.spans tintedFile.options) :=
    makeCode_integer _ _ tintedFile.nonnegative 0 0 0
  have hread : readText "\x1b[0mab" = tintedFile.source :=
    (readText_eq_of_not_mem (by decide)).1
  have hmade := Code.make_of_resolveAll_ok tintedFile.nonnegative tintedFile.text_ne
    tintedFile.resolved
  rw [dif_neg tintedFile.displayed_ne] at hmade
  rw [hread]
  exact hmakes.trans (congrArg orFault hmade)

end Diagnostics.Command
