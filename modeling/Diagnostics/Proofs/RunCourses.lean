import Diagnostics.Proofs.CommandRuns
import Diagnostics.Proofs.Emission
import Diagnostics.Proofs.Replacement

/-!
# The courses of a run

A command line is refused, or it asks for help or the version, or it stands for a request. A request
is executed in steps: the settings are read, then the text of the file, then the excerpt is made and
the diagnostic rendered. Each step but the last can fail, and the run then stops with a fault. The
output is not opened before all of them have succeeded, so a run that stops leaves it alone.
-/

namespace Diagnostics.Command

/-- A command line that stands for a request, with what is read from the arguments before and after
the name of the command. No help and no version is asked for. -/
structure Accepts (t : FileTree) (directory arguments : List String) (outer inner : Reading)
    (verbose : Bool) (request : Request) : Prop where
  outer_read : readArguments outerOptions .optionsFirst none arguments = .ok outer
  not_eager : firstEager? outer.events = none
  command : outer.words.head? = some "render"
  verbose_read : (lastTurn? .verbose outer.events).getD false = verbose
  inner_read : readArguments renderOptions .anyOrder none outer.words.tail = .ok inner
  not_help : lastTurn? .help inner.events = none
  request_read : Request.ofReading t directory inner = .ok request

section Accepting

variable {t : FileTree} {directory arguments : List String} {outer inner : Reading}
  {verbose : Bool} {request : Request}

/-- An accepted command line is run by executing its request. -/
theorem Accepts.run_eq (h : Accepts t directory arguments outer inner verbose request) :
    run t directory arguments = execute t directory verbose request := by
  obtain ⟨words, hwords⟩ := List.head?_eq_some_iff.mp h.command
  have hinner := h.inner_read
  rw [hwords, List.tail_cons] at hinner
  have hsome : ¬arguments.isEmpty = true := by
    intro hempty
    have houter := h.outer_read
    rw [List.isEmpty_iff.mp hempty] at houter
    obtain rfl := Except.ok.inj houter
    cases hwords
  rw [run, if_neg hsome]
  simp only [h.outer_read, h.not_eager, hwords, if_pos, h.verbose_read, render, hinner, h.not_help,
    Option.isSome_none, Bool.false_eq_true, if_false, h.request_read]

/-- The file of an accepted request has octets. -/
theorem Accepts.exists_read (h : Accepts t directory arguments outer inner verbose request) :
    ∃ octets, t.read directory request.path = .ok octets := by
  have hpath : Request.givenPath t directory inner = .ok request.path :=
    (Request.ofReading_eq_ok_iff.mp h.request_read).1 .path
  unfold Request.givenPath at hpath
  split at hpath
  · cases hpath
  · rename_i path words hwords
    cases hcheck : checkPath t directory path with
    | error fault =>
      rw [hcheck] at hpath
      cases hpath
    | ok =>
      rw [hcheck] at hpath
      obtain rfl : path = request.path := Except.ok.inj hpath
      exact exists_read_of_checkPath hcheck

/-- A command line is accepted, or it is refused with a fault, or a fixed text is printed. -/
theorem run_cases (t : FileTree) (directory arguments : List String) :
    (∃ outer inner verbose request,
      Accepts t directory arguments outer inner verbose request) ∨
    (∃ fault, run t directory arguments = .ofFault "" fault) ∨
    ∃ text ∈ [versionText, helpText, renderHelpText],
      run t directory arguments = { stdout := text } := by
  unfold run
  split
  · exact Or.inr (Or.inr ⟨helpText, by simp, rfl⟩)
  split
  · exact Or.inr (Or.inl ⟨_, rfl⟩)
  rename_i outer houter
  split
  · exact Or.inr (Or.inr ⟨versionText, by simp, rfl⟩)
  · exact Or.inr (Or.inr ⟨helpText, by simp, rfl⟩)
  · exact Or.inr (Or.inl ⟨_, rfl⟩)
  rename_i name words hnot_eager hwords
  split
  swap
  · split
    · exact Or.inr (Or.inr ⟨helpText, by simp, rfl⟩)
    · exact Or.inr (Or.inl ⟨_, rfl⟩)
  rename_i hname
  unfold render
  split
  · exact Or.inr (Or.inl ⟨_, rfl⟩)
  rename_i inner hinner
  split
  · exact Or.inr (Or.inr ⟨renderHelpText, by simp, rfl⟩)
  rename_i hnot_help
  split
  · exact Or.inr (Or.inl ⟨_, rfl⟩)
  rename_i request hrequest
  refine Or.inl ⟨outer, inner, _, request, houter, hnot_eager, ?_, rfl, ?_, ?_, hrequest⟩
  · rw [hwords, List.head?_cons, hname]
  · rw [hwords, List.tail_cons]
    exact hinner
  · simpa using hnot_help

end Accepting

/-- The code block that a request asks for. -/
def requestedCode (request : Request) (settings : Settings) (source : Source) :
    Except Fault Code :=
  makeCode source request.spans
    (chooseCount request.previousLines settings.previousLines)
    (chooseCount request.nextLines settings.nextLines)
    (chooseCount request.middleLines settings.middleLines)
    { filePath := some (Path.ofText request.path).name,
      showNewlines := settings.showNewlines.isTrue }

/-- The diagnostic around a code block that a request asks for. -/
def requestedDiagnostic (request : Request) (code : Code) : Diagnostic :=
  ⟨⟨request.level,
    .header { title := request.title, code := request.code,
              location := some (Path.ofText request.path).text } ::
      .code code :: request.notes.map (.note "note")⟩, []⟩

/-- What is printed for whoever follows a run when the settings have been read. -/
def settingsTrace (verbose : Bool) : Option String → String
  | some file => traceLine verbose "config" s!"loaded config from {file}"
  | none => ""

/-- What is known when the diagnostic of a request can be written: the settings and the file they
come from, the octets of the source and their text, the excerpt of it, and the rendering. -/
structure Ready (t : FileTree) (directory : List String) (request : Request) where
  origin : Option String
  settings : Settings
  octets : List UInt8
  text : String
  code : Code
  rendered : String
  settings_read : Settings.nearest t directory request.path = .ok (origin, settings)
  octets_read : t.read directory request.path = .ok octets
  decoded : Text.decodeUtf8 octets = .ok text
  made : requestedCode request settings (readText text) = .ok code
  renders : (requestedDiagnostic request code).renderText (chooseGlyphs request settings)
    (chooseColor request settings) = .ok rendered

/-- Why a run on a request stops before its diagnostic can be written, after what has been printed
for whoever follows it. -/
inductive Stops (t : FileTree) (directory : List String) (verbose : Bool) (request : Request) :
    String → Fault → Prop
  /-- The settings cannot be read. -/
  | settings {fault : SettingsFault}
      (hsettings : Settings.nearest t directory request.path = .error fault) :
      Stops t directory verbose request "" (.settings fault)
  /-- The source is not a text. -/
  | encoding {origin : Option String} {settings : Settings} {octets : List UInt8}
      {fault : Text.Utf8Fault}
      (hsettings : Settings.nearest t directory request.path = .ok (origin, settings))
      (hoctets : t.read directory request.path = .ok octets)
      (hdecode : Text.decodeUtf8 octets = .error fault) :
      Stops t directory verbose request (settingsTrace verbose origin) (.encoding fault)
  /-- The excerpt cannot be made. -/
  | code {origin : Option String} {settings : Settings} {octets : List UInt8} {text : String}
      {fault : Fault}
      (hsettings : Settings.nearest t directory request.path = .ok (origin, settings))
      (hoctets : t.read directory request.path = .ok octets)
      (hdecode : Text.decodeUtf8 octets = .ok text)
      (hcode : requestedCode request settings (readText text) = .error fault) :
      Stops t directory verbose request (settingsTrace verbose origin) fault

section Steps

variable {t : FileTree} {directory : List String} {verbose : Bool} {request : Request}
  {settings : Settings} {source : Source} {code : Code}

/-- A diagnostic is built around the code block. -/
theorem buildDiagnostic_eq :
    buildDiagnostic request settings (Path.ofText request.path) source =
      (requestedCode request settings source).map (requestedDiagnostic request) := by
  have hbuild : buildDiagnostic request settings (Path.ofText request.path) source =
      (requestedCode request settings source).bind
        fun code => .ok (requestedDiagnostic request code) := rfl
  rw [hbuild]
  cases requestedCode request settings source <;> rfl

/-- Notes are blocks. -/
theorem foreignsOfAll_notes (notes : List String) :
    Block.foreignsOfAll (notes.map (.note "note")) = [] := by
  induction notes with
  | nil => rfl
  | cons note notes ih => exact ih

/-- A requested diagnostic has nothing but blocks, so it can be rendered. -/
theorem exists_render_requested (request : Request) (code : Code) (g : Glyphs) (color : Bool) :
    ∃ lines, (requestedDiagnostic request code).render g color = .ok lines := by
  have hblocks : (requestedDiagnostic request code).foreigns = [] := by
    have hforeigns : (requestedDiagnostic request code).foreigns =
        Block.foreignsOfAll (request.notes.map (.note "note")) ++ [] := rfl
    rw [hforeigns, foreignsOfAll_notes, List.append_nil]
  obtain ⟨lines, -, hlines⟩ := Diagnostic.exists_layout_of_blocks hblocks g
  exact ⟨_, hlines color⟩

/-- A code block that a request asks for is one of the source and the spans of the request. -/
theorem held_of_requestedCode (h : requestedCode request settings source = .ok code) :
    code.source = source ∧ code.spans = request.spans := by
  unfold requestedCode makeCode at h
  obtain ⟨counts, -, h⟩ := exists_of_bind_eq_ok h
  split at h
  · cases h
  obtain ⟨highlights, -, h⟩ := exists_of_bind_eq_ok h
  obtain ⟨options, -, h⟩ := exists_of_bind_eq_ok h
  cases hmake : Code.make source request.spans options with
  | error failure =>
    rw [hmake] at h
    cases h
  | ok made =>
    rw [hmake] at h
    obtain rfl : made = code := Except.ok.inj h
    obtain ⟨hsource, hspans, -⟩ := Code.held_of_make hmake
    exact ⟨hsource, hspans⟩

end Steps

/-- What is written for a request that is ready. -/
def Ready.written {t : FileTree} {directory : List String} {request : Request}
    (ready : Ready t directory request) : String :=
  writtenForm (chooseColor request ready.settings) ready.rendered

section Execution

variable {t : FileTree} {directory : List String} {verbose : Bool} {request : Request}

/-- A run that stops ends with the fault, after what has been printed before. -/
theorem Stops.execute_eq {trace : String} {fault : Fault}
    (h : Stops t directory verbose request trace fault) :
    execute t directory verbose request = .ofFault trace fault := by
  unfold execute
  cases h with
  | settings hsettings => simp only [readSettings, hsettings]
  | encoding hsettings hoctets hdecode =>
    simp only [readSettings, hsettings, readSource_eq hoctets, hdecode]
    rfl
  | code hsettings hoctets hdecode hcode =>
    simp only [readSettings, hsettings, readSource_eq hoctets, hdecode, bind, Except.bind,
      buildDiagnostic_eq, hcode]
    rfl

/-- A run that is ready writes its diagnostic to the output. -/
theorem Ready.execute_eq (ready : Ready t directory request) (verbose : Bool) :
    ∃ trace, execute t directory verbose request =
      writeOutput t directory request trace ready.written := by
  obtain ⟨lines, hlines⟩ := exists_render_requested request ready.code
    (chooseGlyphs request ready.settings) (chooseColor request ready.settings)
  have hrendered := ready.renders
  rw [Diagnostic.renderText, hlines] at hrendered
  have hrendered : "\n".intercalate lines = ready.rendered := Except.ok.inj hrendered
  unfold execute
  simp only [readSettings, ready.settings_read, readSource_eq ready.octets_read, ready.decoded,
    bind, Except.bind, buildDiagnostic_eq, ready.made, Except.map, deliver, hlines, hrendered]
  exact ⟨_, rfl⟩

/-- A run on a file stops, or it is ready. -/
theorem stops_or_ready {octets : List UInt8} (hoctets : t.read directory request.path = .ok octets)
    (verbose : Bool) :
    (∃ trace fault, Stops t directory verbose request trace fault) ∨
      Nonempty (Ready t directory request) := by
  cases hsettings : Settings.nearest t directory request.path with
  | error fault => exact Or.inl ⟨_, _, .settings hsettings⟩
  | ok found =>
    cases hdecode : Text.decodeUtf8 octets with
    | error fault => exact Or.inl ⟨_, _, .encoding hsettings hoctets hdecode⟩
    | ok text =>
      cases hcode : requestedCode request found.2 (readText text) with
      | error fault => exact Or.inl ⟨_, _, .code hsettings hoctets hdecode hcode⟩
      | ok code =>
        obtain ⟨lines, hlines⟩ := exists_render_requested request code
          (chooseGlyphs request found.2) (chooseColor request found.2)
        exact Or.inr ⟨⟨found.1, found.2, octets, text, code, "\n".intercalate lines, hsettings,
          hoctets, hdecode, hcode, by rw [Diagnostic.renderText, hlines]; rfl⟩⟩

end Execution

end Diagnostics.Command
