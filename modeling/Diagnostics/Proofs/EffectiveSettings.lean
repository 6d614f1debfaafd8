import Diagnostics.Proofs.Misfits
import Diagnostics.Proofs.NearestSettings

/-!
# The settings that a run uses

What a run uses is decided in three steps: by the command line, else by the nearest settings file,
else by the defaults. This file states the three at once, for a settings file whose values are of
their types, and follows them to the excerpt, the glyphs and the colour of the run.
-/

namespace Diagnostics

namespace Settings

/-- The value that a document has under a key of a section. -/
def entry? (document : List (String × Toml.Value)) (name key : String) : Option Toml.Value :=
  match document.lookup name with
  | some (.table entries) => entries.lookup key
  | _ => none

/-- The values that a settings file can give. -/
structure Given where
  charset : Option Charset := none
  color : Option Bool := none
  showNewlines : Option Bool := none
  previousLines : Option ℤ := none
  nextLines : Option ℤ := none
  middleLines : Option ℤ := none

/-- A well-typed document and the values it gives: its sections are tables, and the entries that are
there are the name of a character set, truth values and integers. -/
structure Gives (document : List (String × Toml.Value)) (given : Given) : Prop where
  sections : ∀ name ∈ ["render", "code"], ∀ value, document.lookup name = some value →
    ∃ entries, value = .table entries
  charset : entry? document "render" "charset" = given.charset.map fun charset =>
    .string charset.name
  color : entry? document "render" "color" = given.color.map .boolean
  showNewlines : entry? document "render" "show_newlines" = given.showNewlines.map .boolean
  previousLines : entry? document "code" "previous_lines" = given.previousLines.map .integer
  nextLines : entry? document "code" "next_lines" = given.nextLines.map .integer
  middleLines : entry? document "code" "middle_lines" = given.middleLines.map .integer

/-- The values that the settings of a path give: those of the nearest settings file, or none if
there is no settings file up to the root. -/
inductive FileGives (t : FileTree) (directory : List String) (path : String) : Given → Prop
  | file {nearest : List String} {octets : List UInt8} {text : String}
      {document : List (String × Toml.Value)} {given : Given}
      (hnearest : IsNearest t (searchStart t directory path) nearest)
      (hoctets : t.octetsAt? (nearest ++ [fileName]) = some octets)
      (htext : Text.decodeUtf8 octets = .ok text) (hdocument : Toml.parse text = .ok document)
      (hgives : Gives document given) : FileGives t directory path given
  | absent (hnone : ∀ d, d <+: searchStart t directory path → t.hasFile (d ++ [fileName]) = false) :
      FileGives t directory path {}

/-- Settings with the given values, and the defaults for the others. -/
def Given.settings (given : Given) : Settings where
  charset := given.charset.getD .unicode
  color := .boolean (given.color.getD false)
  showNewlines := .boolean (given.showNewlines.getD false)
  previousLines := .integer (given.previousLines.getD 0)
  nextLines := .integer (given.nextLines.getD 0)
  middleLines := .integer (given.middleLines.getD 0)

section Documents

variable {document : List (String × Toml.Value)} {given : Given}

/-- A section that is a table, or not there, is taken with its entries. -/
theorem section?_of_table {name : String}
    (h : ∀ value, document.lookup name = some value → ∃ entries, value = .table entries) :
    ∃ found, section? document name = .ok found ∧
      ∀ key, entry? document name key = (found.getD []).lookup key := by
  unfold section? entry?
  cases hvalue : document.lookup name with
  | none => exact ⟨none, rfl, fun _ => rfl⟩
  | some value =>
    obtain ⟨entries, rfl⟩ := h value hvalue
    exact ⟨some entries, rfl, fun _ => rfl⟩

/-- Character sets have names. -/
theorem charset?_name (charset : Charset) : charset? (.string charset.name) = some charset := by
  cases charset <;> rfl

/-- A section that is not there is taken like one without entries. -/
theorem ofDocument_eq_of_sections {render code : Option (List (String × Toml.Value))}
    (hrender : section? document "render" = .ok render)
    (hcode : section? document "code" = .ok code) (path : String) :
    ofDocument path document =
      (withRender path {} (render.getD [])).map (·.withCode (code.getD [])) := by
  rw [ofDocument, hrender, hcode]
  cases render with
  | none => cases code <;> rfl
  | some entries =>
    rw [Option.getD_some]
    simp only [bind, Except.bind]
    cases withRender path {} entries with
    | error fault => rfl
    | ok settings => cases code <;> rfl

/-- A well-typed document is read as the values that it gives. -/
theorem Gives.ofDocument_eq (h : Gives document given) (path : String) :
    ofDocument path document = .ok given.settings := by
  obtain ⟨render, hrender, hrenderEntry⟩ := section?_of_table (h.sections "render" (by simp))
  obtain ⟨code, hcode, hcodeEntry⟩ := section?_of_table (h.sections "code" (by simp))
  have hsettings : withRender path {} (render.getD []) = .ok
      { charset := given.charset.getD .unicode
        color := .boolean (given.color.getD false)
        showNewlines := .boolean (given.showNewlines.getD false) } := by
    have hcharset : charset? ((given.charset.map fun charset => Toml.Value.string charset.name).getD
        (.string Charset.unicode.name)) = some (given.charset.getD .unicode) := by
      cases given.charset with
      | none => rfl
      | some charset => exact charset?_name charset
    rw [withRender, ← hrenderEntry, ← hrenderEntry, ← hrenderEntry, h.charset, h.color,
      h.showNewlines, hcharset]
    simp only [Option.getD_map]
  rw [ofDocument_eq_of_sections hrender hcode, hsettings, Except.map, withCode, ← hcodeEntry,
    ← hcodeEntry, ← hcodeEntry, h.previousLines, h.nextLines, h.middleLines]
  simp only [Option.getD_map]
  rfl

/-- The settings of a path are the values that its settings file gives. -/
theorem FileGives.exists_nearest_eq {t : FileTree} {directory : List String} {path : String}
    (hdirectory : ∀ name ∈ directory, Path.IsName name) (hsearchable : Searchable t directory path)
    (h : FileGives t directory path given) :
    ∃ origin, nearest t directory path = .ok (origin, given.settings) := by
  cases h with
  | @file nearest octets text document given hnearest hoctets htext hdocument hgives =>
    have hsettings := hsearchable.nearest_eq hdirectory hnearest hoctets
    rw [ofOctets, htext] at hsettings
    simp only [hdocument, hgives.ofDocument_eq] at hsettings
    exact ⟨_, hsettings⟩
  | absent hnone => exact ⟨none, hsearchable.nearest_eq_default hdirectory hnone⟩

end Documents

end Settings

namespace Command

open Settings (Given IsNearest Searchable FileGives searchStart fileName)

/-- The options with which a run makes an excerpt. A count of context lines is the one on the
command line, or else the one that the settings give, or else none. -/
def effectiveOptions (request : Request) (given : Given) : Excerpt.Options where
  filePath := some (Path.ofText request.path).name
  showNewlines := given.showNewlines.getD false
  previousLines := (request.previousLines <|> given.previousLines).getD 0
  nextLines := (request.nextLines <|> given.nextLines).getD 0
  middleLines := (request.middleLines <|> given.middleLines).getD 0

/-- The glyphs of a run: ASCII exactly if the command line or the settings ask for them. -/
def effectiveGlyphs (request : Request) (given : Given) : Glyphs :=
  if request.ascii = true ∨ given.charset = some .ascii then .ascii else .boxDrawing

/-- Whether a run writes in colour, as the command line says, or else the settings; by default it
does not. -/
def effectiveColor (request : Request) (given : Given) : Bool :=
  (request.color <|> given.color).getD false

/-- What a run on a file comes to that makes an excerpt with these options and renders it with these
glyphs, in colour or not. -/
inductive Renders (t : FileTree) (directory : List String) (request : Request)
    (options : Excerpt.Options) (glyphs : Glyphs) (color : Bool) : Outcome → Prop
  /-- The file is not a text. -/
  | encoding {octets : List UInt8} {fault : Text.Utf8Fault} {trace : String}
      (hoctets : t.read directory request.path = .ok octets)
      (hdecode : Text.decodeUtf8 octets = .error fault) :
      Renders t directory request options glyphs color (.ofFault trace (.encoding fault))
  /-- The excerpt cannot be made. -/
  | refused {octets : List UInt8} {text : String} {failure : Failure} {trace : String}
      (hoctets : t.read directory request.path = .ok octets)
      (hdecode : Text.decodeUtf8 octets = .ok text)
      (hcode : Code.make (readText text) request.spans options = .error failure) :
      Renders t directory request options glyphs color (.ofFault trace (.failure failure))
  /-- The diagnostic is written. -/
  | written {octets : List UInt8} {text rendered : String} {code : Code} {trace : String}
      (hoctets : t.read directory request.path = .ok octets)
      (hdecode : Text.decodeUtf8 octets = .ok text)
      (hcode : Code.make (readText text) request.spans options = .ok code)
      (hrendered : (requestedDiagnostic request code).renderText glyphs color = .ok rendered) :
      Renders t directory request options glyphs color
        (writeOutput t directory request trace (writtenForm color rendered))

section Effects

variable {t : FileTree} {directory arguments : List String} {outer inner : Reading}
  {verbose : Bool} {request : Request}

/-- A count that is given on the command line comes before the one in the settings. -/
theorem chooseCount_integer (flag count : Option ℤ) :
    chooseCount flag (.integer (count.getD 0)) = .integer ((flag <|> count).getD 0) := by
  cases flag <;> rfl

/-- A code block is requested with the effective options. -/
theorem requestedCode_given (request : Request) (given : Given) (source : Source) :
    requestedCode request given.settings source =
      orFault (Code.make source request.spans (effectiveOptions request given)) := by
  have hoptions : ({ filePath := some (Path.ofText request.path).name
                     showNewlines := given.showNewlines.getD false } :
      Excerpt.Options).Nonnegative := ⟨le_rfl, le_rfl, le_rfl⟩
  rw [effectiveOptions, ← makeCode_integer source request.spans hoptions, requestedCode,
    ← chooseCount_integer, ← chooseCount_integer, ← chooseCount_integer]
  rfl

/-- The glyphs are chosen as they are effective. -/
theorem chooseGlyphs_given (request : Request) (given : Given) :
    chooseGlyphs request given.settings = effectiveGlyphs request given := by
  rw [chooseGlyphs, effectiveGlyphs, Given.settings]
  cases request.ascii with
  | true => rfl
  | false =>
    cases given.charset with
    | none => rfl
    | some charset => cases charset <;> rfl

/-- So is the colour. -/
theorem chooseColor_given (request : Request) (given : Given) :
    chooseColor request given.settings = effectiveColor request given := by
  rw [chooseColor, effectiveColor, Given.settings]
  cases request.color <;> rfl

/-- A run on an accepted command line uses what is effective. -/
theorem Accepts.renders (h : Accepts t directory arguments outer inner verbose request)
    (hdirectory : ∀ name ∈ directory, Path.IsName name)
    (hsearchable : Searchable t directory request.path) {given : Given}
    (hgiven : FileGives t directory request.path given) :
    Renders t directory request (effectiveOptions request given) (effectiveGlyphs request given)
      (effectiveColor request given) (run t directory arguments) := by
  obtain ⟨origin, hsettings⟩ := hgiven.exists_nearest_eq hdirectory hsearchable
  obtain ⟨octets, hoctets⟩ := h.exists_read
  rw [h.run_eq]
  rcases stops_or_ready hoctets verbose with ⟨trace, fault, hstops⟩ | ⟨⟨ready⟩⟩
  · rw [hstops.execute_eq]
    cases hstops with
    | settings hfault =>
      rw [hsettings] at hfault
      cases hfault
    | encoding _ hoctets hdecode => exact .encoding hoctets hdecode
    | code hread hoctets hdecode hcode =>
      rw [hsettings, Except.ok.injEq, Prod.mk.injEq] at hread
      rw [← hread.2, requestedCode_given, orFault_eq_error_iff] at hcode
      obtain ⟨failure, hcode, rfl⟩ := hcode
      exact .refused hoctets hdecode hcode
  · obtain ⟨trace, hexecute⟩ := ready.execute_eq verbose
    have hsame : ready.settings = given.settings := by
      have hread := ready.settings_read
      rw [hsettings, Except.ok.injEq, Prod.mk.injEq] at hread
      exact hread.2.symm
    have hcode := ready.made
    have hrendered := ready.renders
    rw [hsame, requestedCode_given, orFault_eq_ok_iff] at hcode
    rw [hsame, chooseGlyphs_given, chooseColor_given] at hrendered
    rw [hexecute, Ready.written, hsame, chooseColor_given]
    exact .written ready.octets_read ready.decoded hcode hrendered

end Effects

/-- The settings of a run come from the right place. From a path that can be searched from, the
settings file of the nearest directory is found, where the search begins at what the path leads to,
or in the directory that holds it if it is a file; none is found exactly if no directory up to the
root has one. The search from any other path fails for its length or a zero character. Settings
files farther up have no effect. If the values of the nearest settings file are of their types, or
there is none, a run uses what the command line gives, else what the file gives, else the defaults.
-/
theorem run_uses_nearest_settings {directory : List String}
    (hdirectory : ∀ name ∈ directory, Path.IsName name) (t : FileTree) :
    (∀ path place, t.locate directory path = .ok place →
      (Path.ofText path).resolve directory = place) ∧
    (∀ path, Searchable t directory path →
      (∀ names, Settings.find t directory path = .ok names ↔
        ∃ nearest, IsNearest t (searchStart t directory path) nearest ∧
          names = nearest ++ [fileName]) ∧
      ((∃ start, Settings.find t directory path = .error (.notFound start)) ↔
        ∀ d, d <+: searchStart t directory path → t.hasFile (d ++ [fileName]) = false)) ∧
    (∀ path, ¬Searchable t directory path →
      ∃ asked cause, Settings.find t directory path = .error (.file asked cause) ∧
        (cause = .zeroCharacter ∨ cause = .tooLong)) ∧
    (∀ (t' : FileTree) path nearest, Searchable t directory path → Searchable t' directory path →
      searchStart t' directory path = searchStart t directory path →
      IsNearest t (searchStart t directory path) nearest →
      (∀ d, nearest <+: d → d <+: searchStart t directory path →
        t'.octetsAt? (d ++ [fileName]) = t.octetsAt? (d ++ [fileName])) →
      Settings.nearest t' directory path = Settings.nearest t directory path) ∧
    ∀ arguments outer inner verbose request given,
      Accepts t directory arguments outer inner verbose request →
      Searchable t directory request.path → FileGives t directory request.path given →
      (readInteger "--previous-lines" .previousLines inner.events = .ok request.previousLines ∧
        readInteger "--next-lines" .nextLines inner.events = .ok request.nextLines ∧
        readInteger "--middle-lines" .middleLines inner.events = .ok request.middleLines ∧
        lastTurn? .color inner.events = request.color ∧
        (lastTurn? .ascii inner.events).getD false = request.ascii) ∧
      Renders t directory request (effectiveOptions request given) (effectiveGlyphs request given)
        (effectiveColor request given) (run t directory arguments) := by
  refine ⟨fun path place => FileTree.resolve_eq_of_locate, fun path h => ⟨fun names =>
    h.find_eq_ok_iff hdirectory, h.exists_notFound_iff hdirectory⟩, fun path =>
    Settings.find_of_not_searchable hdirectory, fun t' path nearest h h' hstart hnearest hsame =>
    Settings.nearest_eq_of_same_up_to hdirectory h h' hstart hnearest hsame, ?_⟩
  intro arguments outer inner verbose request given haccepts hsearchable hgiven
  obtain ⟨hsettles, -⟩ := Request.ofReading_eq_ok_iff.mp haccepts.request_read
  exact ⟨⟨hsettles .previousLines, hsettles .nextLines, hsettles .middleLines, hsettles .color,
    hsettles .ascii⟩, haccepts.renders hdirectory hsearchable hgiven⟩

/-- Settings that give a character set and two counts. -/
def nearerText : String :=
  "[render]\ncharset='ascii'\n[code]\nprevious_lines=2\nnext_lines=1"

/-- A directory with a source and these settings, in a directory with other settings. -/
def twoSettings (farther : String) : FileTree :=
  .directory [("doclog.toml", .file (Text.octetsOf farther)),
    ("d", .directory [("b.txt", .file (Text.octetsOf "ab\ncd")),
      ("doclog.toml", .file (Text.octetsOf nearerText))])]

/-- A request on the source with a count and without colour. -/
def uncoloured : Request where
  path := "b.txt"
  spans := [⟨0, 1, none, none, none⟩]
  previousLines := some 0
  color := some false

/-- The nearer settings are found, also by a way around, and the farther ones do no harm although
they are malformed. A run takes the count and the colour that it is given, and from the settings the
character set and the other count. -/
theorem run_uses_nearest_settings_nested :
    Settings.find (twoSettings "[") ["d"] "../d/./b.txt" = .ok ["d", "doclog.toml"] ∧
    Settings.nearest (twoSettings "") ["d"] "b.txt" =
      Settings.nearest (twoSettings "[") ["d"] "b.txt" ∧
    (∃ asked cause, Settings.find (twoSettings "[") ["d"] "b\x00" = .error (.file asked cause)) ∧
    (Path.ofText "../d/./b.txt").resolve ["d"] = ["d", "b.txt"] ∧
    Renders (twoSettings "[") ["d"] uncoloured { filePath := some "b.txt", nextLines := 1 } .ascii
      false (run (twoSettings "[") ["d"]
        ["render", "b.txt", "--span", "0:1", "--previous-lines", "0", "--no-color"]) := by
  have hdirectory : ∀ name ∈ ["d"], Path.IsName name := by decide
  have hstart (farther path : String) (hplace : (Path.ofText path).resolve ["d"] = ["d", "b.txt"]) :
      searchStart (twoSettings farther) ["d"] path = ["d"] := by
    simp only [searchStart, hplace]
    rfl
  have hsearchable (farther path : String) (hzero : '\x00' ∉ path.toList)
      (hplace : (Path.ofText path).resolve ["d"] = ["d", "b.txt"]) :
      Searchable (twoSettings farther) ["d"] path := by
    refine ⟨hzero, ?_, ?_⟩
    · rw [hplace]
      exact FileTree.askable_of_forall_short (by decide) (by decide)
    · rw [hstart farther path hplace]
      decide
  have hnearest : IsNearest (twoSettings "[") ["d"] ["d"] :=
    ⟨List.prefix_rfl, rfl, fun _ hother _ => hother⟩
  have hparse : Toml.parse nearerText = .ok [("render", .table [("charset", .string "ascii")]),
      ("code", .table [("previous_lines", .integer 2), ("next_lines", .integer 1)])] := by cbv
  have hgives : Settings.Gives [("render", .table [("charset", .string "ascii")]),
      ("code", .table [("previous_lines", .integer 2), ("next_lines", .integer 1)])]
      { charset := some .ascii, previousLines := some 2, nextLines := some 1 } := by
    refine ⟨?_, rfl, rfl, rfl, rfl, rfl, rfl⟩
    refine List.forall_mem_cons.mpr ⟨?_, List.forall_mem_singleton.mpr ?_⟩
    · rintro value ⟨⟩
      exact ⟨_, rfl⟩
    · rintro value ⟨⟩
      exact ⟨_, rfl⟩
  have haccepts : Accepts (twoSettings "[") ["d"]
      ["render", "b.txt", "--span", "0:1", "--previous-lines", "0", "--no-color"]
      ⟨[], ["render", "b.txt", "--span", "0:1", "--previous-lines", "0", "--no-color"]⟩
      ⟨[.value .span "0:1", .value .previousLines "0", .turn .color false], ["b.txt"]⟩ false
      uncoloured :=
    ⟨by rfl, by rfl, by rfl, by rfl, by rfl, by rfl, by rfl⟩
  obtain ⟨hplaces, hfinds, hrefuses, hsame, hruns⟩ :=
    run_uses_nearest_settings hdirectory (twoSettings "[")
  have haround : (Path.ofText "../d/./b.txt").resolve ["d"] = ["d", "b.txt"] :=
    hplaces _ _ rfl
  have hfound : Searchable (twoSettings "[") ["d"] "b.txt" :=
    hsearchable "[" "b.txt" (by decide) rfl
  refine ⟨?_, ?_, ?_, haround, ?_⟩
  · refine ((hfinds _ (hsearchable "[" _ (by decide) haround)).1 _).mpr ⟨["d"], ?_, rfl⟩
    rw [hstart "[" _ haround]
    exact hnearest
  · refine hsame (twoSettings "") "b.txt" ["d"] hfound (hsearchable "" _ (by decide) rfl) rfl
      hnearest fun d hnearer habove => ?_
    obtain rfl : ["d"] = d := hnearer.eq_of_length_le habove.length_le
    rfl
  · obtain ⟨asked, cause, hfind, -⟩ := hrefuses "b\x00" fun h => h.no_zero (by decide)
    exact ⟨asked, cause, hfind⟩
  · exact (hruns _ _ _ _ _ _ haccepts hfound
      (.file hnearest rfl (Text.decodeUtf8_octetsOf _) hparse hgives)).2

/-- A name of more octets than a name may have. -/
def longName : String :=
  String.ofList (List.replicate 256 'a')

/-- From a path with a name that is too long, no settings file is found although the directory that
the name would be in has one: the search fails before it comes to it. -/
theorem find_refuses_long_name :
    IsNearest (.directory [("doclog.toml", .file [])])
      (searchStart (.directory [("doclog.toml", .file [])]) [] longName) [] ∧
    Settings.find (.directory [("doclog.toml", .file [])]) [] longName =
      .error (.file (Path.absoluteText [longName]) .tooLong) := by
  have hchars : longName.toList = List.replicate 256 'a' := String.toList_ofList
  have hne (other : String) (hlength : other.toList.length ≠ 256) : longName ≠ other := by
    rintro rfl
    exact hlength (by rw [hchars, List.length_replicate])
  have hname : Path.IsName longName := by
    refine ⟨hne _ (by decide), hne _ (by decide), hne _ (by decide), ?_, ?_⟩ <;>
      exact fun hmem => absurd (List.eq_of_mem_replicate (hchars ▸ hmem)) (by decide)
  have hplace : (Path.ofText longName).resolve [] = [longName] := Path.resolve_of_isName hname
  have hnone : FileTree.find? (.directory [("doclog.toml", .file [])]) [longName] = none := by
    have hdiffers : (longName == "doclog.toml") = false := by
      simpa using hne "doclog.toml" (by decide)
    rw [FileTree.find?, List.lookup_cons, hdiffers]
    rfl
  constructor
  · have hfile : FileTree.hasFile (.directory [("doclog.toml", .file [])]) [longName] = false := by
      rw [FileTree.hasFile, hnone]
    have hstart : searchStart (.directory [("doclog.toml", .file [])]) [] longName =
        [longName] := by
      simp only [searchStart]
      rw [hplace, hfile, if_neg Bool.false_ne_true]
    rw [hstart]
    refine ⟨List.nil_prefix, rfl, fun other hother hfound => ?_⟩
    -- The only other directory would have the long name.
    rcases List.prefix_cons_iff.mp hother with rfl | ⟨rest, rfl, -⟩
    · exact List.prefix_rfl
    · have hsplit : longName :: rest ++ [fileName] = [longName] ++ (rest ++ [fileName]) := rfl
      rw [hsplit, FileTree.hasFile, FileTree.find?_append, hnone] at hfound
      cases hfound
  · have hasked : ¬FileTree.Askable (.directory [("doclog.toml", .file [])]) [longName] := by
      intro h
      have hshort := h.names_short [] longName [] rfl rfl
      have hlong : FileTree.isLongName longName = true := by decide +kernel
      rw [hlong] at hshort
      cases hshort
    rw [← hplace] at hasked ⊢
    exact Settings.find_of_not_askable (List.forall_mem_nil _) hname.no_zero hasked

end Command

end Diagnostics
