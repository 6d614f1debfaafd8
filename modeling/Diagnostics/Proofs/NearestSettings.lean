import Diagnostics.Proofs.Lookups
import Diagnostics.Proofs.Replacement
import Diagnostics.Settings

/-!
# The nearest settings file

The search for settings goes from a directory to those above it and takes the first settings file
that it finds. Described without searching, this is the file in the nearest such directory. What is
read depends on that file alone, and it is found wherever the system answers what the path and the
first place of a settings file lead to.
-/

namespace Diagnostics.Settings

/-- Of the directories from `start` up to the root, the nearest that has a settings file. -/
structure IsNearest (t : FileTree) (start nearest : List String) : Prop where
  above : nearest <+: start
  has_file : t.hasFile (nearest ++ [fileName]) = true
  no_nearer : ∀ other, other <+: start → t.hasFile (other ++ [fileName]) = true →
    other <+: nearest

/-- The directory in which the search for settings begins: the place that a path leads to, or the
directory that holds it if it is a file. -/
def searchStart (t : FileTree) (directory : List String) (path : String) : List String :=
  let place := (Path.ofText path).resolve directory
  if t.hasFile place then place.dropLast else place

/-- The system answers what a path leads to, and whether there is a settings file in the directory
where the search begins. -/
structure Searchable (t : FileTree) (directory : List String) (path : String) : Prop where
  no_zero : '\x00' ∉ path.toList
  askable : t.Askable ((Path.ofText path).resolve directory)
  file_short :
    FileTree.isLongPath (Path.absoluteText (searchStart t directory path ++ [fileName])) = false

section Ancestry

variable {start directory : List String}

/-- The directories from one up to the root are those whose names begin its names. -/
theorem mem_ancestry_iff : directory ∈ ancestry start ↔ directory <+: start := by
  rw [ancestry, List.mem_map]
  constructor
  · rintro ⟨up, -, rfl⟩
    exact List.take_prefix _ _
  · intro h
    have hlength := h.length_le
    refine ⟨start.length - directory.length, List.mem_range.mpr (by omega), ?_⟩
    rw [Nat.sub_sub_self hlength, ← List.prefix_iff_eq_take.mp h]

/-- They are listed from the nearest to the root. -/
theorem pairwise_ancestry (start : List String) :
    (ancestry start).Pairwise fun nearer farther => farther <+: nearer := by
  rw [ancestry, List.pairwise_map]
  exact List.pairwise_lt_range.imp fun hup => List.take_prefix_take_left (by omega)

variable {t : FileTree}

/-- There is no first directory with a settings file exactly if no directory up to the root has
one. -/
theorem find?_ancestry_eq_none_iff :
    (ancestry start).find? (fun d => t.hasFile (d ++ [fileName])) = none ↔
      ∀ d, d <+: start → t.hasFile (d ++ [fileName]) = false := by
  rw [List.find?_eq_none]
  simp only [mem_ancestry_iff, Bool.not_eq_true]

/-- The first directory with a settings file is the nearest. -/
theorem isNearest_of_find?_ancestry
    (h : (ancestry start).find? (fun d => t.hasFile (d ++ [fileName])) = some directory) :
    IsNearest t start directory := by
  obtain ⟨hfile, nearer, farther, hlist, hnearer⟩ := List.find?_eq_some_iff_append.mp h
  refine ⟨mem_ancestry_iff.mp (List.mem_of_find?_eq_some h), hfile, fun other hother hfound => ?_⟩
  have hmem := mem_ancestry_iff.mpr hother
  rw [hlist, List.mem_append, List.mem_cons] at hmem
  rcases hmem with hmem | rfl | hmem
  · have hnot := hnearer other hmem
    rw [hfound] at hnot
    cases hnot
  · exact List.prefix_rfl
  · have hpairs := pairwise_ancestry start
    rw [hlist, List.pairwise_append, List.pairwise_cons] at hpairs
    exact hpairs.2.1.1 other hmem

/-- There is only one nearest directory. -/
theorem IsNearest.eq {other : List String} (h : IsNearest t start directory)
    (h' : IsNearest t start other) : directory = other :=
  (h'.no_nearer directory h.above h.has_file).eq_of_length_le
    (h.no_nearer other h'.above h'.has_file).length_le

/-- So the nearest directory is the first that has a settings file. -/
theorem find?_ancestry_eq_some_iff :
    (ancestry start).find? (fun d => t.hasFile (d ++ [fileName])) = some directory ↔
      IsNearest t start directory := by
  refine ⟨isNearest_of_find?_ancestry, fun h => ?_⟩
  cases hfound : (ancestry start).find? (fun d => t.hasFile (d ++ [fileName])) with
  | none =>
    have hnone := find?_ancestry_eq_none_iff.mp hfound directory h.above
    rw [h.has_file] at hnone
    cases hnone
  | some other => rw [(isNearest_of_find?_ancestry hfound).eq h]

end Ancestry

section Searching

variable {t : FileTree} {directory : List String} {path : String}

/-- The directory where a search begins is the place of the path or above it. -/
theorem searchStart_above (t : FileTree) (directory : List String) (path : String) :
    searchStart t directory path <+: (Path.ofText path).resolve directory := by
  simp only [searchStart]
  split
  · exact List.dropLast_prefix _
  · exact List.prefix_rfl

/-- Where the first place of a settings file can be asked about, so can the others. -/
theorem Searchable.askable_fileName (h : Searchable t directory path) {above : List String}
    (habove : above <+: searchStart t directory path) :
    t.Askable (above ++ [fileName]) := by
  constructor
  · have hlength := Path.octetCount_absoluteText_le (habove.sublist.append_right [fileName])
    exact FileTree.isLongPath_eq_false_iff.mpr
      (hlength.trans (FileTree.isLongPath_eq_false_iff.mp h.file_short))
  · intro front name back heq hdirectory
    -- The last name is that of a settings file, and the others are names of the place.
    rcases List.eq_nil_or_concat back with rfl | ⟨others, last, rfl⟩
    · obtain ⟨-, hname⟩ := List.append_inj' heq rfl
      rw [← List.head_eq_of_cons_eq hname]
      decide
    · rw [List.concat_eq_append, ← List.cons_append, ← List.append_assoc] at heq
      obtain ⟨rest, hrest⟩ := habove.trans (searchStart_above t directory path)
      rw [(List.append_inj' heq rfl).1, List.append_assoc, List.cons_append] at hrest
      exact h.askable.names_short front name (others ++ rest) hrest.symm hdirectory

/-- A search that can ask about each place of a settings file finds the first. -/
theorem search_eq {directories : List (List String)}
    (h : ∀ d ∈ directories, t.isFileAt (d ++ [fileName]) = .ok (t.hasFile (d ++ [fileName]))) :
    search t directories = .ok (directories.find? fun d => t.hasFile (d ++ [fileName])) := by
  induction directories with
  | nil => rfl
  | cons d rest ih =>
    obtain ⟨hfirst, hrest⟩ := List.forall_mem_cons.mp h
    rw [search, leadsToFile, hfirst, List.find?_cons]
    cases hfile : t.hasFile (d ++ [fileName]) with
    | true => rfl
    | false => exact ih hrest

/-- A search that cannot ask about the first place fails there. -/
theorem search_ancestry_error {start : List String} {fault : FileFault}
    (h : t.isFileAt (start ++ [fileName]) = .error fault) :
    search t (ancestry start) =
      .error (.file (Path.absoluteText (start ++ [fileName])) fault) := by
  have hfirst : ∃ rest, ancestry start = start :: rest := by
    rw [ancestry, List.range_succ_eq_map, List.map_cons, Nat.sub_zero, List.take_length]
    exact ⟨_, rfl⟩
  obtain ⟨rest, hrest⟩ := hfirst
  rw [hrest, search, leadsToFile, h]

/-- The places of settings files have names of entries. -/
theorem isName_of_mem_append_fileName (hdirectory : ∀ name ∈ directory, Path.IsName name)
    (hzero : '\x00' ∉ path.toList) {above : List String}
    (habove : above <+: searchStart t directory path) :
    ∀ name ∈ above ++ [fileName], Path.IsName name := by
  have hfileName : Path.IsName fileName := by decide
  intro name hname
  rcases List.mem_append.mp hname with hname | hname
  · exact Path.isName_of_mem_resolve hdirectory hzero name
      ((habove.trans (searchStart_above t directory path)).subset hname)
  · rwa [List.mem_singleton.mp hname]

/-- If the system answers what a path leads to, the search begins there or in the directory that
holds it. -/
theorem find_eq_bind (hdirectory : ∀ name ∈ directory, Path.IsName name)
    (hzero : '\x00' ∉ path.toList)
    (hplace : t.Askable ((Path.ofText path).resolve directory)) :
    find t directory path = (search t (ancestry (searchStart t directory path))).bind fun found =>
      match found with
      | some found => .ok (found ++ [fileName])
      | none => .error (.notFound (Path.absoluteText ((Path.ofText path).resolve directory))) := by
  have hcontains : ¬path.toList.contains '\x00' = true := by simpa using hzero
  have hanswer : leadsToFile t ((Path.ofText path).resolve directory) =
      .ok (t.hasFile ((Path.ofText path).resolve directory)) := by
    rw [leadsToFile, FileTree.isFileAt_of_askable
      (Path.isName_of_mem_resolve hdirectory hzero) hplace]
  simp only [find, if_neg hcontains, hanswer, searchStart, bind, Except.bind]
  generalize search t _ = outcome
  cases outcome with
  | error fault => rfl
  | ok found => cases found <;> rfl

/-- From a path that can be searched from, the first directory with a settings file is found. -/
theorem Searchable.find_eq (hdirectory : ∀ name ∈ directory, Path.IsName name)
    (h : Searchable t directory path) :
    find t directory path =
      match (ancestry (searchStart t directory path)).find?
        (fun d => t.hasFile (d ++ [fileName])) with
      | some found => .ok (found ++ [fileName])
      | none => .error (.notFound (Path.absoluteText ((Path.ofText path).resolve directory))) := by
  have hsearch : search t (ancestry (searchStart t directory path)) =
      .ok ((ancestry (searchStart t directory path)).find?
        fun d => t.hasFile (d ++ [fileName])) := by
    refine search_eq fun d hd => ?_
    have habove := mem_ancestry_iff.mp hd
    exact FileTree.isFileAt_of_askable
      (isName_of_mem_append_fileName hdirectory h.no_zero habove) (h.askable_fileName habove)
  rw [find_eq_bind hdirectory h.no_zero h.askable, hsearch]
  generalize (ancestry _).find? _ = found
  cases found <;> rfl

/-- A path that can be searched from has the settings file of the nearest directory. -/
theorem Searchable.find_eq_ok_iff (hdirectory : ∀ name ∈ directory, Path.IsName name)
    (h : Searchable t directory path) {names : List String} :
    find t directory path = .ok names ↔
      ∃ nearest, IsNearest t (searchStart t directory path) nearest ∧
        names = nearest ++ [fileName] := by
  rw [h.find_eq hdirectory]
  simp only [← find?_ancestry_eq_some_iff]
  split
  · rename_i found hfound
    simp [hfound, eq_comm]
  · rename_i hnone
    simp [hnone]

/-- It has none exactly if no directory up to the root has a settings file. -/
theorem Searchable.exists_notFound_iff (hdirectory : ∀ name ∈ directory, Path.IsName name)
    (h : Searchable t directory path) :
    (∃ start, find t directory path = .error (.notFound start)) ↔
      ∀ d, d <+: searchStart t directory path →
        t.hasFile (d ++ [fileName]) = false := by
  rw [h.find_eq hdirectory, ← find?_ancestry_eq_none_iff]
  split
  · rename_i found hfound
    simp [hfound]
  · rename_i hnone
    simp [hnone]

/-- If the system does not answer what a path leads to, the search fails before it begins. -/
theorem find_of_not_askable (hdirectory : ∀ name ∈ directory, Path.IsName name)
    (hzero : '\x00' ∉ path.toList) (h : ¬t.Askable ((Path.ofText path).resolve directory)) :
    find t directory path =
      .error (.file (Path.absoluteText ((Path.ofText path).resolve directory)) .tooLong) := by
  have hcontains : ¬path.toList.contains '\x00' = true := by simpa using hzero
  have hasked := FileTree.isFileAt_of_not_askable (Path.isName_of_mem_resolve hdirectory hzero) h
  rw [find, if_neg hcontains]
  simp only [leadsToFile, hasked]
  rfl

/-- The search from any other path fails, since the path holds a zero character or one that is asked
about is too long. -/
theorem find_of_not_searchable (hdirectory : ∀ name ∈ directory, Path.IsName name)
    (h : ¬Searchable t directory path) :
    ∃ asked cause, find t directory path = .error (.file asked cause) ∧
      (cause = .zeroCharacter ∨ cause = .tooLong) := by
  by_cases hzero : '\x00' ∈ path.toList
  · have hcontains : path.toList.contains '\x00' = true := by simpa using hzero
    refine ⟨path, .zeroCharacter, ?_, .inl rfl⟩
    rw [find, if_pos hcontains]
    rfl
  by_cases hplace : t.Askable ((Path.ofText path).resolve directory)
  · have hfirst : ¬t.Askable (searchStart t directory path ++ [fileName]) :=
      fun hshort => h ⟨hzero, hplace, hshort.path_short⟩
    have hasked := FileTree.isFileAt_of_not_askable
      (isName_of_mem_append_fileName hdirectory hzero List.prefix_rfl) hfirst
    have hfind := find_eq_bind hdirectory hzero hplace
    rw [search_ancestry_error hasked] at hfind
    exact ⟨_, .tooLong, hfind, .inr rfl⟩
  · exact ⟨_, .tooLong, find_of_not_askable hdirectory hzero hplace, .inr rfl⟩

end Searching

section Loading

variable {t t' : FileTree} {directory nearestDirectory : List String} {path : String}

/-- There is a file where there are octets. -/
theorem hasFile_eq_isSome (t : FileTree) (names : List String) :
    t.hasFile names = (t.octetsAt? names).isSome := by
  rw [FileTree.hasFile, FileTree.octetsAt?]
  cases t.find? names with
  | none => rfl
  | some found => cases found <;> rfl

/-- The settings that belong to a path are read from the octets of the nearest settings file and
from nothing else. -/
theorem Searchable.nearest_eq (hdirectory : ∀ name ∈ directory, Path.IsName name)
    (h : Searchable t directory path)
    (hnearest : IsNearest t (searchStart t directory path) nearestDirectory)
    {octets : List UInt8} (hoctets : t.octetsAt? (nearestDirectory ++ [fileName]) = some octets) :
    nearest t directory path =
      (ofOctets (Path.absoluteText (nearestDirectory ++ [fileName])) octets).map
        (some (Path.absoluteText (nearestDirectory ++ [fileName])), ·) := by
  have hfind : find t directory path = .ok (nearestDirectory ++ [fileName]) :=
    (h.find_eq_ok_iff hdirectory).mpr ⟨nearestDirectory, hnearest, rfl⟩
  have hfound : t.find? (nearestDirectory ++ [fileName]) = some (.file octets) := by
    rw [FileTree.octetsAt?] at hoctets
    split at hoctets
    · rename_i hfound
      rw [hfound, Option.some.inj hoctets]
    · cases hoctets
  have hread := FileTree.read_absoluteText
    (isName_of_mem_append_fileName hdirectory h.no_zero hnearest.above) (by simp)
    (h.askable_fileName hnearest.above) hfound directory
  rw [nearest, hfind]
  simp only [load, hread]
  cases ofOctets (Path.absoluteText (nearestDirectory ++ [fileName])) octets <;> rfl

/-- Without a settings file up to the root, they are the defaults. -/
theorem Searchable.nearest_eq_default (hdirectory : ∀ name ∈ directory, Path.IsName name)
    (h : Searchable t directory path)
    (hnone : ∀ d, d <+: searchStart t directory path → t.hasFile (d ++ [fileName]) = false) :
    nearest t directory path = .ok (none, {}) := by
  obtain ⟨start, hfind⟩ := (h.exists_notFound_iff hdirectory).mpr hnone
  rw [nearest, hfind]

/-- Settings files farther up have no effect: two trees give a path the same settings if they have
the same settings files from where the search begins up to the nearest directory with one. -/
theorem nearest_eq_of_same_up_to (hdirectory : ∀ name ∈ directory, Path.IsName name)
    (h : Searchable t directory path) (h' : Searchable t' directory path)
    (hstart : searchStart t' directory path = searchStart t directory path)
    (hnearest : IsNearest t (searchStart t directory path) nearestDirectory)
    (hsame : ∀ d, nearestDirectory <+: d → d <+: searchStart t directory path →
      t'.octetsAt? (d ++ [fileName]) = t.octetsAt? (d ++ [fileName])) :
    nearest t' directory path = nearest t directory path := by
  have hfile := hnearest.has_file
  rw [hasFile_eq_isSome, Option.isSome_iff_exists] at hfile
  obtain ⟨octets, hoctets⟩ := hfile
  have hoctets' := hsame nearestDirectory List.prefix_rfl hnearest.above
  have hnearest' : IsNearest t' (searchStart t' directory path) nearestDirectory := by
    rw [hstart]
    refine ⟨hnearest.above, ?_, fun other hother hfound => ?_⟩
    · rw [hasFile_eq_isSome, hoctets', ← hasFile_eq_isSome, hnearest.has_file]
    · rcases List.prefix_or_prefix_of_prefix hother hnearest.above with hfarther | hnearer
      · exact hfarther
      · rw [hasFile_eq_isSome, hsame other hnearer hother, ← hasFile_eq_isSome] at hfound
        exact hnearest.no_nearer other hother hfound
  rw [h.nearest_eq hdirectory hnearest hoctets,
    h'.nearest_eq hdirectory hnearest' (hoctets'.trans hoctets)]

end Loading

end Diagnostics.Settings
