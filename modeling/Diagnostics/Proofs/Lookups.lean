import Diagnostics.Proofs.Paths

/-!
# Asking about resolved paths

Resolving a path leaves proper names only: no empty name, no point, no slash. Whether such names
lead to a file is answered by looking at the tree, unless the system refuses the question because
the path is too long, or a name on the way is. This file says exactly when it does.
-/

namespace Diagnostics

namespace Path

/-- A name that an entry of a directory can have. -/
structure IsName (name : String) : Prop where
  ne_empty : name ≠ ""
  ne_point : name ≠ "."
  ne_points : name ≠ ".."
  no_slash : '/' ∉ name.toList
  no_zero : '\x00' ∉ name.toList

instance : DecidablePred IsName := fun name =>
  decidable_of_iff (name ≠ "" ∧ name ≠ "." ∧ name ≠ ".." ∧ '/' ∉ name.toList ∧
      '\x00' ∉ name.toList)
    ⟨fun ⟨h₁, h₂, h₃, h₄, h₅⟩ => ⟨h₁, h₂, h₃, h₄, h₅⟩,
      fun ⟨h₁, h₂, h₃, h₄, h₅⟩ => ⟨h₁, h₂, h₃, h₄, h₅⟩⟩

section Resolving

variable {directory names : List String}

/-- Following the names of a path leaves names of entries. -/
theorem isName_of_mem_follow (hdirectory : ∀ name ∈ directory, IsName name)
    (hnames : ∀ name ∈ names, name ≠ "" ∧ '/' ∉ name.toList ∧ '\x00' ∉ name.toList) :
    ∀ name ∈ follow directory names, IsName name := by
  induction names generalizing directory with
  | nil => exact hdirectory
  | cons name rest ih =>
    obtain ⟨⟨hne, hslash, hzero⟩, hrest⟩ := List.forall_mem_cons.mp hnames
    rw [follow]
    split
    · exact ih hdirectory hrest
    · rename_i hpoint
      split
      · exact ih (fun name hname => hdirectory name (List.dropLast_subset _ hname)) hrest
      · rename_i hpoints
        refine ih (fun other hother => ?_) hrest
        rcases List.mem_append.mp hother with hother | hother
        · exact hdirectory other hother
        · rw [List.mem_singleton.mp hother]
          exact ⟨hne, hpoint, hpoints, hslash, hzero⟩

/-- So does resolving a path without a zero character. -/
theorem isName_of_mem_resolve (hdirectory : ∀ name ∈ directory, IsName name) {path : String}
    (hzero : '\x00' ∉ path.toList) : ∀ name ∈ (ofText path).resolve directory, IsName name := by
  refine isName_of_mem_follow ?_ fun name hname => ?_
  · split
    · exact hdirectory
    · exact fun _ => nofun
  · obtain ⟨hne, hchars⟩ := mem_components (List.mem_of_mem_filter hname)
    exact ⟨hne, fun hslash => (hchars '/' hslash).2 rfl,
      fun hmem => hzero (hchars '\x00' hmem).1⟩

/-- The name of an entry leads to the entry of the working directory. -/
theorem resolve_of_isName {name : String} (h : IsName name) :
    (ofText name).resolve directory = directory ++ [name] := by
  have hnames : components name = [name] := by
    have hsingle := components_intercalate (List.forall_mem_singleton.mpr ⟨h.ne_empty, h.no_slash⟩)
    rwa [String.intercalate_singleton] at hsingle
  have hroot : rootOf name.toList = "" := by
    rcases rootOf_cases name.toList with ⟨hroot, -⟩ | ⟨-, hhead⟩
    · exact hroot
    · exact absurd (List.mem_of_mem_head? hhead) h.no_slash
  have hkept : [name].filter (· != ".") = [name] := by simpa using h.ne_point
  rw [resolve, ofText, hroot, hnames, hkept, follow, if_neg h.ne_point, if_neg h.ne_points]
  rfl

/-- The path of names of entries has these names. -/
theorem components_absoluteText (hnames : ∀ name ∈ names, IsName name) :
    components (absoluteText names) = names := by
  have hcons : absoluteText names = String.ofList ('/' :: ("/".intercalate names).toList) := by
    rw [← String.toList_inj, String.toList_ofList, absoluteText, String.toList_append]
    rfl
  rw [hcons, components_cons_slash, String.ofList_toList]
  exact components_intercalate fun name hname =>
    ⟨(hnames name hname).ne_empty, (hnames name hname).no_slash⟩

/-- A character between names is a slash or stands in one of them. -/
theorem mem_toList_intercalate {c : Char} (h : c ∈ ("/".intercalate names).toList) :
    c = '/' ∨ ∃ name ∈ names, c ∈ name.toList := by
  induction names with
  | nil => cases h
  | cons name rest ih =>
    cases rest with
    | nil =>
      rw [String.intercalate_singleton] at h
      exact .inr ⟨name, List.mem_cons_self, h⟩
    | cons next rest =>
      rw [String.intercalate_cons_cons, String.toList_append, String.toList_append,
        List.mem_append, List.mem_append] at h
      rcases h with (h | h) | h
      · exact .inr ⟨name, List.mem_cons_self, h⟩
      · exact .inl (List.mem_singleton.mp h)
      · rcases ih h with hslash | ⟨other, hother, hc⟩
        · exact .inl hslash
        · exact .inr ⟨other, List.mem_cons_of_mem _ hother, hc⟩

/-- The path of fewer names takes up no more octets. -/
theorem octetCount_absoluteText_le {others : List String} (h : names.Sublist others) :
    octetCount (absoluteText names).toList ≤ octetCount (absoluteText others).toList := by
  refine octetCount_le_of_sublist ?_
  rw [absoluteText, absoluteText, String.toList_append, String.toList_append,
    String.toList_intercalate, String.toList_intercalate]
  exact (intercalate_sublist (h.map String.toList)).append_left _

end Resolving

end Path

namespace FileTree

section Places

variable {t : FileTree} {above below : List String}

/-- What is found along names is found in two steps. -/
theorem find?_append (t : FileTree) (above below : List String) :
    t.find? (above ++ below) = (t.find? above).bind (·.find? below) := by
  induction above generalizing t with
  | nil => rfl
  | cons name rest ih =>
    cases t with
    | file octets => rfl
    | directory entries =>
      rw [List.cons_append, find?, find?]
      cases entries.lookup name with
      | none => rfl
      | some inner => exact ih inner

/-- Below what is no directory, nothing is found. -/
theorem find?_append_eq_none (h : t.hasDirectory above = false) (hne : below ≠ []) :
    t.find? (above ++ below) = none := by
  obtain ⟨name, rest, rfl⟩ := List.exists_cons_of_ne_nil hne
  rw [find?_append]
  cases hfound : t.find? above with
  | none => rfl
  | some found =>
    cases found with
    | file octets => rfl
    | directory entries => simp [hasDirectory, hfound] at h

/-- Nor is there a directory. -/
theorem hasDirectory_append_eq_false (h : t.hasDirectory above = false) (below : List String) :
    t.hasDirectory (above ++ below) = false := by
  by_cases hne : below = []
  · rwa [hne, List.append_nil]
  · rw [hasDirectory, find?_append_eq_none h hne]

end Places

/-- Below a place no name is too long that a walk comes to. -/
def ShortBelow (t : FileTree) (here names : List String) : Prop :=
  ∀ above name below, names = above ++ name :: below → t.hasDirectory (here ++ above) = true →
    isLongName name = false

/-- The system answers what names lead to: their path is not too long, and no name in a directory
that is there. -/
structure Askable (t : FileTree) (names : List String) : Prop where
  path_short : isLongPath (Path.absoluteText names) = false
  names_short : t.ShortBelow [] names

section Asking

variable {t : FileTree} {here names : List String}

/-- A path is not too long if it has no more octets than a path may have. -/
theorem isLongPath_eq_false_iff {path : String} :
    isLongPath path = false ↔ octetCount path.toList ≤ maximumPath := by
  rw [isLongPath, octetCount_eq_utf8ByteSize, String.ofList_toList, decide_eq_false_iff_not, not_lt]

/-- A walk comes to no name where there is no directory. -/
theorem shortBelow_of_not_hasDirectory (h : t.hasDirectory here = false) :
    t.ShortBelow here names := by
  rintro above name below - hdirectory
  rw [hasDirectory_append_eq_false h] at hdirectory
  cases hdirectory

/-- A walk comes to its first name in a directory, and to the others behind it. -/
theorem shortBelow_cons_iff {name : String} :
    t.ShortBelow here (name :: names) ↔
      (t.hasDirectory here = true → isLongName name = false) ∧
        t.ShortBelow (here ++ [name]) names := by
  constructor
  · intro h
    refine ⟨fun hdirectory => h [] name names rfl (by rwa [List.append_nil]), ?_⟩
    rintro above other below rfl hdirectory
    exact h (name :: above) other below rfl (by rwa [List.append_cons])
  · rintro ⟨hfirst, hrest⟩ above other below heq hdirectory
    cases above with
    | nil =>
      obtain ⟨rfl, rfl⟩ := List.cons.inj heq
      exact hfirst (by rwa [List.append_nil] at hdirectory)
    | cons first above =>
      obtain ⟨rfl, rfl⟩ := List.cons.inj heq
      exact hrest above other below rfl (by rwa [List.append_cons] at hdirectory)

/-- Short names can be asked about if their path is short. -/
theorem askable_of_forall_short (hpath : isLongPath (Path.absoluteText names) = false)
    (h : ∀ name ∈ names, isLongName name = false) : t.Askable names := by
  refine ⟨hpath, ?_⟩
  rintro above name below rfl -
  exact h name (by simp)

/-- A walk along names of entries ends at their place, or where there is none, unless it comes to a
name that is too long. -/
theorem walk_cases (hnames : ∀ name ∈ names, Path.IsName name) :
    (t.ShortBelow here names ∧
      (t.walk here names = .ok (here ++ names) ∨
        ∃ fault, fault ≠ .tooLong ∧ t.walk here names = .error fault ∧
          t.find? (here ++ names) = none)) ∨
    (¬t.ShortBelow here names ∧ t.walk here names = .error .tooLong) := by
  induction names generalizing here with
  | nil =>
    refine .inl ⟨fun above name below h => absurd h (by simp), .inl ?_⟩
    rw [List.append_nil, walk]
  | cons name rest ih =>
    obtain ⟨hname, hrest⟩ := List.forall_mem_cons.mp hnames
    rw [shortBelow_cons_iff, walk, if_neg hname.ne_point, if_neg hname.ne_points]
    cases hdirectory : t.hasDirectory here with
    | false =>
      have hbelow : t.ShortBelow (here ++ [name]) rest :=
        shortBelow_of_not_hasDirectory (hasDirectory_append_eq_false hdirectory [name])
      exact .inl ⟨⟨fun h => Bool.noConfusion h, hbelow⟩, .inr ⟨.notDirectory, by decide, rfl,
        find?_append_eq_none hdirectory (List.cons_ne_nil _ _)⟩⟩
    | true =>
      cases hlong : isLongName name with
      | true => exact .inr ⟨fun h => Bool.noConfusion (h.1 rfl), rfl⟩
      | false =>
        cases hfound : t.find? (here ++ [name]) with
        | none =>
          have hbelow : t.ShortBelow (here ++ [name]) rest :=
            shortBelow_of_not_hasDirectory (by rw [hasDirectory, hfound])
          refine .inl ⟨⟨fun _ => rfl, hbelow⟩, .inr ⟨.missing, by decide, rfl, ?_⟩⟩
          rw [List.append_cons, find?_append, hfound, Option.bind_none]
        | some found =>
          have hfarther := @ih (here ++ [name]) hrest
          rw [← List.append_cons] at hfarther
          simpa using hfarther

/-- The system answers from the tree where it can be asked. -/
theorem isFileAt_of_askable (hnames : ∀ name ∈ names, Path.IsName name) (h : t.Askable names) :
    t.isFileAt names = .ok (t.hasFile names) := by
  rw [isFileAt, h.path_short, if_neg Bool.false_ne_true]
  rcases walk_cases hnames with ⟨-, hwalk | ⟨fault, hfault, hwalk, hfound⟩⟩ | ⟨hnot, -⟩
  · rw [hwalk]
  · rw [List.nil_append] at hfound
    rw [hwalk, hasFile, hfound]
    cases fault <;> first | rfl | exact absurd rfl hfault
  · exact absurd h.names_short hnot

/-- It refuses all other questions. -/
theorem isFileAt_of_not_askable (hnames : ∀ name ∈ names, Path.IsName name)
    (h : ¬t.Askable names) : t.isFileAt names = .error .tooLong := by
  rw [isFileAt]
  cases hpath : isLongPath (Path.absoluteText names) with
  | true => rfl
  | false =>
    rw [if_neg Bool.false_ne_true]
    rcases @walk_cases t [] names hnames with ⟨hshort, -⟩ | ⟨-, hwalk⟩
    · exact absurd ⟨hpath, hshort⟩ h
    · rw [hwalk]

/-- A file that the system can be asked about is read under its absolute path. -/
theorem read_absoluteText (hnames : ∀ name ∈ names, Path.IsName name) (hne : names ≠ [])
    (h : t.Askable names) {octets : List UInt8} (hfound : t.find? names = some (.file octets))
    (directory : List String) : t.read directory (Path.absoluteText names) = .ok octets := by
  have hchars : (Path.absoluteText names).toList = '/' :: ("/".intercalate names).toList := by
    rw [Path.absoluteText, String.toList_append]
    rfl
  have hwalk : t.walk [] names = .ok names := by
    rcases @walk_cases t [] names hnames with
      ⟨-, hwalk | ⟨fault, -, -, hnone⟩⟩ | ⟨hnot, -⟩
    · exact hwalk
    · rw [List.nil_append, hfound] at hnone
      cases hnone
    · exact absurd h.names_short hnot
  have hzero : '\x00' ∉ (Path.absoluteText names).toList := by
    rw [hchars, List.mem_cons, not_or]
    refine ⟨by decide, fun hmem => ?_⟩
    rcases Path.mem_toList_intercalate hmem with hslash | ⟨name, hname, hc⟩
    · cases hslash
    · exact (hnames name hname).no_zero hc
  have hlast : ¬asksDirectory (Path.absoluteText names) = true := by
    obtain ⟨c, hlast, hc⟩ := Path.exists_getLast?_intercalate hne fun name hname =>
      ⟨(hnames name hname).ne_empty, (hnames name hname).no_slash⟩
    rw [asksDirectory, hchars, List.getLast?_cons, hlast]
    simpa using hc
  have horigin : origin directory (Path.absoluteText names) = [] := by
    rw [origin, hchars, List.head?_cons, if_pos rfl]
  refine read_eq_ok_iff.mpr ⟨names, locate_eq_ok_iff.mpr ⟨⟨hzero, fun hempty => ?_,
    isLongPath_eq_false_iff.mp h.path_short⟩, ?_⟩, hfound⟩
  · rw [hempty] at hchars
    cases hchars
  · rw [horigin, steps, if_neg hlast, List.append_nil, Path.components_absoluteText hnames, hwalk]

end Asking

section Leading

variable {t : FileTree} {directory here names place : List String} {path : String}

/-- A walk ends where following its names leads. -/
theorem follow_eq_of_walk (h : t.walk here names = .ok place) : Path.follow here names = place := by
  induction names generalizing here with
  | nil => exact Except.ok.inj h
  | cons name rest ih =>
    rw [walk] at h
    rw [Path.follow]
    split at h
    · cases h
    split at h
    · rw [if_pos ‹_›]
      exact ih h
    rw [if_neg ‹_›]
    split at h
    · rw [if_pos ‹_›]
      exact ih h
    rw [if_neg ‹_›]
    split at h
    · cases h
    split at h
    · cases h
    exact ih h

/-- Where a path leads somewhere, resolving it without looking at the tree leads there too. -/
theorem resolve_eq_of_locate (h : t.locate directory path = .ok place) :
    (Path.ofText path).resolve directory = place := by
  obtain ⟨-, hwalk⟩ := locate_eq_ok_iff.mp h
  have hfollow := follow_eq_of_walk (walk_filter_point hwalk)
  have hsteps : (steps path).filter (· != ".") = (Path.ofText path).names := by
    rw [steps, List.filter_append]
    split
    · exact List.append_nil _
    · exact List.append_nil _
  have horigin : (if (Path.ofText path).root.isEmpty then directory else []) =
      origin directory path := by
    rw [origin]
    rcases Path.rootOf_cases path.toList with ⟨hroot, hhead⟩ | ⟨hroot, hhead⟩
    · rw [if_neg hhead]
      exact if_pos (by rw [Path.ofText, hroot]; rfl)
    · rw [if_pos hhead]
      refine if_neg fun hempty => ?_
      have hnone : Path.rootOf path.toList = "" := String.isEmpty_iff.mp hempty
      rw [hnone] at hroot
      cases hroot
  rwa [Path.resolve, horigin, ← hsteps]

end Leading

end FileTree

end Diagnostics
