import Diagnostics.Files.Tree
import Diagnostics.Proofs.Prefixes
import Diagnostics.Proofs.TextLines

/-!
# Paths written down again

Writing a path down leaves out slashes and points that say nothing. What is left is part of the path
in the same order, so it is no longer than the path, and walking along it ends in the same place. A
file that a path leads to is therefore read under the written path as well.
-/

namespace Diagnostics

/-- A part of a text takes up no more octets than the text. -/
theorem octetCount_le_of_sublist {part cs : List Char} (h : part.Sublist cs) :
    octetCount part ≤ octetCount cs := by
  induction h with
  | slnil => exact le_rfl
  | cons c h ih =>
    rw [octetCount]
    omega
  | cons_cons c h ih =>
    rw [octetCount, octetCount]
    omega

namespace Path

section Pieces

/-- Cutting at slashes is splitting at them. -/
theorem cutAtSlashes_eq_splitOn (cs : List Char) : cutAtSlashes cs = cs.splitOn '/' := by
  induction cs with
  | nil => rfl
  | cons c cs ih =>
    rw [cutAtSlashes, ih]
    by_cases hc : c = '/'
    · rw [if_pos hc, hc, Text.splitOn_cons_self]
    · obtain ⟨first, others, hrest, hpieces⟩ := Text.splitOn_cons_of_ne hc cs
      rw [if_neg hc, hrest, hpieces]

/-- The names of a path are texts without slashes, of characters of the path. -/
theorem mem_components {s name : String} (h : name ∈ components s) :
    name ≠ "" ∧ ∀ c ∈ name.toList, c ∈ s.toList ∧ c ≠ '/' := by
  rw [components, cutAtSlashes_eq_splitOn] at h
  obtain ⟨piece, hpiece, rfl⟩ := List.mem_map.mp h
  obtain ⟨hpiece, hne⟩ := List.mem_filter.mp hpiece
  rw [String.toList_ofList]
  refine ⟨fun hempty => ?_, fun c hc => Text.mem_and_ne_of_mem_splitOn hpiece hc⟩
  have hnil : piece = [] := by simpa using congrArg String.toList hempty
  rw [hnil] at hne
  cases hne

/-- Names with slashes between them are the names of their path. -/
theorem components_intercalate {names : List String}
    (h : ∀ name ∈ names, name ≠ "" ∧ '/' ∉ name.toList) :
    components ("/".intercalate names) = names := by
  by_cases hne : names = []
  · subst hne
    rfl
  · have hslash : ∀ piece ∈ names.map String.toList, '/' ∉ piece :=
      List.forall_mem_map.mpr fun name hname => (h name hname).2
    have hkept : (names.map String.toList).filter (!·.isEmpty) = names.map String.toList := by
      refine List.filter_eq_self.mpr (List.forall_mem_map.mpr fun name hname => ?_)
      simpa using (h name hname).1
    rw [components, cutAtSlashes_eq_splitOn, String.toList_intercalate,
      show "/".toList = ['/'] from rfl, List.splitOn_intercalate '/' hslash (by simpa using hne),
      hkept, List.map_map]
    exact List.map_id'' (fun s => String.ofList_toList) names

/-- A slash before a path adds no name. -/
theorem components_cons_slash (cs : List Char) :
    components (String.ofList ('/' :: cs)) = components (String.ofList cs) := by
  rw [components, components, String.toList_ofList, String.toList_ofList, cutAtSlashes,
    if_pos rfl, List.filter_cons_of_neg (by decide)]

end Pieces

section Written

/-- Of some texts with a separator between them, fewer of them are a part. -/
theorem intercalate_sublist {sep : List Char} {part all : List (List Char)}
    (h : part.Sublist all) : (sep.intercalate part).Sublist (sep.intercalate all) := by
  induction h with
  | slnil => exact List.Sublist.refl _
  | @cons part all cs h ih =>
    by_cases hall : all = []
    · rw [hall] at h
      rw [List.sublist_nil.mp h]
      exact List.nil_sublist _
    · rw [List.intercalate_cons_of_ne_nil hall]
      exact ih.trans (List.sublist_append_right _ _)
  | @cons_cons part all cs h ih =>
    by_cases hpart : part = []
    · rw [hpart, List.intercalate_singleton]
      by_cases hall : all = []
      · rw [hall, List.intercalate_singleton]
      · rw [List.intercalate_cons_of_ne_nil hall, List.append_assoc]
        exact List.sublist_append_left _ _
    · have hall : all ≠ [] := by
        rintro rfl
        exact hpart (List.sublist_nil.mp h)
      rw [List.intercalate_cons_of_ne_nil hpart, List.intercalate_cons_of_ne_nil hall]
      exact ih.append_left _

/-- The names of a path with single slashes between them are a part of the path. -/
theorem intercalate_names_sublist (s : String) :
    ("/".intercalate (ofText s).names).toList.Sublist s.toList := by
  have hpieces : ((ofText s).names.map String.toList).Sublist (s.toList.splitOn '/') := by
    have hkept : ((ofText s).names.map String.toList).Sublist
        ((components s).map String.toList) := List.filter_sublist.map _
    refine hkept.trans ?_
    have hsame : ∀ pieces : List (List Char),
        (pieces.map String.ofList).map String.toList = pieces := fun pieces => by
      rw [List.map_map]
      exact List.map_id'' (fun cs => String.toList_ofList) pieces
    rw [components, cutAtSlashes_eq_splitOn, hsame]
    exact List.filter_sublist
  have hjoined : (['/'].intercalate ((ofText s).names.map String.toList)).Sublist
      (['/'].intercalate (s.toList.splitOn '/')) := intercalate_sublist hpieces
  rw [List.intercalate_splitOn] at hjoined
  rwa [String.toList_intercalate]

/-- A path with a name is written as its root and its names. -/
theorem text_eq {s : String} (h : (ofText s).names ≠ []) :
    (ofText s).text = rootOf s.toList ++ "/".intercalate (ofText s).names := by
  have hne : ¬((ofText s).root.isEmpty && (ofText s).names.isEmpty) = true := by simp [h]
  rw [text, if_neg hne]
  rfl

/-- What comes after the root of a path has the names of the path. -/
theorem exists_after_root (s : String) :
    ∃ rest, s.toList = (rootOf s.toList).toList ++ rest ∧
      (ofText s).names = (ofText (String.ofList rest)).names := by
  have hslash : ∀ cs, (ofText (String.ofList ('/' :: cs))).names =
      (ofText (String.ofList cs)).names := fun cs => by
    rw [ofText, ofText, components_cons_slash]
  rw [← String.ofList_toList (s := s)]
  generalize s.toList = cs
  simp only [ofText, String.toList_ofList] at hslash ⊢
  unfold rootOf
  split
  · exact ⟨_, rfl, hslash _⟩
  · exact ⟨_, rfl, (hslash _).trans (hslash _)⟩
  · exact ⟨_, rfl, hslash _⟩
  · exact ⟨_, rfl, rfl⟩

/-- A path that is written down is a part of the path it comes from, if it has a name. -/
theorem text_sublist {s : String} (h : (ofText s).names ≠ []) :
    (ofText s).text.toList.Sublist s.toList := by
  obtain ⟨rest, hrest, hnames⟩ := exists_after_root s
  have hpart := intercalate_names_sublist (String.ofList rest)
  rw [← hnames, String.toList_ofList] at hpart
  have hall := hpart.append_left (rootOf s.toList).toList
  rwa [← hrest, ← String.toList_append, ← text_eq h] at hall

/-- The root of a path adds no name. -/
theorem components_root_append (cs : List Char) (s : String) :
    components (rootOf cs ++ s) = components s := by
  have hslash : ∀ t : String, components ("/" ++ t) = components t := fun t => by
    have hcons := components_cons_slash t.toList
    rw [String.ofList_toList] at hcons
    rw [← hcons]
    congr 1
    simp
  unfold rootOf
  split
  · exact hslash s
  · rw [show "//" = "/" ++ "/" from rfl, String.append_assoc, hslash, hslash]
  · exact hslash s
  · rw [String.empty_append]

/-- The names of a path are texts without slashes. -/
theorem forall_mem_names {s : String} :
    ∀ name ∈ (ofText s).names, name ≠ "" ∧ '/' ∉ name.toList := by
  intro name hname
  obtain ⟨hne, hchars⟩ := mem_components (List.mem_of_mem_filter hname)
  exact ⟨hne, fun hslash => (hchars '/' hslash).2 rfl⟩

/-- A path that is written down has the names of the path it comes from. -/
theorem components_text {s : String} (h : (ofText s).names ≠ []) :
    components (ofText s).text = (ofText s).names := by
  rw [text_eq h, components_root_append]
  exact components_intercalate forall_mem_names

/-- A path without a root does not begin with a slash, and a root does. -/
theorem rootOf_cases (cs : List Char) :
    (rootOf cs = "" ∧ cs.head? ≠ some '/') ∨
      ((rootOf cs).toList.head? = some '/' ∧ cs.head? = some '/') := by
  unfold rootOf
  split
  · exact Or.inr ⟨rfl, rfl⟩
  · exact Or.inr ⟨rfl, rfl⟩
  · exact Or.inr ⟨rfl, rfl⟩
  · rename_i hslash
    refine Or.inl ⟨rfl, fun hhead => ?_⟩
    obtain ⟨rest, hrest⟩ := List.head?_eq_some_iff.mp hhead
    exact hslash rest hrest

/-- A path that is written down begins with a slash exactly if the path it comes from does. -/
theorem head?_text_eq_slash_iff {s : String} (h : (ofText s).names ≠ []) :
    (ofText s).text.toList.head? = some '/' ↔ s.toList.head? = some '/' := by
  rw [text_eq h, String.toList_append]
  rcases rootOf_cases s.toList with ⟨hroot, hhead⟩ | ⟨hroot, hhead⟩
  · -- Without a root the first character is that of a name, which is no slash.
    obtain ⟨name, names, hnames⟩ := List.exists_cons_of_ne_nil h
    obtain ⟨hempty, hslash⟩ := forall_mem_names name (by rw [hnames]; exact List.mem_cons_self)
    obtain ⟨c, cs, hcs⟩ := List.exists_cons_of_ne_nil (mt String.toList_eq_nil_iff.mp hempty)
    have hfirst : ("/".intercalate (name :: names)).toList.head? = some c := by
      rw [String.toList_intercalate, List.map_cons, hcs]
      cases names <;> simp
    have hc : c ≠ '/' := by
      rintro rfl
      exact hslash (by rw [hcs]; exact List.mem_cons_self)
    rw [hroot, hnames, show "".toList = [] from rfl, List.nil_append, hfirst]
    simp [hc, hhead]
  · obtain ⟨rest, hrest⟩ := List.head?_eq_some_iff.mp hroot
    rw [hrest, hhead]
    rfl

/-- Names with slashes between them do not end in a slash. -/
theorem exists_getLast?_intercalate {names : List String} (hne : names ≠ [])
    (h : ∀ name ∈ names, name ≠ "" ∧ '/' ∉ name.toList) :
    ∃ c, ("/".intercalate names).toList.getLast? = some c ∧ c ≠ '/' := by
  induction names with
  | nil => exact absurd rfl hne
  | cons name names ih =>
    rw [List.forall_mem_cons] at h
    cases names with
    | nil =>
      have hlist : name.toList ≠ [] := mt String.toList_eq_nil_iff.mp h.1.1
      rw [String.intercalate_singleton]
      refine ⟨_, List.getLast?_eq_some_getLast hlist, fun hlast => h.1.2 ?_⟩
      rw [← hlast]
      exact List.getLast_mem hlist
    | cons next names =>
      obtain ⟨c, hlast, hc⟩ := ih (List.cons_ne_nil _ _) h.2
      refine ⟨c, ?_, hc⟩
      rw [String.intercalate_cons_cons, String.toList_append, List.getLast?_append, hlast]
      rfl

/-- A path that is written down does not end in a slash, if it has a name. -/
theorem getLast?_text_ne {s : String} (h : (ofText s).names ≠ []) :
    (ofText s).text.toList.getLast? ≠ some '/' := by
  obtain ⟨c, hlast, hc⟩ := exists_getLast?_intercalate h forall_mem_names
  rw [text_eq h, String.toList_append, List.getLast?_append, hlast]
  simpa using hc

/-- A path without names has slashes only. -/
theorem eq_slash_of_components_eq_nil {s : String} (h : components s = []) :
    ∀ c ∈ s.toList, c = '/' := by
  have hpieces : ∀ piece ∈ s.toList.splitOn '/', piece = [] := by
    rw [components, List.map_eq_nil_iff, List.filter_eq_nil_iff, cutAtSlashes_eq_splitOn] at h
    intro piece hpiece
    simpa using h piece hpiece
  generalize s.toList = cs at hpieces
  induction cs with
  | nil => exact fun c hc => absurd hc List.not_mem_nil
  | cons d cs ih =>
    by_cases hd : d = '/'
    · rw [hd, Text.splitOn_cons_self, List.forall_mem_cons] at hpieces
      exact List.forall_mem_cons.mpr ⟨hd, ih hpieces.2⟩
    · obtain ⟨first, others, -, hsplit⟩ := Text.splitOn_cons_of_ne hd cs
      rw [hsplit] at hpieces
      exact absurd (hpieces (d :: first) List.mem_cons_self) (List.cons_ne_nil _ _)

end Written

end Path

namespace FileTree

variable {t : FileTree} {directory here place names : List String} {path : String}
  {octets : List UInt8}

/-- Walking along a path, the name of the directory itself can be left out. -/
theorem walk_filter_point (h : t.walk here names = .ok place) :
    t.walk here (names.filter (· != ".")) = .ok place := by
  induction names generalizing here with
  | nil => exact h
  | cons name names ih =>
    rw [walk] at h
    by_cases hdirectory : t.hasDirectory here = true
    · rw [if_neg (by simp [hdirectory])] at h
      by_cases hpoint : name = "."
      · rw [if_pos hpoint] at h
        rw [List.filter_cons_of_neg (by simp [hpoint])]
        exact ih h
      · rw [if_neg hpoint] at h
        rw [List.filter_cons_of_pos (by simp [hpoint]), walk, if_neg (by simp [hdirectory]),
          if_neg hpoint]
        split at h
        · rw [if_pos ‹_›]
          exact ih h
        · rw [if_neg ‹_›]
          split at h
          · cases h
          · rw [if_neg ‹_›]
            split at h
            · cases h
            · exact ih h
    · rw [if_pos (by simpa using hdirectory)] at h
      cases h

/-- A walk along points stays in its directory, so it does not lead to a file. -/
theorem hasDirectory_of_walk_points (hne : names ≠ []) (hpoints : names.filter (· != ".") = [])
    (h : t.walk here names = .ok place) : t.hasDirectory place = true := by
  have hplace := walk_filter_point h
  rw [hpoints, walk, Except.ok.injEq] at hplace
  obtain ⟨name, names, rfl⟩ := List.exists_cons_of_ne_nil hne
  rw [walk] at h
  by_cases hdirectory : t.hasDirectory here = true
  · rwa [← hplace]
  · rw [if_pos (by simpa using hdirectory)] at h
    cases h

/-- A path that leads somewhere has no zero character and is not empty or too long, and walking
along it ends there. -/
theorem locate_eq_ok_iff :
    t.locate directory path = .ok place ↔
      ('\x00' ∉ path.toList ∧ path ≠ "" ∧ octetCount path.toList ≤ maximumPath) ∧
        t.walk (origin directory path) (steps path) = .ok place := by
  have hlength : isLongPath path = true ↔ ¬octetCount path.toList ≤ maximumPath := by
    rw [isLongPath, octetCount_eq_utf8ByteSize, String.ofList_toList, decide_eq_true_iff, not_le]
  unfold locate
  by_cases hzero : '\x00' ∈ path.toList
  · simp [hzero]
  · by_cases hempty : path = ""
    · simp [hempty]
    · by_cases hlong : octetCount path.toList ≤ maximumPath
      · simp [hzero, hempty, hlength, hlong]
      · simp [hzero, hempty, hlength, hlong]

/-- A path that is not empty has a step. -/
theorem steps_ne_nil (hempty : path ≠ "") : steps path ≠ [] := by
  intro hsteps
  rw [steps, List.append_eq_nil_iff] at hsteps
  have hlast : asksDirectory path = true := by
    have hlist : path.toList ≠ [] := mt String.toList_eq_nil_iff.mp hempty
    have hslash := Path.eq_slash_of_components_eq_nil hsteps.1 _ (List.getLast_mem hlist)
    rw [asksDirectory, List.getLast?_eq_some_getLast hlist, hslash]
    rfl
  rw [if_pos hlast] at hsteps
  exact absurd hsteps.2 (List.cons_ne_nil _ _)

/-- A path that leads to a file has a name. -/
theorem names_ne_nil_of_locate (h : t.locate directory path = .ok place)
    (hfile : t.hasDirectory place = false) : (Path.ofText path).names ≠ [] := by
  obtain ⟨⟨-, hempty, -⟩, hwalk⟩ := locate_eq_ok_iff.mp h
  intro hnames
  have hpoints : (steps path).filter (· != ".") = [] := by
    have hnames : (Path.components path).filter (· != ".") = [] := hnames
    rw [steps, List.filter_append, hnames, List.nil_append]
    split
    · rfl
    · rfl
  rw [hasDirectory_of_walk_points (steps_ne_nil hempty) hpoints hwalk] at hfile
  cases hfile

/-- A path to a file leads there also when it is written down. -/
theorem locate_text_ofText (h : t.locate directory path = .ok place)
    (hfile : t.hasDirectory place = false) :
    t.locate directory (Path.ofText path).text = .ok place := by
  have hnames := names_ne_nil_of_locate h hfile
  have hpart := Path.text_sublist hnames
  obtain ⟨⟨hzero, -, hlength⟩, hwalk⟩ := locate_eq_ok_iff.mp h
  refine locate_eq_ok_iff.mpr ⟨⟨fun hmem => hzero (hpart.subset hmem), ?_, ?_⟩, ?_⟩
  · intro hempty
    have hcomponents := Path.components_text hnames
    rw [hempty] at hcomponents
    exact hnames hcomponents.symm
  · exact (octetCount_le_of_sublist hpart).trans hlength
  · have horigin : origin directory (Path.ofText path).text = origin directory path := by
      unfold origin
      simp only [Path.head?_text_eq_slash_iff hnames]
    have hsteps : steps (Path.ofText path).text = (steps path).filter (· != ".") := by
      have hlast : ¬asksDirectory (Path.ofText path).text = true := by
        simpa [asksDirectory] using Path.getLast?_text_ne hnames
      rw [steps, if_neg hlast, List.append_nil, Path.components_text hnames, steps,
        List.filter_append]
      split
      · exact (List.append_nil _).symm
      · exact (List.append_nil _).symm
    rw [horigin, hsteps]
    exact walk_filter_point hwalk

/-- A path with octets leads to a file. -/
theorem read_eq_ok_iff :
    t.read directory path = .ok octets ↔
      ∃ place, t.locate directory path = .ok place ∧ t.find? place = some (.file octets) := by
  unfold read
  cases t.locate directory path with
  | error fault => simp
  | ok place =>
    cases hfound : t.find? place with
    | none => simp [hfound]
    | some found => cases found <;> simp [hfound]

/-- Above a place where something is found, something is found. -/
theorem exists_find?_dropLast (h : ∃ found, t.find? here = some found) :
    ∃ found, t.find? here.dropLast = some found := by
  induction here generalizing t with
  | nil => exact h
  | cons name names ih =>
    cases names with
    | nil => exact ⟨t, by rw [List.dropLast_singleton, find?]⟩
    | cons next names =>
      cases t with
      | file octets =>
        obtain ⟨found, hfound⟩ := h
        cases hfound
      | directory entries =>
        rw [find?] at h
        rw [List.dropLast_cons_cons, find?]
        cases hlookup : entries.lookup name with
        | none => simp [hlookup] at h
        | some below => exact ih (by simpa [hlookup] using h)

/-- A walk from a place where something is found ends at such a place. -/
theorem exists_find?_of_walk (hhere : ∃ found, t.find? here = some found)
    (h : t.walk here names = .ok place) : ∃ found, t.find? place = some found := by
  induction names generalizing here with
  | nil =>
    obtain rfl : here = place := Except.ok.inj h
    exact hhere
  | cons name names ih =>
    rw [walk] at h
    split at h
    · cases h
    split at h
    · exact ih hhere h
    split at h
    · exact ih (exists_find?_dropLast hhere) h
    split at h
    · cases h
    split at h
    · cases h
    rename_i found hfound
    exact ih ⟨found, hfound⟩ h

/-- Where a path leads, something is found. -/
theorem exists_find?_of_locate (h : t.locate directory path = .ok place) :
    ∃ found, t.find? place = some found := by
  obtain ⟨⟨-, hempty, -⟩, hwalk⟩ := locate_eq_ok_iff.mp h
  obtain ⟨name, names, hsteps⟩ := List.exists_cons_of_ne_nil (steps_ne_nil hempty)
  refine exists_find?_of_walk ?_ hwalk
  -- The first step is taken from a directory only.
  rw [hsteps, walk] at hwalk
  cases hfound : t.find? (origin directory path) with
  | some found => exact ⟨found, rfl⟩
  | none => simp [hasDirectory, hfound] at hwalk

/-- A path that leads somewhere other than to a directory has octets. -/
theorem exists_read_of_locate (h : t.locate directory path = .ok place)
    (hfile : t.hasDirectory place = false) : ∃ octets, t.read directory path = .ok octets := by
  obtain ⟨found, hfound⟩ := exists_find?_of_locate h
  cases found with
  | file octets => exact ⟨octets, read_eq_ok_iff.mpr ⟨place, h, hfound⟩⟩
  | directory entries =>
    rw [hasDirectory, hfound] at hfile
    cases hfile

/-- Where there is a file, there is no directory. -/
theorem hasDirectory_of_find?_file (h : t.find? place = some (.file octets)) :
    t.hasDirectory place = false := by
  rw [hasDirectory, h]

/-- A file has the same octets under its path and under the path written down. -/
theorem read_text_ofText (h : t.read directory path = .ok octets) :
    t.read directory (Path.ofText path).text = .ok octets := by
  obtain ⟨place, hplace, hfound⟩ := read_eq_ok_iff.mp h
  have hwritten := locate_text_ofText hplace (hasDirectory_of_find?_file hfound)
  exact read_eq_ok_iff.mpr ⟨place, hwritten, hfound⟩

end FileTree

end Diagnostics
