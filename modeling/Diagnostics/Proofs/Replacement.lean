import Diagnostics.Files.Tree

/-!
# Writing one file

Writing to a path makes or replaces one file, in a directory that is there. This file shows that the
file then holds what was written, and that all other files and all directories stay as they are.
-/

namespace Diagnostics.FileTree

/-- The octets of the file at the given names, if there is one. -/
def octetsAt? (t : FileTree) (names : List String) : Option (List UInt8) :=
  match t.find? names with
  | some (file octets) => some octets
  | _ => none

section Entries

variable {t below : FileTree} {entries : List (String × FileTree)} {name other : String}
  {names : List String}

/-- Under the name of a put entry stands the new tree, and under any other name what stood there. -/
theorem lookup_putEntry : (putEntry name t entries).lookup other =
    if other = name then some t else entries.lookup other := by
  induction entries with
  | nil =>
    by_cases hother : other = name
    · simp [putEntry, hother]
    · simp [putEntry, hother, List.lookup_cons, beq_eq_false_iff_ne.mpr hother]
  | cons entry entries ih =>
    obtain ⟨head, old⟩ := entry
    by_cases hhead : head = name
    · subst hhead
      by_cases hother : other = head
      · simp [putEntry, hother]
      · simp [putEntry, hother, List.lookup_cons, beq_eq_false_iff_ne.mpr hother]
    · rw [putEntry, if_neg hhead, List.lookup_cons, List.lookup_cons, ih]
      by_cases hother : other = head
      · simp [hother, hhead]
      · simp [beq_eq_false_iff_ne.mpr hother]

/-- What is found below an entry of a directory is found in the directory. -/
theorem find?_of_lookup (h : entries.lookup name = some below) :
    (directory entries).find? (name :: names) = below.find? names := by
  rw [find?, h]

/-- A place below a directory has a directory above it, the first of which is an entry. -/
theorem exists_entry_of_hasDirectory (h : t.hasDirectory (name :: names) = true) :
    ∃ entries below, t = directory entries ∧ entries.lookup name = some below ∧
      below.hasDirectory names = true := by
  cases t with
  | file octets => simp [hasDirectory, find?] at h
  | directory entries =>
    cases hlookup : entries.lookup name with
    | none => simp [hasDirectory, find?, hlookup] at h
    | some below =>
      refine ⟨entries, below, rfl, hlookup, ?_⟩
      rwa [hasDirectory, find?_of_lookup hlookup] at h

/-- What is a directory has entries. -/
theorem exists_entries_of_hasDirectory (h : t.hasDirectory [] = true) :
    ∃ entries, t = directory entries := by
  cases t with
  | file octets => simp [hasDirectory, find?] at h
  | directory entries => exact ⟨entries, rfl⟩

/-- Below the entry that leads to a put tree, that tree has been put. -/
theorem find?_put_head (t : FileTree) (entries : List (String × FileTree)) (name : String)
    (names others : List String) :
    ((directory entries).put (name :: names) t).find? (name :: others) =
      (((entries.lookup name).getD (directory [])).put names t).find? others := by
  have hput : (directory entries).put (name :: names) t =
      directory (putEntry name (((entries.lookup name).getD (directory [])).put names t) entries) :=
    rfl
  rw [hput]
  exact find?_of_lookup (by rw [lookup_putEntry, if_pos rfl])

/-- Below any other entry nothing changes. -/
theorem find?_put_of_ne (hother : other ≠ name) (others : List String) :
    ((directory entries).put (name :: names) t).find? (other :: others) =
      (directory entries).find? (other :: others) := by
  have hput : (directory entries).put (name :: names) t =
      directory (putEntry name (((entries.lookup name).getD (directory [])).put names t) entries) :=
    rfl
  rw [hput, find?, find?, lookup_putEntry, if_neg hother]

end Entries

section Put

variable {t : FileTree} {names : List String} {octets : List UInt8}

/-- A place where a file can be written: it has a name in a directory that is there, and is no
directory itself. -/
structure Holds (t : FileTree) (names : List String) : Prop where
  named : names ≠ []
  within : t.hasDirectory names.dropLast = true
  free : t.hasDirectory names = false

/-- Only directories lead to a place where a file can be written. -/
theorem Holds.exists_entries {name : String} (h : t.Holds (name :: names)) :
    ∃ entries, t = directory entries := by
  cases names with
  | nil => exact exists_entries_of_hasDirectory h.within
  | cons next names =>
    obtain ⟨entries, below, rfl, -⟩ := exists_entry_of_hasDirectory h.within
    exact ⟨entries, rfl⟩

/-- The place can hold a file also when it is looked at from the next directory on the way. -/
theorem Holds.below {entries : List (String × FileTree)} {name next : String}
    (h : (directory entries).Holds (name :: next :: names)) :
    ∃ below, entries.lookup name = some below ∧ below.Holds (next :: names) := by
  obtain ⟨entries', below, hentries, hlookup, hwithin⟩ := exists_entry_of_hasDirectory h.within
  obtain rfl : entries = entries' := by simpa using hentries
  have hfree := h.free
  rw [hasDirectory, find?_of_lookup hlookup] at hfree
  exact ⟨below, hlookup, List.cons_ne_nil _ _, hwithin, hfree⟩

/-- Nothing lies below a place where a file can be written. -/
theorem Holds.find?_below {entries : List (String × FileTree)} {name : String}
    (h : (directory entries).Holds [name]) (first : String) (others : List String) :
    (directory entries).find? (name :: first :: others) = none := by
  cases hlookup : entries.lookup name with
  | none => rw [find?, hlookup]
  | some old =>
    have hfree := h.free
    rw [hasDirectory, find?_of_lookup hlookup] at hfree
    rw [find?_of_lookup hlookup]
    cases old with
    | file octets => rfl
    | directory entries => cases hfree

/-- At the names of a new file its octets are found, and at all other names the same files and the
same directories as before. By induction on the names, along the directories that lead to it. -/
theorem put_file (h : t.Holds names) (octets : List UInt8) (other : List String) :
    (t.put names (file octets)).octetsAt? other =
        (if other = names then some octets else t.octetsAt? other) ∧
      (t.put names (file octets)).hasDirectory other = t.hasDirectory other := by
  induction names generalizing t other with
  | nil => exact absurd rfl h.named
  | cons name rest ih =>
    obtain ⟨entries, rfl⟩ := h.exists_entries
    cases other with
    | nil => exact ⟨rfl, rfl⟩
    | cons first others =>
      by_cases hfirst : first = name
      · subst hfirst
        have hnew := find?_put_head (file octets) entries first rest others
        cases rest with
        | nil =>
          rw [put] at hnew
          cases others with
          | nil =>
            rw [octetsAt?, hasDirectory, hnew, h.free]
            exact ⟨by simp [find?], rfl⟩
          | cons last others =>
            rw [octetsAt?, octetsAt?, hasDirectory, hasDirectory, hnew, h.find?_below]
            exact ⟨by simp [find?], rfl⟩
        | cons next rest =>
          obtain ⟨below, hlookup, hbelow⟩ := h.below
          rw [hlookup, Option.getD_some] at hnew
          obtain ⟨hoctets, hdirectory⟩ := ih hbelow others
          rw [octetsAt?, octetsAt?, hasDirectory, hasDirectory, hnew, find?_of_lookup hlookup]
          exact ⟨by simpa [octetsAt?] using hoctets, hdirectory⟩
      · have hother : first :: others ≠ name :: rest := fun heq => hfirst (List.cons.inj heq).1
        rw [octetsAt?, octetsAt?, hasDirectory, hasDirectory, find?_put_of_ne hfirst,
          if_neg hother]
        exact ⟨rfl, rfl⟩

/-- The place that writing to a path makes or replaces can hold a file. -/
theorem holds_of_target {directory : List String} {path : String}
    (h : t.target directory path = .ok names) : t.Holds names := by
  have hchecked : ∃ parent name, t.hasDirectory parent = true ∧
      t.hasDirectory (parent ++ [name]) = false ∧ parent ++ [name] = names := by
    -- Each check that fails ends with a fault, so all of them have been passed.
    unfold target at h
    simp only [bind, Except.bind, pure, Except.pure, throw, throwThe, MonadExceptOf.throw] at h
    split at h
    · cases h
    split at h
    · cases h
    split at h
    · cases h
    split at h
    · cases h
    rename_i parent _
    split at h
    · cases h
    rename_i name _
    split at h
    · cases h
    rename_i hparent
    split at h
    · cases h
    split at h
    · cases h
    split at h
    · cases h
    rename_i hfree
    exact ⟨parent, name, by simpa using hparent, by simpa using hfree, Except.ok.inj h⟩
  obtain ⟨parent, name, hparent, hfree, rfl⟩ := hchecked
  exact ⟨by simp, by rwa [List.dropLast_concat], hfree⟩

end Put

end Diagnostics.FileTree
