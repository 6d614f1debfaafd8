import Diagnostics.Proofs.Prefixes

/-!
# Lines of a source

Each line of a text stands between what is before it and what is behind it. This file shows that
every line number up to the number of line feeds plus one has such a decomposition, that every
place in the text lies on one, and that the tables of a source hold exactly its parts.
-/

namespace Diagnostics

/-- Line number `line` of some characters is `text`, which stands between `before` and `behind`.
The line feed that ends the line, if there is one, is the first character behind it. -/
structure LineAt (cs : List Char) (line : ℕ) (before text behind : List Char) : Prop where
  split : cs = before ++ text ++ behind
  number : line = 1 + before.count '\n'
  opens : before = [] ∨ before.getLast? = some '\n'
  unbroken : '\n' ∉ text
  closes : behind = [] ∨ behind.head? = some '\n'

namespace LineAt

/-- What a text ends with behind its last line feed has no line feed. -/
theorem feed_notMem_rtakeWhile (front : List Char) : '\n' ∉ front.rtakeWhile (· ≠ '\n') := by
  intro hmem
  simpa using List.mem_rtakeWhile_imp hmem

/-- Any cut of a text lies on a line: what the front ends with and what the back begins with, as
far as the nearest line feeds, is the text of that line. -/
theorem of_cut (front back : List Char) :
    LineAt (front ++ back) (Position.after front).line (front.rdropWhile (· ≠ '\n'))
      (front.rtakeWhile (· ≠ '\n') ++ back.takeWhile (· ≠ '\n'))
      (back.dropWhile (· ≠ '\n')) := by
  have hfront : front.rdropWhile (· ≠ '\n') ++ front.rtakeWhile (· ≠ '\n') = front :=
    List.rdropWhile_append_rtakeWhile
  have hback : back.takeWhile (· ≠ '\n') ++ back.dropWhile (· ≠ '\n') = back :=
    List.takeWhile_append_dropWhile
  constructor
  · rw [List.append_assoc, List.append_assoc, hback, ← List.append_assoc, hfront]
  · have hcount := List.count_eq_zero.mpr (feed_notMem_rtakeWhile front)
    conv_lhs => rw [Position.after, ← hfront, List.count_append, hcount, Nat.add_zero]
  · by_cases hnil : front.rdropWhile (· ≠ '\n') = []
    · exact Or.inl hnil
    · have hlast := List.rdropWhile_last_not _ front hnil
      right
      rw [List.getLast?_eq_some_getLast hnil]
      simpa using hlast
  · intro hmem
    rcases List.mem_append.mp hmem with hmem | hmem
    · exact feed_notMem_rtakeWhile front hmem
    · simpa using List.mem_takeWhile_imp hmem
  · have hhead := List.head?_dropWhile_not (fun c : Char => decide (c ≠ '\n')) back
    cases hdrop : back.dropWhile (· ≠ '\n') with
    | nil => exact Or.inl rfl
    | cons c cs =>
      rw [hdrop, List.head?_cons] at hhead
      right
      simpa using hhead

/-- A text has a prefix with each number of line feeds up to its own. -/
theorem exists_take_count_eq {cs : List Char} {n : ℕ} (hn : n ≤ cs.count '\n') :
    ∃ k, (cs.take k).count '\n' = n := by
  induction cs generalizing n with
  | nil => exact ⟨0, by simpa [eq_comm] using hn⟩
  | cons c cs ih =>
    cases n with
    | zero => exact ⟨0, by simp⟩
    | succ n =>
      by_cases hc : c = '\n'
      · subst hc
        obtain ⟨k, hk⟩ := ih (n := n) (by simpa using hn)
        exact ⟨k + 1, by simp [hk]⟩
      · obtain ⟨k, hk⟩ := ih (n := n + 1) (by simpa [hc] using hn)
        exact ⟨k + 1, by simp [hc, hk]⟩

/-- Every line number from one to the number of line feeds plus one belongs to a line. -/
theorem exists_of_le {cs : List Char} {line : ℕ} (hone : 1 ≤ line)
    (hline : line ≤ 1 + cs.count '\n') :
    ∃ before text behind, LineAt cs line before text behind := by
  have hcount : line - 1 ≤ cs.count '\n' := by omega
  obtain ⟨k, hk⟩ := exists_take_count_eq hcount
  have hcut := of_cut (cs.take k) (cs.drop k)
  have hnumber : (Position.after (cs.take k)).line = line := by
    change 1 + (cs.take k).count '\n' = line
    omega
  rw [List.take_append_drop, hnumber] at hcut
  exact ⟨_, _, _, hcut⟩

end LineAt

namespace Source

/-- The line feeds of two texts in a row are those of the first and, shifted, of the second. -/
theorem feedsFrom_append (offset : ℕ) (left right : List Char) :
    feedsFrom offset (left ++ right) =
      feedsFrom offset left ++ feedsFrom (offset + octetCount left) right := by
  induction left generalizing offset with
  | nil => simp [feedsFrom, octetCount]
  | cons c cs ih =>
    by_cases hc : c = '\n' <;> simp [feedsFrom, hc, ih, octetCount, Nat.add_assoc]

/-- There is one entry for each line feed. -/
@[simp] theorem length_feedsFrom (offset : ℕ) (cs : List Char) :
    (feedsFrom offset cs).length = cs.count '\n' := by
  induction cs generalizing offset with
  | nil => simp [feedsFrom]
  | cons c cs ih => by_cases hc : c = '\n' <;> simp [feedsFrom, hc, ih]

/-- Line feeds lie within the octets of the text. -/
theorem mem_feedsFrom {offset feed : ℕ} {cs : List Char} (h : feed ∈ feedsFrom offset cs) :
    offset ≤ feed ∧ feed < offset + octetCount cs := by
  induction cs generalizing offset with
  | nil => simp [feedsFrom] at h
  | cons c cs ih =>
    have hsize := c.utf8Size_pos
    by_cases hc : c = '\n'
    · simp only [feedsFrom, if_pos hc, List.mem_cons] at h
      rcases h with rfl | h
      · simp only [octetCount]
        omega
      · have := ih h
        simp only [octetCount]
        omega
    · simp only [feedsFrom, if_neg hc] at h
      have := ih h
      simp only [octetCount]
      omega

/-- A text without line feeds has no entry. -/
theorem feedsFrom_of_unbroken {offset : ℕ} {text : List Char} (h : '\n' ∉ text) :
    feedsFrom offset text = [] := by
  rw [← List.length_eq_zero_iff, length_feedsFrom, List.count_eq_zero]
  exact h

/-- Cutting at line feeds leaves at least one piece. -/
theorem cutAtFeeds_ne_nil (cs : List Char) : cutAtFeeds cs ≠ [] := by
  cases cs with
  | nil => simp [cutAtFeeds]
  | cons c cs =>
    by_cases hc : c = '\n'
    · simp [cutAtFeeds, hc]
    · rw [cutAtFeeds, if_neg hc]
      cases cutAtFeeds cs <;> simp [Text.consFirst]

/-- A line feed between two texts keeps their lines apart. -/
theorem cutAtFeeds_append_feed (left right : List Char) :
    cutAtFeeds (left ++ '\n' :: right) = cutAtFeeds left ++ cutAtFeeds right := by
  induction left with
  | nil => simp [cutAtFeeds]
  | cons c cs ih =>
    by_cases hc : c = '\n'
    · simp [cutAtFeeds, hc, ih]
    · obtain ⟨first, rest, hcut⟩ := List.exists_cons_of_ne_nil (cutAtFeeds_ne_nil cs)
      simp [cutAtFeeds, hc, ih, hcut, Text.consFirst]

/-- A text without line feeds is a single line. -/
theorem cutAtFeeds_of_unbroken {text : List Char} (h : '\n' ∉ text) : cutAtFeeds text = [text] := by
  induction text with
  | nil => rfl
  | cons c cs ih =>
    simp only [List.mem_cons, not_or] at h
    rw [cutAtFeeds, if_neg (Ne.symm h.1), ih h.2, Text.consFirst]

/-- There is one line more than there are line feeds. -/
@[simp] theorem length_cutAtFeeds (cs : List Char) :
    (cutAtFeeds cs).length = cs.count '\n' + 1 := by
  induction cs with
  | nil => rfl
  | cons c cs ih =>
    by_cases hc : c = '\n'
    · simp [cutAtFeeds, hc, ih]
    · obtain ⟨first, rest, hcut⟩ := List.exists_cons_of_ne_nil (cutAtFeeds_ne_nil cs)
      rw [hcut] at ih
      simpa [cutAtFeeds, hc, hcut, Text.consFirst] using ih

/-- The number of lines is one more than the number of line feeds. -/
theorem lineCount_eq (source : Source) : source.lineCount = 1 + source.chars.count '\n' := by
  rw [lineCount, lineFeeds, length_feedsFrom, Nat.add_comm]

end Source

namespace LineAt

open Source

variable {cs before text behind : List Char} {line : ℕ}

/-- The table of beginnings holds the number of octets before a line. -/
theorem starts_getElem? (h : LineAt cs line before text behind) :
    (0 :: (feedsFrom 0 cs).map (· + 1))[line - 1]? = some (octetCount before) := by
  have hindex : line - 1 = before.count '\n' := by rw [h.number]; omega
  rw [hindex, h.split]
  rcases h.opens with rfl | hlast
  · simp [octetCount]
  · obtain ⟨init, rfl⟩ := List.getLast?_eq_some_iff.mp hlast
    have hsize : ('\n').utf8Size = 1 := by decide
    have hentry : (feedsFrom 0 (init ++ ['\n'] ++ text ++ behind))[init.count '\n']? =
        some (octetCount init) := by
      rw [List.append_assoc, List.append_assoc, feedsFrom_append,
        List.getElem?_append_right (by simp)]
      simp [feedsFrom]
    simp [-List.append_assoc, hentry, octetCount, hsize]

/-- The table of ends holds the number of octets up to the end of a line. -/
theorem ends_getElem? (h : LineAt cs line before text behind) :
    (feedsFrom 0 cs ++ [octetCount cs])[line - 1]? =
      some (octetCount before + octetCount text) := by
  have hindex : line - 1 = (feedsFrom 0 before).length := by
    rw [h.number, length_feedsFrom]
    omega
  rw [hindex, h.split, feedsFrom_append, feedsFrom_append, feedsFrom_of_unbroken h.unbroken]
  rcases h.closes with rfl | hhead
  · simp [feedsFrom]
  · obtain ⟨rest, rfl⟩ := List.head?_eq_some_iff.mp hhead
    simp [feedsFrom]

/-- The table of lines holds the text of a line. -/
theorem texts_getElem? (h : LineAt cs line before text behind) :
    (cutAtFeeds cs)[line - 1]? = some text := by
  have hfirst : (cutAtFeeds (text ++ behind))[0]? = some text := by
    rcases h.closes with rfl | hhead
    · simp [cutAtFeeds_of_unbroken h.unbroken]
    · obtain ⟨rest, rfl⟩ := List.head?_eq_some_iff.mp hhead
      simp [cutAtFeeds_append_feed, cutAtFeeds_of_unbroken h.unbroken]
  have hindex : line - 1 = before.count '\n' := by rw [h.number]; omega
  rw [hindex, h.split]
  rcases h.opens with rfl | hlast
  · simpa using hfirst
  · obtain ⟨init, rfl⟩ := List.getLast?_eq_some_iff.mp hlast
    have hlength : init.count '\n' + 1 = (cutAtFeeds init).length := by simp
    have hcut : init ++ ['\n'] ++ text ++ behind = init ++ '\n' :: (text ++ behind) := by simp
    rw [List.count_append, List.count_singleton_self, hlength, hcut, cutAtFeeds_append_feed,
      List.getElem?_append_right le_rfl, Nat.sub_self, hfirst]

end LineAt

end Diagnostics
