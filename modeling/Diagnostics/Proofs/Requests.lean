import Diagnostics.Command.Request
import Diagnostics.Proofs.Results
import Mathlib.Data.List.Nodup

/-!
# Settings taken in any order

The settings of a request are taken over one after another, in an order that depends on the
arguments. Each changes its own part of the request only, so the order decides which fault is found
first but not what a request without faults comes to.
-/

namespace Diagnostics.Command

namespace Request

/-- Two requests agree on what an option or word sets. -/
def Same (a b : Request) : Param → Prop
  | .path => a.path = b.path
  | .span => a.spans = b.spans
  | .level => a.level = b.level
  | .title => a.title = b.title
  | .code => a.code = b.code
  | .note => a.notes = b.notes
  | .previousLines => a.previousLines = b.previousLines
  | .nextLines => a.nextLines = b.nextLines
  | .middleLines => a.middleLines = b.middleLines
  | .ascii => a.ascii = b.ascii
  | .color => a.color = b.color
  | .output => a.output = b.output
  | .version | .verbose | .help => True

/-- A request with what an option or word sets taken from another request. -/
def adopt (a b : Request) : Param → Request
  | .path => { b with path := a.path }
  | .span => { b with spans := a.spans }
  | .level => { b with level := a.level }
  | .title => { b with title := a.title }
  | .code => { b with code := a.code }
  | .note => { b with notes := a.notes }
  | .previousLines => { b with previousLines := a.previousLines }
  | .nextLines => { b with nextLines := a.nextLines }
  | .middleLines => { b with middleLines := a.middleLines }
  | .ascii => { b with ascii := a.ascii }
  | .color => { b with color := a.color }
  | .output => { b with output := a.output }
  | .version | .verbose | .help => b

/-- The path that arguments give, if it leads to a file. -/
def givenPath (t : FileTree) (directory : List String) (r : Reading) : Except Fault String :=
  match r.words with
  | [] => .error (.missingArgument "PATH")
  | path :: _ => (checkPath t directory path).map fun _ => path

/-- The spans that arguments give, at least one. -/
def givenSpans (r : Reading) : Except Fault (List Span) :=
  if (valuesOf .span r.events).isEmpty then .error (.missingOption "--span")
  else (valuesOf .span r.events).mapM readSpan

/-- The severity that arguments give. -/
def givenLevel (r : Reading) : Except Fault Severity :=
  ((valuesOf .level r.events).getLast?).elim (.ok .error) readLevel

/-- A request has what arguments give for an option or word. -/
def Settles (t : FileTree) (directory : List String) (r : Reading) (request : Request) :
    Param → Prop
  | .path => givenPath t directory r = .ok request.path
  | .span => givenSpans r = .ok request.spans
  | .level => givenLevel r = .ok request.level
  | .title => ((valuesOf .title r.events).getLast?).getD "" = request.title
  | .code => (valuesOf .code r.events).getLast? = request.code
  | .note => valuesOf .note r.events = request.notes
  | .previousLines =>
    readInteger "--previous-lines" .previousLines r.events = .ok request.previousLines
  | .nextLines => readInteger "--next-lines" .nextLines r.events = .ok request.nextLines
  | .middleLines => readInteger "--middle-lines" .middleLines r.events = .ok request.middleLines
  | .ascii => (lastTurn? .ascii r.events).getD false = request.ascii
  | .color => lastTurn? .color r.events = request.color
  | .output => ((valuesOf .output r.events).getLast?).getD "-" = request.output
  | .version | .verbose | .help => True

section Agreement

variable {a b c : Request} {p : Param}

/-- Requests that agree on everything are equal. -/
theorem eq_of_same (h : ∀ p, a.Same b p) : a = b := by
  have hpath : a.path = b.path := h .path
  have hspans : a.spans = b.spans := h .span
  have hlevel : a.level = b.level := h .level
  have htitle : a.title = b.title := h .title
  have hcode : a.code = b.code := h .code
  have hnotes : a.notes = b.notes := h .note
  have hprevious : a.previousLines = b.previousLines := h .previousLines
  have hnext : a.nextLines = b.nextLines := h .nextLines
  have hmiddle : a.middleLines = b.middleLines := h .middleLines
  have hascii : a.ascii = b.ascii := h .ascii
  have hcolor : a.color = b.color := h .color
  have houtput : a.output = b.output := h .output
  cases a
  cases b
  simp_all

/-- A request agrees with itself. -/
theorem Same.refl (a : Request) (p : Param) : a.Same a p := by
  cases p <;> first | rfl | trivial

/-- Agreement goes both ways. -/
theorem Same.symm (h : a.Same b p) : b.Same a p := by
  cases p <;> first | exact Eq.symm h | trivial

/-- Agreement carries over. -/
theorem Same.trans (h : a.Same b p) (h' : b.Same c p) : a.Same c p := by
  cases p <;> first | exact Eq.trans h h' | trivial

/-- Requests that agree on a setting have it both from the arguments or neither. -/
theorem Same.settles {t : FileTree} {directory : List String} {r : Reading} (h : a.Same b p)
    (hb : b.Settles t directory r p) : a.Settles t directory r p := by
  cases p <;> first | trivial | exact hb.trans (by rw [show _ = _ from h])

/-- What is adopted is that of the other request. -/
theorem adopt_same (a b : Request) (p : Param) : (a.adopt b p).Same a p := by
  cases p <;> first | rfl | trivial

/-- What is not adopted stays. -/
theorem adopt_same_of_ne (a b : Request) {p q : Param} (h : q ≠ p) : (a.adopt b p).Same b q := by
  cases p <;> cases q <;> first | exact absurd rfl h | rfl | trivial

/-- The request with one setting from elsewhere is the only one that agrees so. -/
theorem eq_adopt_iff : c = a.adopt b p ↔ c.Same a p ∧ ∀ q, q ≠ p → c.Same b q := by
  constructor
  · rintro rfl
    exact ⟨adopt_same a b p, fun q hq => adopt_same_of_ne a b hq⟩
  · rintro ⟨hsame, hothers⟩
    refine eq_of_same fun q => ?_
    by_cases hq : q = p
    · subst hq
      exact hsame.trans (adopt_same a b q).symm
    · exact (hothers q hq).trans (adopt_same_of_ne a b hq).symm

end Agreement

section Taking

variable {t : FileTree} {directory : List String} {r : Reading} {request result : Request}

/-- Setting one part of a request to a value that may not be found. -/
theorem map_eq_ok_iff {α : Type} {x : Except Fault α} {f : α → Request} (p : Param)
    (part : Request → α) (hset : ∀ v, (f v).adopt request p = f v)
    (hpart : ∀ v, result.Same (f v) p ↔ part result = v) :
    x.map f = .ok result ↔
      x = .ok (part result) ∧ ∀ q, q ≠ p → result.Same request q := by
  cases x with
  | error fault => simp [Except.map]
  | ok v =>
    rw [Except.map, Except.ok.injEq, Except.ok.injEq, eq_comm, ← hset, eq_adopt_iff, hpart,
      eq_comm (a := part result)]

/-- Setting one part of a request to a value. -/
theorem ok_eq_ok_iff {α : Type} {v : α} {f : α → Request} (p : Param)
    (part : Request → α) (hset : ∀ v, (f v).adopt request p = f v)
    (hpart : ∀ v, result.Same (f v) p ↔ part result = v) :
    (.ok (f v) : Except Fault Request) = .ok result ↔
      v = part result ∧ ∀ q, q ≠ p → result.Same request q := by
  have hvalue : (Except.ok v : Except Fault α) = .ok (part result) ↔ v = part result := by
    rw [Except.ok.injEq]
  rw [← hvalue, ← map_eq_ok_iff p part hset hpart]
  rfl

/-- Taking over a setting sets it to what the arguments give and changes nothing else. -/
theorem take_eq_ok_iff {p : Param} (hfresh : request.Same {} p) :
    Request.take t directory r request p = .ok result ↔
      result.Settles t directory r p ∧ ∀ q, q ≠ p → result.Same request q := by
  cases p with
  | path =>
    have htake : Request.take t directory r request .path =
        (givenPath t directory r).map fun path => { request with path } := by
      unfold Request.take givenPath
      cases r.words with
      | nil => rfl
      | cons path words => cases h : checkPath t directory path <;> simp [h] <;> rfl
    rw [htake]
    exact map_eq_ok_iff .path path (fun _ => rfl) fun _ => Iff.rfl
  | span =>
    have htake : Request.take t directory r request .span =
        (givenSpans r).map fun spans => { request with spans } := by
      dsimp only [Request.take, givenSpans]
      by_cases hempty : (valuesOf .span r.events).isEmpty = true
      · rw [if_pos hempty, if_pos hempty]
        rfl
      · rw [if_neg hempty, if_neg hempty]
        rfl
    rw [htake]
    exact map_eq_ok_iff .span spans (fun _ => rfl) fun _ => Iff.rfl
  | level =>
    have hlevel : request.level = .error := hfresh
    have htake : Request.take t directory r request .level =
        (givenLevel r).map fun level => { request with level } := by
      unfold Request.take givenLevel
      cases (valuesOf .level r.events).getLast? with
      | none => rw [Option.elim_none, ← hlevel]; rfl
      | some value => rfl
    rw [htake]
    exact map_eq_ok_iff .level level (fun _ => rfl) fun _ => Iff.rfl
  | title =>
    exact ok_eq_ok_iff (f := fun title => { request with title }) .title title (fun _ => rfl)
      fun _ => Iff.rfl
  | code =>
    exact ok_eq_ok_iff (f := fun code => { request with code }) .code code (fun _ => rfl)
      fun _ => Iff.rfl
  | note =>
    exact ok_eq_ok_iff (f := fun notes => { request with notes }) .note notes (fun _ => rfl)
      fun _ => Iff.rfl
  | previousLines =>
    exact map_eq_ok_iff .previousLines previousLines (fun _ => rfl) fun _ => Iff.rfl
  | nextLines => exact map_eq_ok_iff .nextLines nextLines (fun _ => rfl) fun _ => Iff.rfl
  | middleLines => exact map_eq_ok_iff .middleLines middleLines (fun _ => rfl) fun _ => Iff.rfl
  | ascii =>
    exact ok_eq_ok_iff (f := fun ascii => { request with ascii }) .ascii ascii (fun _ => rfl)
      fun _ => Iff.rfl
  | color =>
    exact ok_eq_ok_iff (f := fun color => { request with color }) .color color (fun _ => rfl)
      fun _ => Iff.rfl
  | output =>
    exact ok_eq_ok_iff (f := fun output => { request with output }) .output output (fun _ => rfl)
      fun _ => Iff.rfl
  -- The others set nothing, so the request is kept as it is.
  | version =>
    rw [Request.take, Except.ok.injEq, eq_comm]
    exact eq_adopt_iff (a := request) (p := .version)
  | verbose =>
    rw [Request.take, Except.ok.injEq, eq_comm]
    exact eq_adopt_iff (a := request) (p := .verbose)
  | help =>
    rw [Request.take, Except.ok.injEq, eq_comm]
    exact eq_adopt_iff (a := request) (p := .help)

/-- Taking over several settings, each once, sets each to what the arguments give and changes
nothing else. -/
theorem foldlM_take_eq_ok_iff {ps : List Param} (hnodup : ps.Nodup)
    (hfresh : ∀ p ∈ ps, request.Same {} p) :
    ps.foldlM (Request.take t directory r) request = .ok result ↔
      (∀ p ∈ ps, result.Settles t directory r p) ∧ ∀ q, q ∉ ps → result.Same request q := by
  induction ps generalizing request with
  | nil =>
    constructor
    · intro h
      obtain rfl : request = result := Except.ok.inj h
      exact ⟨fun p hp => absurd hp List.not_mem_nil, fun q _ => Same.refl request q⟩
    · rintro ⟨-, hsame⟩
      rw [eq_of_same fun q => hsame q List.not_mem_nil]
      rfl
  | cons p ps ih =>
    rw [List.nodup_cons] at hnodup
    rw [List.forall_mem_cons] at hfresh
    -- The setting taken first is kept by the others, which are fresh after it.
    have hlater : ∀ middle : Request, (∀ q, q ≠ p → middle.Same request q) →
        (ps.foldlM (Request.take t directory r) middle = .ok result ↔
          (∀ q ∈ ps, result.Settles t directory r q) ∧ ∀ q, q ∉ ps → result.Same middle q) := by
      intro middle hothers
      refine ih hnodup.2 fun q hq => ?_
      have hne : q ≠ p := fun heq => hnodup.1 (heq ▸ hq)
      exact (hothers q hne).trans (hfresh.2 q hq)
    rw [List.foldlM_cons, List.forall_mem_cons]
    constructor
    · intro h
      obtain ⟨middle, hmiddle, h⟩ := exists_of_bind_eq_ok h
      obtain ⟨hsettles, hothers⟩ := (take_eq_ok_iff hfresh.1).mp hmiddle
      obtain ⟨hrest, hkept⟩ := (hlater middle hothers).mp h
      refine ⟨⟨(hkept p hnodup.1).settles hsettles, hrest⟩, fun q hq => ?_⟩
      rw [List.mem_cons, not_or] at hq
      exact (hkept q hq.2).trans (hothers q hq.1)
    · rintro ⟨⟨hsettles, hrest⟩, hkept⟩
      have hothers : ∀ q, q ≠ p → (result.adopt request p).Same request q := fun q hq =>
        adopt_same_of_ne result request hq
      have hmiddle : Request.take t directory r request p = .ok (result.adopt request p) :=
        (take_eq_ok_iff hfresh.1).mpr ⟨(adopt_same result request p).settles hsettles, hothers⟩
      rw [hmiddle]
      refine (hlater _ hothers).mpr ⟨hrest, fun q hq => ?_⟩
      by_cases hqp : q = p
      · subst hqp
        exact (adopt_same result request q).symm
      · have hq' : q ∉ p :: ps := by
          rw [List.mem_cons, not_or]
          exact ⟨hqp, hq⟩
        exact (hkept q hq').trans (hothers q hqp).symm

/-- In a list without its repetitions, nothing is repeated. -/
theorem nodup_eraseDups (ps : List Param) : ps.eraseDups.Nodup := by
  cases ps with
  | nil => exact List.nodup_nil
  | cons p ps =>
    rw [List.eraseDups_cons, List.nodup_cons]
    refine ⟨fun hmem => ?_, nodup_eraseDups _⟩
    rw [List.mem_eraseDups, List.mem_filter] at hmem
    simp at hmem
termination_by ps.length
decreasing_by exact Nat.lt_succ_of_le (List.length_filter_le _ _)

/-- Arguments stand for a request exactly if each of its settings is what they give and they have no
word but the path. So the order of the options does not matter. -/
theorem ofReading_eq_ok_iff :
    Request.ofReading t directory r = .ok result ↔
      (∀ p, result.Settles t directory r p) ∧ r.words.drop 1 = [] := by
  have hall : ∀ p, p ∈ checkingOrder r.events ∨ p = .version ∨ p = .verbose ∨ p = .help := by
    intro p
    rw [checkingOrder, List.mem_eraseDups, List.mem_append]
    cases p <;> simp [renderParams]
  have hsettled : (checkingOrder r.events).foldlM (Request.take t directory r) {} = .ok result ↔
      ∀ p, result.Settles t directory r p := by
    have hnodup : (checkingOrder r.events).Nodup := nodup_eraseDups _
    rw [foldlM_take_eq_ok_iff hnodup fun p _ => Same.refl {} p]
    constructor
    · rintro ⟨hsettles, -⟩ p
      rcases hall p with hp | rfl | rfl | rfl
      · exact hsettles p hp
      · trivial
      · trivial
      · trivial
    · intro hsettles
      refine ⟨fun p _ => hsettles p, fun q hq => ?_⟩
      rcases hall q with hq' | rfl | rfl | rfl
      · exact absurd hq' hq
      · trivial
      · trivial
      · trivial
  rw [← hsettled, Request.ofReading]
  cases (checkingOrder r.events).foldlM (Request.take t directory r) {} with
  | error fault =>
    constructor
    · intro h
      cases h
    · rintro ⟨h, -⟩
      cases h
  | ok request =>
    cases hwords : r.words.drop 1 with
    | nil => exact ⟨fun h => ⟨h, rfl⟩, fun h => h.1⟩
    | cons word words =>
      constructor
      · intro h
        cases h
      · rintro ⟨-, h⟩
        cases h

end Taking

end Request

end Diagnostics.Command
