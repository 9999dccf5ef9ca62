import ChatPanel.Text.Lines
import Mathlib.Data.List.Basic
import Mathlib.Tactic.Lemma

/-!
# Lines are what stands between the breaks

Splitting a text into lines forgets which breaks stood between them, and keeps all the rest.  Seen
from the other side, a text is written by putting breaks between lines (`joined`), and splitting is
the inverse of that.

**One ambiguity.**  A carriage return, an empty line and a line feed are written like the one break
of two characters, and are read as that.  `WrittenAs` leaves this way of writing out, and then every
text is written from its lines and from no others.

* `linesOf_eq_iff` — the lines of a text are those from which it is written.
* `linesOf_eq_splitOn` — they are found as well by making all breaks line feeds first.
* **`lines_eq_iff_and_eq_splitOn`** — both, for texts as strings.
-/

namespace ChatPanel.Text

/-! ## Writing lines -/

/-- A line break. -/
inductive Break where
  /-- A carriage return followed by a line feed. -/
  | pair
  | carriageReturn
  | lineFeed
  deriving DecidableEq, Repr

/-- The characters of a break. -/
def Break.chars : Break → List Char
  | .pair => ['\r', '\n']
  | .carriageReturn => ['\r']
  | .lineFeed => ['\n']

/-- The lines with the breaks between them. -/
def joined : List (List Char) → List Break → List Char
  | [], _ => []
  | line :: _, [] => line
  | line :: lines, b :: breaks => line ++ (b.chars ++ joined lines breaks)

/-- No character of a line breaks it. -/
def IsLine (line : List Char) : Prop :=
  '\r' ∉ line ∧ '\n' ∉ line

/-- A carriage return alone and a line feed have more between them than an empty line. -/
def Apart (lines : List (List Char)) (breaks : List Break) : Prop :=
  ∀ i, breaks[i]? = some .carriageReturn → lines[i + 1]? = some [] →
    breaks[i + 1]? ≠ some .lineFeed

/-- The text is written from these lines, with these breaks between them. -/
structure WrittenAs (lines : List (List Char)) (breaks : List Break) (text : List Char) :
    Prop where
  length_eq : lines.length = breaks.length + 1
  isLine : ∀ line ∈ lines, IsLine line
  apart : Apart lines breaks
  text_eq : text = joined lines breaks

lemma apart_cons_iff {line : List Char} {lines : List (List Char)} {b : Break}
    {breaks : List Break} :
    Apart (line :: lines) (b :: breaks) ↔
      (b = .carriageReturn → lines.head? = some [] → breaks.head? ≠ some .lineFeed) ∧
        Apart lines breaks := by
  constructor
  · intro h
    exact ⟨by simpa [List.head?_eq_getElem?] using h 0, fun i => h (i + 1)⟩
  · rintro ⟨hfirst, hrest⟩ (_ | i)
    · simpa [List.head?_eq_getElem?] using hfirst
    · exact hrest i

/-- Only a line feed starts like one, and only behind an empty line. -/
lemma head?_joined_eq_lineFeed {lines : List (List Char)} {breaks : List Break}
    (hlines : ∀ line ∈ lines, IsLine line) :
    (joined lines breaks).head? = some '\n' →
      lines.head? = some [] ∧ breaks.head? = some .lineFeed := by
  match lines, breaks with
  | [], _ => simp [joined]
  | (c :: line) :: lines, breaks =>
      intro h
      have hc : c = '\n' := by cases breaks <;> simpa [joined] using h
      simp [IsLine, hc] at hlines
  | [] :: lines, [] => simp [joined]
  | [] :: lines, b :: breaks => cases b <;> simp [joined, Break.chars]

/-! ## Splitting what was written -/

lemma consLine_of_ne_nil {c : Char} {lines : List (List Char)} (h : lines ≠ []) :
    consLine c lines = lines.modifyHead (c :: ·) := by
  cases lines with
  | nil => exact absurd rfl h
  | cons line lines => rfl

lemma linesOf_ne_nil (text : List Char) : linesOf text ≠ [] := by
  fun_induction linesOf text <;> simp_all [consLine_of_ne_nil]

lemma linesOf_pair (rest : List Char) : linesOf ('\r' :: '\n' :: rest) = [] :: linesOf rest := by
  simp [linesOf]

lemma linesOf_carriageReturn {rest : List Char} (h : rest.head? ≠ some '\n') :
    linesOf ('\r' :: rest) = [] :: linesOf rest := by
  rw [linesOf]
  rintro behind rfl
  exact h rfl

lemma head?_ne_lineFeed {rest : List Char} (h : ∀ behind, rest = '\n' :: behind → False) :
    rest.head? ≠ some '\n' := by
  intro hfeed
  obtain ⟨behind, hrest⟩ := List.head?_eq_some_iff.mp hfeed
  exact h behind hrest

lemma linesOf_lineFeed (rest : List Char) : linesOf ('\n' :: rest) = [] :: linesOf rest := by
  simp [linesOf]

lemma linesOf_cons {c : Char} (hreturn : c ≠ '\r') (hfeed : c ≠ '\n') (rest : List Char) :
    linesOf (c :: rest) = (linesOf rest).modifyHead (c :: ·) := by
  rw [linesOf, consLine_of_ne_nil (linesOf_ne_nil rest)]
  all_goals simp [hreturn, hfeed]

/-- A line without breaks goes in front of the first line. -/
lemma linesOf_append {line : List Char} (h : IsLine line) (rest : List Char) :
    linesOf (line ++ rest) = (linesOf rest).modifyHead (line ++ ·) := by
  induction line with
  | nil => cases hrest : linesOf rest <;> simp [hrest]
  | cons c line ih =>
      obtain ⟨⟨hreturn, hline⟩, hfeed, hline'⟩ :
          (c ≠ '\r' ∧ '\r' ∉ line) ∧ c ≠ '\n' ∧ '\n' ∉ line := by
        simpa [IsLine, eq_comm] using h
      rw [List.cons_append, linesOf_cons hreturn hfeed, ih ⟨hline, hline'⟩,
        List.modifyHead_modifyHead]
      rfl

/-- A break ends a line, whichever break it is. -/
lemma linesOf_break {b : Break} {rest : List Char}
    (h : b = .carriageReturn → rest.head? ≠ some '\n') :
    linesOf (b.chars ++ rest) = [] :: linesOf rest := by
  cases b with
  | pair => exact linesOf_pair rest
  | carriageReturn => exact linesOf_carriageReturn (h rfl)
  | lineFeed => exact linesOf_lineFeed rest

/-- **Splitting undoes writing.** -/
theorem linesOf_of_writtenAs {lines : List (List Char)} {breaks : List Break} {text : List Char}
    (h : WrittenAs lines breaks text) : linesOf text = lines := by
  obtain ⟨hlength, hlines, hapart, rfl⟩ := h
  induction breaks generalizing lines with
  | nil =>
      obtain ⟨line, rfl⟩ := List.length_eq_one_iff.mp hlength
      have hline := linesOf_append (hlines line (by simp)) []
      simpa [joined, linesOf] using hline
  | cons b breaks ih =>
      match lines with
      | line :: lines =>
          obtain ⟨hline, hlines⟩ := List.forall_mem_cons.mp hlines
          obtain ⟨hfirst, hrest⟩ := apart_cons_iff.mp hapart
          have hbreak : b = .carriageReturn → (joined lines breaks).head? ≠ some '\n' := by
            intro hb hfeed
            obtain ⟨hempty, hnext⟩ := head?_joined_eq_lineFeed hlines hfeed
            exact hfirst hb hempty hnext
          rw [joined, linesOf_append hline, linesOf_break hbreak,
            ih (by simpa using hlength) hlines hrest]
          simp

/-! ## Every text is written -/

/-- One more line in front, and the break behind it. -/
lemma WrittenAs.cons {lines : List (List Char)} {breaks : List Break} {text : List Char}
    (h : WrittenAs lines breaks text) {b : Break}
    (hb : b = .carriageReturn → text.head? ≠ some '\n') :
    WrittenAs ([] :: lines) (b :: breaks) (b.chars ++ text) where
  length_eq := by simpa using h.length_eq
  isLine := by simpa [IsLine] using h.isLine
  apart := by
    refine apart_cons_iff.mpr ⟨fun hreturn hempty hfeed => ?_, h.apart⟩
    have htext := h.text_eq
    match lines, breaks with
    | line :: lines, b' :: breaks =>
        cases hempty
        cases hfeed
        exact hb hreturn (by simp [htext, joined, Break.chars])
  text_eq := by simp [joined, h.text_eq]

/-- One more character in the first line. -/
lemma WrittenAs.cons_char {lines : List (List Char)} {breaks : List Break} {text : List Char}
    (h : WrittenAs lines breaks text) {c : Char} (hreturn : c ≠ '\r') (hfeed : c ≠ '\n') :
    WrittenAs (lines.modifyHead (c :: ·)) breaks (c :: text) := by
  obtain ⟨hlength, hlines, hapart, rfl⟩ := h
  match lines with
  | line :: lines =>
      refine ⟨hlength, ?_, hapart, by cases breaks <;> rfl⟩
      simpa [IsLine, hreturn.symm, hfeed.symm] using hlines

/-- **Every text is written from its lines.** -/
theorem exists_writtenAs_linesOf (text : List Char) :
    ∃ breaks, WrittenAs (linesOf text) breaks text := by
  fun_induction linesOf text with
  | case1 => exact ⟨[], rfl, by simp [IsLine], by simp [Apart], rfl⟩
  | case2 rest ih =>
      obtain ⟨breaks, h⟩ := ih
      exact ⟨.pair :: breaks, h.cons (by simp)⟩
  | case3 rest hnot ih =>
      obtain ⟨breaks, h⟩ := ih
      exact ⟨.carriageReturn :: breaks, h.cons fun _ => head?_ne_lineFeed hnot⟩
  | case4 rest ih =>
      obtain ⟨breaks, h⟩ := ih
      exact ⟨.lineFeed :: breaks, h.cons (by simp)⟩
  | case5 c rest _ hreturn hfeed ih =>
      obtain ⟨breaks, h⟩ := ih
      rw [consLine_of_ne_nil (linesOf_ne_nil rest)]
      exact ⟨breaks, h.cons_char hreturn hfeed⟩

/-- **The lines of a text are those from which it is written**, and no others are. -/
theorem linesOf_eq_iff {text : List Char} {lines : List (List Char)} :
    linesOf text = lines ↔ ∃ breaks, WrittenAs lines breaks text := by
  constructor
  · rintro rfl
    exact exists_writtenAs_linesOf text
  · rintro ⟨breaks, h⟩
    exact linesOf_of_writtenAs h

/-! ## Making all breaks line feeds -/

/-- The text with `new` in every place where `old` stands, found from the left. -/
def replaced (old new : List Char) : List Char → List Char
  | [] => []
  | c :: rest =>
    if old.isPrefixOf (c :: rest) then new ++ replaced old new (rest.drop (old.length - 1))
    else c :: replaced old new rest
termination_by text => text.length
decreasing_by
  · simp only [List.length_drop, List.length_cons]
    omega
  · simp

/-- The text with line feeds for all its breaks. -/
def withLineFeeds (text : List Char) : List Char :=
  replaced ['\r'] ['\n'] (replaced ['\r', '\n'] ['\n'] text)

@[simp] lemma withLineFeeds_nil : withLineFeeds [] = [] := by
  simp [withLineFeeds, replaced]

lemma withLineFeeds_pair (rest : List Char) :
    withLineFeeds ('\r' :: '\n' :: rest) = '\n' :: withLineFeeds rest := by
  simp [withLineFeeds, replaced]

lemma withLineFeeds_carriageReturn {rest : List Char} (h : rest.head? ≠ some '\n') :
    withLineFeeds ('\r' :: rest) = '\n' :: withLineFeeds rest := by
  cases rest with
  | nil => simp [withLineFeeds, replaced]
  | cons c rest =>
      have hc : '\n' ≠ c := by simpa [eq_comm] using h
      rw [withLineFeeds, replaced]
      simp [hc, withLineFeeds, replaced]

lemma withLineFeeds_cons {c : Char} (h : c ≠ '\r') (rest : List Char) :
    withLineFeeds (c :: rest) = c :: withLineFeeds rest := by
  simp [withLineFeeds, replaced, h.symm]

/-- **The lines are found by making all breaks line feeds**, and splitting at these. -/
theorem linesOf_eq_splitOn (text : List Char) :
    linesOf text = (withLineFeeds text).splitOn '\n' := by
  fun_induction linesOf text with
  | case1 => simp
  | case2 rest ih => simp [withLineFeeds_pair, List.splitOn_cons_eq_if_modifyHead, ih]
  | case3 rest hnot ih =>
      simp [withLineFeeds_carriageReturn (head?_ne_lineFeed hnot),
        List.splitOn_cons_eq_if_modifyHead, ih]
  | case4 rest ih =>
      simp [withLineFeeds_cons, List.splitOn_cons_eq_if_modifyHead, ih]
  | case5 c rest _ hreturn hfeed ih =>
      have hc : ¬ c = '\n' := hfeed
      rw [consLine_of_ne_nil (linesOf_ne_nil rest), withLineFeeds_cons hreturn,
        List.splitOn_cons_eq_if_modifyHead, ih]
      simp [hc]

/-! ## The lines of a text -/

/-- **Splitting into lines is the inverse of writing them.**  The lines of a text are the only ones
from which it is written, with some breaks between them, and they are what stands between the line
feeds once every break is one. -/
theorem lines_eq_iff_and_eq_splitOn (text : String) :
    (∀ ls : List String,
      lines text = ls ↔ ∃ breaks, WrittenAs (ls.map String.toList) breaks text.toList) ∧
    lines text = ((withLineFeeds text.toList).splitOn '\n').map String.ofList := by
  refine ⟨fun ls => ?_, by rw [lines, linesOf_eq_splitOn]⟩
  have hchars : lines text = ls ↔ linesOf text.toList = ls.map String.toList := by
    rw [lines]
    constructor
    · rintro rfl
      simp
    · intro h
      simp [h]
  rw [hchars, linesOf_eq_iff]

end ChatPanel.Text
