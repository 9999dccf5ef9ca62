import ChatPanel.Text.Blank
import Mathlib.Data.List.Basic
import Mathlib.Data.List.TakeWhile
import Mathlib.Tactic.Lemma

/-!
# What trimming leaves

Trimming drops blank characters from the front and then from the back.  A text vanishes under it
exactly when it has no other characters (`trim_eq_empty_iff`), which is the guard of every place that
refuses a blank text.

What is left of any other text is its *core*: the text between its first and its last character that
is not blank, with whatever stands between them.

* `IsCoreOf` — this said without a way of finding it.
* **`isCoreOf_iff`** — trimming finds the core, and a text that has one has no other.
* `IsCoreOf.self` — a core is its own core, so that to trim a second time changes nothing.
-/

namespace ChatPanel.Text

/-! ## Nothing -/

lemma trimChars_eq_nil_iff {text : List Char} :
    trimChars text = [] ↔ ∀ c ∈ text, isBlank c = true := by
  rw [trimChars, List.reverse_eq_nil_iff, List.dropWhile_eq_nil_iff]
  constructor
  · intro hrest c hc
    -- a character is dropped from the front, or it is among the rest
    rw [← List.takeWhile_append_dropWhile (p := isBlank) (l := text), List.mem_append] at hc
    rcases hc with hfront | hback
    · exact List.mem_takeWhile_imp hfront
    · exact hrest c (List.mem_reverse.mpr hback)
  · intro hall c hc
    exact hall c ((List.dropWhile_sublist isBlank).mem (List.mem_reverse.mp hc))

/-- **Trimming leaves nothing of a text exactly when all of it is blank.** -/
lemma trim_eq_empty_iff {text : String} :
    trim text = "" ↔ ∀ c ∈ text.toList, isBlank c = true := by
  rw [trim, ← trimChars_eq_nil_iff, String.ofList_eq_empty_iff]

/-- Something is left exactly when some character is not blank. -/
lemma trim_ne_empty_iff {text : String} :
    trim text ≠ "" ↔ ∃ c ∈ text.toList, isBlank c = false := by
  simp only [ne_eq, trim_eq_empty_iff, not_forall, exists_prop, Bool.not_eq_true]

/-! ## The core -/

/-- The text is the core of a raw one: of the raw text nothing but blank characters at the two ends
is missing, and the text itself neither begins nor ends with one. -/
structure IsCoreOf (text raw : String) : Prop where
  exists_ends : ∃ left right : String, raw = left ++ text ++ right ∧
    (∀ c ∈ left.toList, isBlank c = true) ∧ ∀ c ∈ right.toList, isBlank c = true
  head : ∃ c, text.toList.head? = some c ∧ isBlank c = false
  last : ∃ c, text.toList.getLast? = some c ∧ isBlank c = false

/-- Dropping blank characters from the front stops at the first other one. -/
lemma dropWhile_blank_append {left text : List Char} (hleft : ∀ c ∈ left, isBlank c = true)
    (hhead : ∃ c, text.head? = some c ∧ isBlank c = false) :
    (left ++ text).dropWhile isBlank = text := by
  obtain ⟨c, hc, hblank⟩ := hhead
  obtain ⟨rest, rfl⟩ := List.head?_eq_some_iff.mp hc
  rw [List.dropWhile_append_of_pos hleft, List.dropWhile_cons_of_neg (by simp [hblank])]

/-- Where dropping from the front stops, if it stops at all, is no blank character. -/
lemma head?_dropWhile_blank {text : List Char} (h : text.dropWhile isBlank ≠ []) :
    ∃ c, (text.dropWhile isBlank).head? = some c ∧ isBlank c = false := by
  obtain ⟨c, rest, hcons⟩ := List.exists_cons_of_ne_nil h
  have hstop := List.head?_dropWhile_not isBlank text
  rw [hcons] at hstop ⊢
  exact ⟨c, rfl, hstop⟩

/-- Trimming finds a core, if there is one. -/
lemma trimChars_eq_of_ends {left text right : List Char} (hleft : ∀ c ∈ left, isBlank c = true)
    (hright : ∀ c ∈ right, isBlank c = true)
    (hhead : ∃ c, text.head? = some c ∧ isBlank c = false)
    (hlast : ∃ c, text.getLast? = some c ∧ isBlank c = false) :
    trimChars (left ++ (text ++ right)) = text := by
  have hfront : ∃ c, (text ++ right).head? = some c ∧ isBlank c = false := by
    obtain ⟨c, hc, hblank⟩ := hhead
    exact ⟨c, by simp [hc], hblank⟩
  have hback : ∃ c, text.reverse.head? = some c ∧ isBlank c = false := by
    rwa [List.head?_reverse]
  rw [trimChars, dropWhile_blank_append hleft hfront, List.reverse_append,
    dropWhile_blank_append (by simpa using hright) hback, List.reverse_reverse]

/-- Trimming drops blank characters from the back of what it left at the front. -/
lemma dropWhile_blank_eq_trimChars_append (raw : List Char) :
    ∃ right, raw.dropWhile isBlank = trimChars raw ++ right ∧ ∀ c ∈ right, isBlank c = true := by
  refine ⟨((raw.dropWhile isBlank).reverse.takeWhile isBlank).reverse, ?_, fun c hc => ?_⟩
  · rw [trimChars, ← List.reverse_append, List.takeWhile_append_dropWhile, List.reverse_reverse]
  · exact List.mem_takeWhile_imp (List.mem_reverse.mp hc)

lemma head?_trimChars {raw : List Char} (h : trimChars raw ≠ []) :
    ∃ c, (trimChars raw).head? = some c ∧ isBlank c = false := by
  obtain ⟨right, hrest, -⟩ := dropWhile_blank_eq_trimChars_append raw
  have hhead : (raw.dropWhile isBlank).head? = (trimChars raw).head? := by
    rw [hrest, List.head?_append_of_ne_nil _ h]
  rw [← hhead]
  apply head?_dropWhile_blank
  simp [hrest, h]

lemma getLast?_trimChars {raw : List Char} (h : trimChars raw ≠ []) :
    ∃ c, (trimChars raw).getLast? = some c ∧ isBlank c = false := by
  rw [trimChars, List.getLast?_reverse]
  apply head?_dropWhile_blank
  intro hnil
  exact h (by rw [trimChars, hnil]; rfl)

/-- **Trimming finds the core**, and a text that has one has no other. -/
theorem isCoreOf_iff {text raw : String} : IsCoreOf text raw ↔ text ≠ "" ∧ trim raw = text := by
  constructor
  · rintro ⟨⟨left, right, rfl, hleft, hright⟩, hhead, hlast⟩
    constructor
    · rintro rfl
      obtain ⟨c, hc, -⟩ := hhead
      simp at hc
    · rw [trim, String.toList_append, String.toList_append, List.append_assoc,
        trimChars_eq_of_ends hleft hright hhead hlast, String.ofList_toList]
  · rintro ⟨hne, rfl⟩
    have hrest : trimChars raw.toList ≠ [] := by
      intro hnil
      exact hne (by rw [trim, hnil, String.ofList_nil])
    obtain ⟨right, hback, hright⟩ := dropWhile_blank_eq_trimChars_append raw.toList
    refine ⟨⟨String.ofList (raw.toList.takeWhile isBlank), String.ofList right, ?_, ?_, ?_⟩, ?_, ?_⟩
    · rw [← String.toList_inj]
      simp only [trim, String.toList_append, String.toList_ofList, List.append_assoc, ← hback,
        List.takeWhile_append_dropWhile]
    · intro c hc
      rw [String.toList_ofList] at hc
      exact List.mem_takeWhile_imp hc
    · intro c hc
      exact hright c (by rwa [String.toList_ofList] at hc)
    · rw [trim, String.toList_ofList]
      exact head?_trimChars hrest
    · rw [trim, String.toList_ofList]
      exact getLast?_trimChars hrest

/-- A core is its own core. -/
lemma IsCoreOf.self {text raw : String} (h : IsCoreOf text raw) : IsCoreOf text text :=
  ⟨⟨"", "", by simp, by simp, by simp⟩, h.head, h.last⟩

end ChatPanel.Text
