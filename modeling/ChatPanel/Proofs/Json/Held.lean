import ChatPanel.Proofs.Json.Magnitude
import ChatPanel.Proofs.Json.Values

/-!
# Which values can be held

A value that nobody asked for is held before it is dropped, and not every value can be.  The reader asks
along the tree (`Value.fits`).  Here its questions are sorted by what they are about: the nesting of the
brackets, the numerals, and the strings, wherever in the value they stand.

* `Value.CanBeHeld` — what a value must be like.  **`Value.canBeHeld_iff`** — this is what the reader
  asks.
* **`Value.WithinLimits.canBeHeld`** — a value within limits that are told without the reader is such
  a value.  In place of what the reader makes of a numeral they speak of the number that is written.
-/

namespace ChatPanel.Json

/-! ## The parts of a value -/

mutual

/-- How many brackets are open around the innermost part of a value. -/
def Value.nesting : Value → ℕ
  | .list items => Value.itemsNesting items + 1
  | .object members => Value.membersNesting members + 1
  | .null | .flag _ | .number _ | .string _ => 0

/-- The deepest nesting among the elements of a list. -/
def Value.itemsNesting : List Value → ℕ
  | [] => 0
  | item :: items => max item.nesting (Value.itemsNesting items)

/-- The deepest nesting among the members of an object. -/
def Value.membersNesting : List (Option (List Char) × Value) → ℕ
  | [] => 0
  | (_, value) :: members => max value.nesting (Value.membersNesting members)

end

mutual

/-- All numbers in a value. -/
def Value.numerals : Value → List Numeral
  | .number n => [n]
  | .list items => Value.itemsNumerals items
  | .object members => Value.membersNumerals members
  | .null | .flag _ | .string _ => []

/-- All numbers in the elements of a list. -/
def Value.itemsNumerals : List Value → List Numeral
  | [] => []
  | item :: items => item.numerals ++ Value.itemsNumerals items

/-- All numbers in the members of an object. -/
def Value.membersNumerals : List (Option (List Char) × Value) → List Numeral
  | [] => []
  | (_, value) :: members => value.numerals ++ Value.membersNumerals members

end

mutual

/-- All strings in a value, and all keys. -/
def Value.strings : Value → List (Option (List Char))
  | .string text => [text]
  | .list items => Value.itemsStrings items
  | .object members => Value.membersStrings members
  | .null | .flag _ | .number _ => []

/-- All strings and keys in the elements of a list. -/
def Value.itemsStrings : List Value → List (Option (List Char))
  | [] => []
  | item :: items => item.strings ++ Value.itemsStrings items

/-- All strings and keys in the members of an object. -/
def Value.membersStrings : List (Option (List Char) × Value) → List (Option (List Char))
  | [] => []
  | (key, value) :: members => key :: (value.strings ++ Value.membersStrings members)

end

/-! ## What the reader asks -/

/-- All the numerals are numbers, and all the strings are texts. -/
def AllLegible (numerals : List Numeral) (strings : List (Option (List Char))) : Prop :=
  (∀ n ∈ numerals, n.value.isOk = true) ∧ ∀ text ∈ strings, text.isSome = true

lemma allLegible_append {numerals numerals' : List Numeral}
    {strings strings' : List (Option (List Char))} :
    AllLegible (numerals ++ numerals') (strings ++ strings') ↔
      AllLegible numerals strings ∧ AllLegible numerals' strings' := by
  simp only [AllLegible, List.forall_mem_append]
  tauto

/-- What two parts need to fit inside some brackets is what each of them needs. -/
lemma fits_parts_iff {depth nesting nesting' : ℕ} {numerals numerals' : List Numeral}
    {strings strings' : List (Option (List Char))} :
    (depth + nesting ≤ deepest ∧ AllLegible numerals strings) ∧
        (depth + nesting' ≤ deepest ∧ AllLegible numerals' strings') ↔
      depth + max nesting nesting' ≤ deepest ∧
        AllLegible (numerals ++ numerals') (strings ++ strings') := by
  have hmax : depth + max nesting nesting' ≤ deepest ↔
      depth + nesting ≤ deepest ∧ depth + nesting' ≤ deepest := by omega
  rw [allLegible_append, hmax]
  tauto

/-- What some parts need to fit inside one more bracket. -/
lemma fits_bracket_iff {depth nesting : ℕ} {inner legible : Prop}
    (hinner : depth < deepest → (inner ↔ depth + 1 + nesting ≤ deepest ∧ legible)) :
    depth < deepest ∧ inner ↔ depth + (nesting + 1) ≤ deepest ∧ legible := by
  constructor
  · rintro ⟨hlt, h⟩
    obtain ⟨hle, hlegible⟩ := (hinner hlt).mp h
    exact ⟨by omega, hlegible⟩
  · rintro ⟨hle, hlegible⟩
    have hlt : depth < deepest := by omega
    exact ⟨hlt, (hinner hlt).mpr ⟨by omega, hlegible⟩⟩

mutual

/-- A value that is kept fits if it is not nested too deeply and all its parts are legible. -/
theorem Value.fits_kept_iff (v : Value) {depth : ℕ} (hdepth : depth ≤ deepest) :
    v.fits .kept depth = true ↔
      depth + v.nesting ≤ deepest ∧ AllLegible v.numerals v.strings := by
  cases v with
  | null => simp [fits, nesting, numerals, strings, AllLegible, hdepth]
  | flag value => simp [fits, nesting, numerals, strings, AllLegible, hdepth]
  | number n => simp [fits, nesting, numerals, strings, AllLegible, hdepth]
  | string text => simp [fits, nesting, numerals, strings, AllLegible, hdepth]
  | list items =>
      simp only [fits, nesting, numerals, strings, reduceCtorEq, decide_false, Bool.false_or,
        Bool.and_eq_true, decide_eq_true_eq]
      exact fits_bracket_iff fun hlt => itemsFit_kept_iff items hlt
  | object members =>
      simp only [fits, nesting, numerals, strings, reduceCtorEq, decide_false, Bool.false_or,
        Bool.and_eq_true, decide_eq_true_eq]
      exact fits_bracket_iff fun hlt => membersFit_kept_iff members hlt

theorem Value.itemsFit_kept_iff (items : List Value) {depth : ℕ} (hdepth : depth ≤ deepest) :
    itemsFit .kept depth items = true ↔
      depth + itemsNesting items ≤ deepest ∧
        AllLegible (itemsNumerals items) (itemsStrings items) := by
  cases items with
  | nil => simp [itemsFit, itemsNesting, itemsNumerals, itemsStrings, AllLegible, hdepth]
  | cons item items =>
      rw [itemsFit, Bool.and_eq_true, fits_kept_iff item hdepth, itemsFit_kept_iff items hdepth]
      exact fits_parts_iff

theorem Value.membersFit_kept_iff (members : List (Option (List Char) × Value)) {depth : ℕ}
    (hdepth : depth ≤ deepest) :
    membersFit .kept depth members = true ↔
      depth + membersNesting members ≤ deepest ∧
        AllLegible (membersNumerals members) (membersStrings members) := by
  cases members with
  | nil => simp [membersFit, membersNesting, membersNumerals, membersStrings, AllLegible, hdepth]
  | cons member members =>
      obtain ⟨key, value⟩ := member
      rw [membersFit, Bool.and_eq_true, Bool.and_eq_true, fits_kept_iff value hdepth,
        membersFit_kept_iff members hdepth, fits_parts_iff]
      simp only [membersNesting, membersNumerals, membersStrings, AllLegible, List.forall_mem_cons,
        reduceCtorEq, decide_false, Bool.false_or]
      tauto

end

/-! ## What can be held -/

/-- What a value must be like to be held: its brackets are nested 126 deep at most, its numerals are
numbers, and its strings and keys are texts. -/
structure Value.CanBeHeld (v : Value) : Prop where
  nesting : v.nesting ≤ 126
  numerals : ∀ n ∈ v.numerals, n.value.isOk = true
  strings : ∀ text ∈ v.strings, text.isSome = true

/-- This is what the reader asks. -/
theorem Value.canBeHeld_iff {v : Value} : v.CanBeHeld ↔ v.fits .kept 0 = true := by
  rw [fits_kept_iff v (Nat.zero_le _), Nat.zero_add]
  constructor
  · rintro ⟨hnesting, hnumerals, hstrings⟩
    exact ⟨hnesting, hnumerals, hstrings⟩
  · rintro ⟨hnesting, hnumerals, hstrings⟩
    exact ⟨hnesting, hnumerals, hstrings⟩

/-- A value whose numbers are in range, whose brackets are nested 126 deep at most, and whose strings and
keys are texts. -/
structure Value.WithinLimits (v : Value) : Prop where
  nesting : v.nesting ≤ 126
  numerals : ∀ n ∈ v.numerals, n.InRange
  strings : ∀ text ∈ v.strings, text.isSome = true

/-- **A value within the limits can be held.** -/
theorem Value.WithinLimits.canBeHeld {v : Value} (h : v.WithinLimits) : v.CanBeHeld where
  nesting := h.nesting
  numerals n hn := Numeral.isOk_value_of_inRange (h.numerals n hn)
  strings := h.strings

end ChatPanel.Json
