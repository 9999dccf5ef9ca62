import ChatPanel.Json.Record
import ChatPanel.Proofs.Json.Values

/-!
# What a field holds of a value

A field admits some values and refuses the others, and what it holds of a value depends on its kind.

* `Kind.held` — what a field holds of a value, if it admits the value.
* `Kind.gets` — what a field gets from all the values that it is given: it can do with one at most.
* **`yields_read`** — the reader of a field finds what the field holds, and stops right behind the
  value, or it fails.

A field that is read leniently admits all that can be held at all, and only a string is of use to it
(`held_lenientText_eq_none_iff`, `held_lenientText_eq_some_some_iff`).
-/

namespace ChatPanel.Json

variable {tokens : List Token} {text : List Char}

/-! ## What a field holds -/

/-- What a field of this kind holds of a value, if it admits the value. -/
def Kind.held : (kind : Kind) → Value → Option kind.Held
  | .flag, .flag value => some value
  | .text, .string text => text.map String.ofList
  | .optionalText, .null => some none
  | .optionalText, .string text => text.map fun cs => some (String.ofList cs)
  | .lenientText, .string text => text.map fun cs => some (String.ofList cs)
  | .lenientText, value => if value.fits .kept 0 then some none else none
  | _, _ => none

/-- What a field of this kind gets from the values that it is given: nothing from none, and what it
holds of a single one.  Two are too many. -/
def Kind.gets (kind : Kind) : List Value → Option (Option kind.Held)
  | [] => some none
  | [value] => (kind.held value).map some
  | _ => none

lemma gets_eq_some_iff {kind : Kind} {values : List Value} {found : Option kind.Held} :
    kind.gets values = some found ↔
      values = [] ∧ found = none ∨
        ∃ value held, values = [value] ∧ kind.held value = some held ∧ found = some held := by
  match values with
  | [] => simp [Kind.gets, eq_comm]
  | [value] => simp [Kind.gets, Option.map_eq_some_iff, eq_comm]
  | _ :: _ :: _ => simp [Kind.gets]

/-- A field cannot have what it is given if it is too much, or something that it does not admit. -/
lemma gets_eq_none_iff {kind : Kind} {values : List Value} :
    kind.gets values = none ↔ 1 < values.length ∨ ∃ value ∈ values, kind.held value = none := by
  match values with
  | [] => simp [Kind.gets]
  | [value] => simp [Kind.gets, Option.map_eq_none_iff]
  | _ :: _ :: _ => simp [Kind.gets]

/-- Values that are too many, or not admitted, stay so if more are added. -/
lemma gets_append_eq_none {kind : Kind} {values : List Value} (h : kind.gets values = none)
    (more : List Value) : kind.gets (values ++ more) = none := by
  match values, more with
  | [], _ => cases h
  | [value], [] => exact h
  | [_], _ :: _ => rfl
  | _ :: _ :: _, _ => rfl

/-- One value more is admitted by a field that has none yet. -/
lemma gets_append_singleton {kind : Kind} {values : List Value} (h : kind.gets values = some none)
    (value : Value) : kind.gets (values ++ [value]) = (kind.held value).map some := by
  rcases gets_eq_some_iff.mp h with ⟨rfl, -⟩ | ⟨_, _, _, _, hnone⟩
  · rfl
  · cases hnone

/-- One value more is too many for a field that has one. -/
lemma gets_append_eq_none_of_some {kind : Kind} {values : List Value} {held : kind.Held}
    (h : kind.gets values = some (some held)) (value : Value) :
    kind.gets (values ++ [value]) = none := by
  rcases gets_eq_some_iff.mp h with ⟨-, hnone⟩ | ⟨_, _, rfl, -, -⟩
  · cases hnone
  · rfl

lemma ofList_eq_iff {cs : List Char} {s : String} : String.ofList cs = s ↔ cs = s.toList :=
  ⟨fun h => by rw [← h, String.toList_ofList], fun h => by rw [h, String.ofList_toList]⟩

lemma held_flag_eq_some_iff {v : Value} {value : Bool} :
    Kind.flag.held v = some value ↔ v = .flag value := by
  cases v <;> simp [Kind.held]

lemma held_text_eq_some_iff {v : Value} {s : String} :
    Kind.text.held v = some s ↔ v = .string (some s.toList) := by
  cases v with
  | string content => cases content <;> simp [Kind.held, ofList_eq_iff]
  | _ => simp [Kind.held]

lemma held_optionalText_eq_some_iff {v : Value} {found : Option String} :
    Kind.optionalText.held v = some found ↔
      v = .null ∧ found = none ∨ ∃ s, v = .string (some s.toList) ∧ found = some s := by
  cases v with
  | null => simp [Kind.held, eq_comm]
  | string content =>
      cases content with
      | none => simp [Kind.held]
      | some cs =>
          simp only [Kind.held, Option.map_some, Option.some_inj, reduceCtorEq, false_and, false_or,
            Value.string.injEq]
          constructor
          · rintro rfl
            exact ⟨String.ofList cs, by simp, rfl⟩
          · rintro ⟨s, rfl, rfl⟩
            simp
  | _ => simp [Kind.held]

lemma held_lenientText_eq_some_some_iff {v : Value} {s : String} :
    Kind.lenientText.held v = some (some s) ↔ v = .string (some s.toList) := by
  cases v with
  | string content => cases content <;> simp [Kind.held, ofList_eq_iff]
  | _ => simp [Kind.held]

lemma held_lenientText_eq_none_iff {v : Value} :
    Kind.lenientText.held v = none ↔ v.fits .kept 0 = false := by
  cases v with
  | string content => cases content <;> simp [Kind.held, Value.fits]
  | _ => simp [Kind.held]

/-! ## Readers that find something -/

/-- A reader that finds this in front of the given tokens, or fails if there is nothing to find. -/
def Yields {α : Type} (found : Option α) (tokens : List Token)
    (result : Except Fault (α × List Char)) : Prop :=
  match found with
  | some a => ∃ rest, Laid tokens rest ∧ result = .ok (a, rest)
  | none => ∃ fault, result = .error fault

lemma yields_ok {α : Type} {a : α} {rest : List Char} (h : Laid tokens rest) :
    Yields (some a) tokens (.ok (a, rest)) :=
  ⟨rest, h, rfl⟩

lemma yields_error {α : Type} (fault : Fault) :
    Yields (none : Option α) tokens (.error fault) :=
  ⟨fault, rfl⟩

lemma Yields.map {α β : Type} {found : Option α} {result : Except Fault (α × List Char)}
    (h : Yields found tokens result) (f : α → β) :
    Yields (found.map f) tokens (result.map fun (a, left) => (f a, left)) := by
  cases found with
  | none =>
      obtain ⟨fault, rfl⟩ := h
      exact yields_error fault
  | some a =>
      obtain ⟨rest, hrest, rfl⟩ := h
      exact yields_ok hrest

/-- A reader that passes over something may give anything in its place. -/
lemma Goes.yields {α : Type} {fits : Bool} {result : Except Fault (List Char)}
    (h : Goes fits tokens .ok result) (a : α) :
    Yields (if fits then some a else none) tokens (result.map fun left => (a, left)) := by
  cases fits with
  | false =>
      obtain ⟨fault, rfl⟩ := h
      exact yields_error fault
  | true =>
      obtain ⟨rest, hrest, rfl⟩ := h
      exact yields_ok hrest

lemma yields_readText {content : Option (List Char)} {body rest : List Char}
    (h : IsBody content body) (hrest : Laid tokens rest) :
    Yields content tokens (readText (body ++ '"' :: rest)) := by
  cases content with
  | some content =>
      rw [readText_of_spelled h]
      exact yields_ok hrest
  | none =>
      obtain ⟨fault, hfault⟩ := readText_of_noText h.1 h.2 rest
      rw [hfault]
      exact yields_error fault

/-! ## The kinds of fields

A value of the wrong sort is noticed at its first character, so that a refusal needs no more of the
value than `Value.StartsWith`.
-/

/-- A value does not begin like one of another sort. -/
lemma Value.StartsWith.ne {v : Value} {c other : Char} (h : v.StartsWith c)
    (hother : ¬ v.StartsWith other) : c ≠ other := by
  rintro rfl
  exact hother h

lemma readFlag_other {c : Char} {rest : List Char} (hskip : skipGap text = c :: rest)
    (ht : c ≠ 't') (hf : c ≠ 'f') : ∃ fault, readFlag text = .error fault :=
  ⟨misfit "a boolean" (c :: rest), by simp [readFlag, hskip, ht, hf]⟩

lemma readString_other {c : Char} {rest : List Char} (hskip : skipGap text = c :: rest)
    (hc : c ≠ '"') : ∃ fault, readString text = .error fault :=
  ⟨misfit "a string" (c :: rest), by simp [readString, hskip, hc]⟩

lemma yields_readFlag {v : Value} (h : Laid (v.tokens ++ tokens) text) :
    Yields (Kind.flag.held v) tokens (readFlag text) := by
  obtain ⟨c, rest, hskip, hc⟩ := h.skipGap_value
  have hother (ht : ¬ v.StartsWith 't') (hf : ¬ v.StartsWith 'f') :
      ∃ fault, readFlag text = .error fault :=
    readFlag_other hskip (hc.ne ht) (hc.ne hf)
  cases v with
  | flag value =>
      cases value <;>
      · obtain ⟨rest, hskip, hrest⟩ := h.skipGap_word
        rw [readFlag, hskip]
        exact yields_ok hrest
  | _ => exact hother (by simp [Value.StartsWith]) (by simp [Value.StartsWith])

lemma yields_readString {v : Value} (h : Laid (v.tokens ++ tokens) text) :
    Yields (Kind.text.held v) tokens (readString text) := by
  obtain ⟨c, rest, hskip, hc⟩ := h.skipGap_value
  have hother (hquote : ¬ v.StartsWith '"') : ∃ fault, readString text = .error fault :=
    readString_other hskip (hc.ne hquote)
  cases v with
  | string content =>
      obtain ⟨body, rest, hskip, hbody, hrest⟩ := h.skipGap_string
      rw [readString, hskip]
      exact (yields_readText hbody hrest).map String.ofList
  | flag value => cases value <;> exact hother (by simp [Value.StartsWith])
  | _ => exact hother (by simp [Value.StartsWith])

lemma readOptional_other {c : Char} {rest : List Char} (hskip : skipGap text = c :: rest)
    (hc : c ≠ 'n') :
    readOptional text
      = (readString (skipGap text)).map fun (string, left) => (some string, left) := by
  simp [readOptional, hskip, hc]

/-- Where `null` is admitted as well, every other value counts as it does where it is not. -/
lemma held_optionalText {v : Value} (hv : ¬ v.StartsWith 'n') :
    Kind.optionalText.held v = (Kind.text.held v).map some := by
  cases v with
  | null => exact absurd rfl hv
  | string content => cases content <;> rfl
  | _ => rfl

lemma yields_readOptional {v : Value} (h : Laid (v.tokens ++ tokens) text) :
    Yields (Kind.optionalText.held v) tokens (readOptional text) := by
  by_cases hv : v.StartsWith 'n'
  · cases v with
    | null =>
        obtain ⟨rest, hskip, hrest⟩ := h.skipGap_word
        rw [readOptional, hskip]
        exact yields_ok hrest
    | flag value => cases value <;> simp [Value.StartsWith] at hv
    | _ => simp [Value.StartsWith] at hv
  · obtain ⟨c, rest, hskip, hc⟩ := h.skipGap_value
    rw [readOptional_other hskip (hc.ne hv), held_optionalText hv]
    exact (yields_readString h.of_skipGap).map some

lemma readValue_other {c : Char} {rest : List Char} (hskip : skipGap text = c :: rest)
    (hc : c ≠ '"') :
    readValue text = (Fate.kept.passValue (skipGap text)).map fun left => (none, left) := by
  simp [readValue, hskip, hc]

lemma held_lenientText {v : Value} (hv : ¬ v.StartsWith '"') :
    Kind.lenientText.held v = if v.fits .kept 0 then some none else none := by
  cases v with
  | string content => exact absurd rfl hv
  | _ => rfl

lemma yields_readLenient {v : Value} (h : Laid (v.tokens ++ tokens) text) (hcloses : Closes tokens) :
    Yields (Kind.lenientText.held v) tokens (readLenient text) := by
  by_cases hv : v.StartsWith '"'
  · cases v with
    | string content =>
        obtain ⟨body, rest, hskip, hbody, hrest⟩ := h.skipGap_string
        have hread := ((yields_readText hbody hrest).map some).map (Option.map String.ofList)
        rw [Option.map_map] at hread
        rw [readLenient, readValue, hskip]
        exact hread
    | flag value => cases value <;> simp [Value.StartsWith] at hv
    | _ => simp [Value.StartsWith] at hv
  · obtain ⟨c, rest, hskip, hc⟩ := h.skipGap_value
    rw [readLenient, readValue_other hskip (hc.ne hv), held_lenientText hv]
    have hpass := @goes_passValue .kept _ _ _ h.of_skipGap hcloses
    have hread := (hpass.yields none).map (Option.map String.ofList)
    rw [apply_ite (Option.map _)] at hread
    exact hread

/-- **Each kind of field reads what it holds of a value**, and refuses the values that it does not
admit. -/
theorem yields_read (kind : Kind) {v : Value} (h : Laid (v.tokens ++ tokens) text)
    (hcloses : Closes tokens) : Yields (kind.held v) tokens (kind.read text) := by
  cases kind with
  | flag => exact yields_readFlag h
  | text => exact yields_readString h
  | optionalText => exact yields_readOptional h
  | lenientText => exact yields_readLenient h hcloses

/-- A member that names no field is passed over, whatever its value. -/
lemma passValue_skipped {v : Value} (h : Laid (v.tokens ++ tokens) text) (hcloses : Closes tokens) :
    ∃ rest, Fate.skipped.passValue text = .ok rest ∧ Laid tokens rest := by
  have hpass := @goes_passValue .skipped _ _ _ h hcloses
  rw [Value.fits_skipped] at hpass
  obtain ⟨rest, hrest, hpass⟩ := hpass
  exact ⟨rest, hpass, hrest⟩

end ChatPanel.Json
