import ChatPanel.Json.Text
import ChatPanel.Proofs.Json.Grammar
import Mathlib.Data.List.Basic

/-!
# Strings are read as they are written

The two readers of strings against the grammar.  Both are given what stands between the quotation
marks, with more text behind it:

* `readText_of_spelled` — a string that stands for a text is read as that text, in every spelling.
* `readText_of_noText` — a string that stands for none is refused.
* `skipText_of_body` — the reader that keeps nothing passes over either.

A string stands for no text only on account of a surrogate half that is alone, and that the reader
sees at the place of the half.  So the dichotomy (`spelledOrRefused`) is an induction along the
string that goes two escapes at a time where they form a pair.
-/

namespace ChatPanel.Json

/-! ## Digits in base sixteen -/

lemma hexDigit_of_isHexDigit {c : Char} {digit : ℕ} (h : IsHexDigit c digit) :
    hexDigit c = some digit := by
  have hall : ∀ d : Fin 16, hexDigit (hexChar d) = some d.val ∧
      hexDigit (hexChar d).toUpper = some d.val := by decide
  obtain ⟨hlt, rfl | rfl⟩ := h
  · exact (hall ⟨digit, hlt⟩).1
  · exact (hall ⟨digit, hlt⟩).2

lemma hexQuad_of_quad {n : ℕ} {digits : List Char} (h : Quad n digits) (rest : List Char) :
    hexQuad (digits ++ rest) = .ok (n, rest) := by
  cases h with
  | mk ha hb hc hd =>
      simp [hexQuad, hexValue, hexDigit_of_isHexDigit ha, hexDigit_of_isHexDigit hb,
        hexDigit_of_isHexDigit hc, hexDigit_of_isHexDigit hd]

lemma Quad.lt {n : ℕ} {digits : List Char} (h : Quad n digits) : n < 0x10000 := by
  cases h with
  | mk ha hb hc hd =>
      have := ha.1
      have := hb.1
      have := hc.1
      have := hd.1
      omega

/-! ## Escapes -/

lemma escape_of_short {c letter : Char} (h : (letter, c) ∈ shortEscapes) (rest : List Char) :
    escape (letter :: rest) = .ok (c, rest) ∧ skipEscape (letter :: rest) = .ok rest ∧
      letter ≠ 'u' := by
  simp only [shortEscapes, List.mem_cons, Prod.mk.injEq, List.not_mem_nil, or_false] at h
  rcases h with ⟨rfl, rfl⟩ | ⟨rfl, rfl⟩ | ⟨rfl, rfl⟩ | ⟨rfl, rfl⟩ | ⟨rfl, rfl⟩ | ⟨rfl, rfl⟩ |
    ⟨rfl, rfl⟩ | ⟨rfl, rfl⟩ <;> exact ⟨rfl, rfl, by decide⟩

lemma skipEscape_of_quad {n : ℕ} {digits : List Char} (h : Quad n digits) (rest : List Char) :
    skipEscape ('u' :: digits ++ rest) = .ok rest := by
  simp [skipEscape, hexQuad_of_quad h, Except.map]

lemma isHighHalf_iff {unit : ℕ} : isHighHalf unit = true ↔ 0xD800 ≤ unit ∧ unit < 0xDC00 := by
  simp [isHighHalf]

lemma isLowHalf_iff {unit : ℕ} : isLowHalf unit = true ↔ 0xDC00 ≤ unit ∧ unit < 0xE000 := by
  simp [isLowHalf]

lemma isHalf_toNat (c : Char) : isHighHalf c.toNat = false ∧ isLowHalf c.toNat = false := by
  have hvalid : c.toNat < 0xD800 ∨ 0xDFFF < c.toNat ∧ c.toNat < 0x110000 := c.valid
  rw [← Bool.not_eq_true, ← Bool.not_eq_true, isHighHalf_iff, isLowHalf_iff]
  omega

lemma toNat_ofNat_of_isValidChar {n : ℕ} (h : n.isValidChar) : (Char.ofNat n).toNat = n := by
  rw [Char.ofNat, dif_pos h]
  rfl

/-- What four digits write is a character, unless it is half of a surrogate pair. -/
lemma toNat_ofNat_of_not_half {n : ℕ} (h : n < 0x10000) (hhigh : ¬ isHighHalf n = true)
    (hlow : ¬ isLowHalf n = true) : (Char.ofNat n).toNat = n := by
  rw [isHighHalf_iff] at hhigh
  rw [isLowHalf_iff] at hlow
  apply toNat_ofNat_of_isValidChar
  rcases Nat.lt_or_ge n 0xD800 with hlt | hge
  · exact .inl hlt
  · exact .inr ⟨by omega, by omega⟩

/-- The character that a surrogate pair stands for lies above those of a single escape. -/
lemma toNat_joinHalves {high low : ℕ} (hhigh : 0xD800 ≤ high ∧ high < 0xDC00)
    (hlow : 0xDC00 ≤ low ∧ low < 0xE000) :
    (joinHalves high low).toNat = 0x10000 + (high - 0xD800) * 0x400 + (low - 0xDC00) :=
  toNat_ofNat_of_isValidChar (.inr ⟨by omega, by omega⟩)

lemma escape_of_unit {c : Char} {digits : List Char} (h : Quad c.toNat digits) (rest : List Char) :
    escape ('u' :: digits ++ rest) = .ok (c, rest) := by
  obtain ⟨hhigh, hlow⟩ := isHalf_toNat c
  simp [escape, unicodeEscape, hexQuad_of_quad h, hhigh, hlow]

lemma escape_of_pair {c : Char} {high low : ℕ} {digits digits' : List Char}
    (hhigh : 0xD800 ≤ high ∧ high < 0xDC00) (hlow : 0xDC00 ≤ low ∧ low < 0xE000)
    (hc : c.toNat = 0x10000 + (high - 0xD800) * 0x400 + (low - 0xDC00))
    (h : Quad high digits) (h' : Quad low digits') (rest : List Char) :
    escape ('u' :: digits ++ ('\\' :: 'u' :: digits' ++ rest)) = .ok (c, rest) := by
  have hjoin : joinHalves high low = c := by rw [joinHalves, ← hc, Char.ofNat_toNat]
  simp [escape, unicodeEscape, hexQuad_of_quad h, isHighHalf_iff.mpr hhigh, lowHalf,
    hexQuad_of_quad h', isLowHalf_iff.mpr hlow, hjoin]

/-! ## One step of a reader -/

lemma readText_plain {c : Char} (h : IsPlain c) (rest : List Char) :
    readText (c :: rest) = (readText rest).map fun (cs, left) => (c :: cs, left) := by
  obtain ⟨hcontrol, hquote, hbackslash⟩ := h
  rw [readText]
  · rw [if_neg (Char.not_lt.mpr hcontrol)]
    cases readText rest <;> rfl
  · exact hquote
  · exact hbackslash

lemma readText_escape {c : Char} {rest more : List Char} (h : escape rest = .ok (c, more)) :
    readText ('\\' :: rest) = (readText more).map fun (cs, left) => (c :: cs, left) := by
  rw [readText]
  split
  · next fault he => cases h.symm.trans he
  · next c' more' he =>
      cases h.symm.trans he
      cases readText more <;> rfl

lemma readText_badEscape {rest : List Char} {fault : Fault} (h : escape rest = .error fault) :
    readText ('\\' :: rest) = .error fault := by
  rw [readText]
  split
  · next fault' he =>
      cases h.symm.trans he
      rfl
  · next c more he => cases h.symm.trans he

lemma skipText_plain {c : Char} (h : IsPlain c) (rest : List Char) :
    skipText (c :: rest) = skipText rest := by
  obtain ⟨hcontrol, hquote, hbackslash⟩ := h
  rw [skipText]
  · rw [if_neg (Char.not_lt.mpr hcontrol)]
  · exact hquote
  · exact hbackslash

lemma skipText_escape {rest more : List Char} (h : skipEscape rest = .ok more) :
    skipText ('\\' :: rest) = skipText more := by
  rw [skipText]
  split
  · next fault he => cases h.symm.trans he
  · next more' he =>
      cases h.symm.trans he
      rfl

/-! ## Strings that stand for a text -/

/-- Reading one spelling gives its character, and goes on behind it. -/
lemma readText_of_spelling {c : Char} {piece : List Char} (h : Spelling c piece)
    (rest : List Char) :
    readText (piece ++ rest) = (readText rest).map fun (cs, left) => (c :: cs, left) := by
  cases h with
  | plain h => exact readText_plain h rest
  | short h => exact readText_escape (escape_of_short h rest).1
  | unit h => exact readText_escape (escape_of_unit h rest)
  | @pair high low digits digits' hhigh hlow hc h h' =>
      have hescape := escape_of_pair hhigh hlow hc h h' rest
      have hpiece : '\\' :: 'u' :: digits ++ '\\' :: 'u' :: digits' ++ rest
          = '\\' :: ('u' :: digits ++ ('\\' :: 'u' :: digits' ++ rest)) := by simp
      rw [hpiece]
      exact readText_escape hescape

/-- **A string is read as the text that it stands for**, in every spelling. -/
theorem readText_of_spelled {text body : List Char} (h : Spelled text body) (rest : List Char) :
    readText (body ++ '"' :: rest) = .ok (text, rest) := by
  induction h with
  | nil => rw [List.nil_append, readText]
  | cons h hs ih =>
      rw [List.append_assoc, readText_of_spelling h, ih]
      rfl

/-! ## Strings that stand for none -/

lemma Spelling.stringBody {c : Char} {piece rest : List Char} (h : Spelling c piece)
    (hs : StringBody rest) : StringBody (piece ++ rest) := by
  cases h with
  | plain h => exact .plain h hs
  | short h => exact .short h hs
  | unit h => exact .unit h hs
  | pair _ _ _ h h' =>
      rw [List.append_assoc]
      exact .unit h (.unit h' hs)

/-- What stands for a text is admitted by the grammar. -/
lemma Spelled.stringBody {text body : List Char} (h : Spelled text body) : StringBody body := by
  induction h with
  | nil => exact .nil
  | cons h hs ih => exact h.stringBody ih

/-- A second half without a first one is refused. -/
lemma escape_of_low {n : ℕ} {digits : List Char} (h : Quad n digits) (hlow : isLowHalf n = true)
    (rest : List Char) : ∃ fault, escape ('u' :: digits ++ rest) = .error fault := by
  have hhigh : isHighHalf n = false := by
    rw [← Bool.not_eq_true, isHighHalf_iff]
    have := isLowHalf_iff.mp hlow
    omega
  exact ⟨.behind .loneSurrogate rest,
    by simp [escape, unicodeEscape, hexQuad_of_quad h, hhigh, hlow]⟩

/-- A first half is refused with whatever refuses the second one. -/
lemma escape_of_high {n : ℕ} {digits rest : List Char} {fault : Fault} (h : Quad n digits)
    (hhigh : isHighHalf n = true) (hrest : lowHalf n rest = .error fault) :
    escape ('u' :: digits ++ rest) = .error fault := by
  simp [escape, unicodeEscape, hexQuad_of_quad h, hhigh, hrest]

/-- What follows a first half is its second one, or the string is refused. -/
lemma lowHalf_of_body {n : ℕ} {body : List Char} (h : StringBody body) (rest : List Char) :
    (∃ low digits behind, body = '\\' :: 'u' :: digits ++ behind ∧ Quad low digits ∧
        isLowHalf low = true ∧ StringBody behind) ∨
      ∃ fault, lowHalf n (body ++ '"' :: rest) = .error fault := by
  cases h with
  | nil => exact .inr ⟨_, rfl⟩
  | @plain c behind h hs =>
      obtain ⟨-, -, hbackslash⟩ := h
      refine .inr ⟨.next .brokenPair (c :: behind ++ '"' :: rest), ?_⟩
      simp only [List.cons_append]
      rw [lowHalf]
      all_goals simp [hbackslash]
  | @short c letter behind h hs =>
      obtain ⟨-, -, hne⟩ := escape_of_short h []
      refine .inr ⟨.next .brokenPair (letter :: behind ++ '"' :: rest), ?_⟩
      simp only [List.cons_append]
      rw [lowHalf]
      all_goals simp [hne]
  | @unit low digits behind h hs =>
      by_cases hlow : isLowHalf low = true
      · exact .inl ⟨low, digits, behind, rfl, h, hlow, hs⟩
      · refine .inr ⟨.behind .loneSurrogate (behind ++ '"' :: rest), ?_⟩
        simp [lowHalf, hexQuad_of_quad h, hlow]

/-- Is the string refused, if it stands for no text? -/
def SpelledOrRefused (body rest : List Char) : Prop :=
  (∃ text, Spelled text body) ∨ ∃ fault, readText (body ++ '"' :: rest) = .error fault

/-- One more character of a text in front changes nothing. -/
lemma SpelledOrRefused.cons {c : Char} {piece body rest : List Char} (hc : Spelling c piece)
    (h : SpelledOrRefused body rest) : SpelledOrRefused (piece ++ body) rest := by
  rcases h with ⟨text, htext⟩ | ⟨fault, hfault⟩
  · exact .inl ⟨c :: text, .cons hc htext⟩
  · refine .inr ⟨fault, ?_⟩
    rw [List.append_assoc, readText_of_spelling hc, hfault]
    rfl

lemma Quad.length_eq {n : ℕ} {digits : List Char} (h : Quad n digits) : digits.length = 4 := by
  cases h
  rfl

/-- A string that the grammar admits stands for a text, or is refused.  A pair of escapes is passed
in one step, so the induction is on what follows one escape as well. -/
lemma spelledOrRefused {body : List Char} (h : StringBody body) (rest : List Char) :
    SpelledOrRefused body rest ∧
      ∀ digits behind, body = '\\' :: 'u' :: digits ++ behind → digits.length = 4 →
        SpelledOrRefused behind rest := by
  induction h with
  | nil => exact ⟨.inl ⟨[], .nil⟩, fun digits behind heq => by cases heq⟩
  | @plain c body h hs ih =>
      refine ⟨ih.1.cons (.plain h), fun digits behind heq => ?_⟩
      cases heq
      exact absurd rfl h.2.2
  | @short c letter body h hs ih =>
      refine ⟨ih.1.cons (.short h), fun digits behind heq => ?_⟩
      cases heq
      exact absurd rfl (escape_of_short h []).2.2
  | @unit n digits body h hs ih =>
      constructor
      · by_cases hhigh : isHighHalf n = true
        · rcases lowHalf_of_body hs rest with
            ⟨low, digits', behind, rfl, h', hlow, -⟩ | ⟨fault, hfault⟩
          · -- the two escapes stand for one character
            have hpair := (ih.2 digits' behind rfl h'.length_eq).cons
              (.pair (isHighHalf_iff.mp hhigh) (isLowHalf_iff.mp hlow)
                (toNat_joinHalves (isHighHalf_iff.mp hhigh) (isLowHalf_iff.mp hlow)) h h')
            rwa [List.append_assoc] at hpair
          · refine .inr ⟨fault, ?_⟩
            have hescape := escape_of_high h hhigh hfault
            simpa using readText_badEscape hescape
        · by_cases hlow : isLowHalf n = true
          · obtain ⟨fault, hescape⟩ := escape_of_low h hlow (body ++ '"' :: rest)
            exact .inr ⟨fault, by simpa using readText_badEscape hescape⟩
          · rw [← toNat_ofNat_of_not_half h.lt hhigh hlow] at h
            exact ih.1.cons (.unit h)
      · intro digits' behind heq hlength
        have hsplit := List.append_inj (List.cons.inj (List.cons.inj heq).2).2
          (h.length_eq.trans hlength.symm)
        exact hsplit.2 ▸ ih.1

/-- **A string that stands for no text is refused.** -/
theorem readText_of_noText {body : List Char} (h : StringBody body)
    (hnone : ∀ text, ¬ Spelled text body) (rest : List Char) :
    ∃ fault, readText (body ++ '"' :: rest) = .error fault := by
  rcases (spelledOrRefused h rest).1 with ⟨text, htext⟩ | hrefused
  · exact absurd htext (hnone text)
  · exact hrefused

/-! ## Strings that are passed over -/

/-- **The reader that keeps nothing passes over every string.** -/
theorem skipText_of_body {body : List Char} (h : StringBody body) (rest : List Char) :
    skipText (body ++ '"' :: rest) = .ok rest := by
  induction h with
  | nil => rw [List.nil_append, skipText]
  | plain h hs ih => rw [List.cons_append, skipText_plain h, ih]
  | short h hs ih =>
      rw [List.cons_append, List.cons_append, skipText_escape (escape_of_short h _).2.1, ih]
  | @unit n digits body h hs ih =>
      have hescape := skipEscape_of_quad h (body ++ '"' :: rest)
      rw [List.append_assoc, List.cons_append, skipText_escape hescape, ih]

end ChatPanel.Json
