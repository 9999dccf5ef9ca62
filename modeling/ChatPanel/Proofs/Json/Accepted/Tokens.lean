import ChatPanel.Json.Value
import ChatPanel.Proofs.Json.Layout
import ChatPanel.Proofs.Json.Strings

/-!
# Only tokens are read

The readers of tokens against the grammar, from the side of the reader: what a reader has consumed
when it succeeds is a token, written in one of its ways.

* `Spans` — a text that holds some tokens in front of a given rest.  Every reader is described by
  what it spans, and two readers one after the other span what both do (`Spans.trans`).
* `exists_body_of_readText`, `exists_body_of_skipText` — what was consumed of a string.
* `exists_written_of_read` — what was consumed of a number.
* **`spans_passScalar`** — a value without parts.
* `spans_nextElement_close` and its siblings — the punctuation between values.
-/

namespace ChatPanel.Json

/-- A reader whose result is changed consumes what it did. -/
lemma ok_of_map_eq_ok {α β : Type} {read : Except Fault α} {f : α → β} {found : β}
    (h : read.map f = .ok found) : ∃ a, read = .ok a ∧ f a = found := by
  cases read with
  | error fault => simp [Except.map] at h
  | ok a => exact ⟨a, rfl, by simpa [Except.map] using h⟩

/-! ## Strings -/

lemma isHexDigit_of_hexDigit {c : Char} {digit : ℕ} (h : hexDigit c = some digit) :
    IsHexDigit c digit := by
  have hall : ∀ n : Fin 128, ∀ d ∈ hexDigit (Char.ofNat n),
      d < 16 ∧ (Char.ofNat n = hexChar d ∨ Char.ofNat n = (hexChar d).toUpper) := by decide
  have hsmall : c ≤ 'f' := by
    simp only [hexDigit] at h
    split at h
    · next hc => exact Char.le_trans hc.2 (by decide)
    · split at h
      · next hc => exact hc.2
      · split at h
        · next hc => exact Char.le_trans hc.2 (by decide)
        · cases h
  have hlt : c.toNat < 128 := Nat.lt_of_le_of_lt hsmall (by decide)
  have hc := hall ⟨c.toNat, hlt⟩ digit
  rw [Char.ofNat_toNat] at hc
  exact hc h

lemma exists_quad_of_hexQuad {rest more : List Char} {unit : ℕ}
    (h : hexQuad rest = .ok (unit, more)) :
    ∃ digits, rest = digits ++ more ∧ Quad unit digits := by
  unfold hexQuad at h
  split at h
  · next a b c d more' =>
      split at h
      · next unit' hvalue =>
          cases h
          simp only [hexValue, Option.bind_eq_bind, Option.bind_eq_some_iff, Option.pure_def,
            Option.some.injEq] at hvalue
          obtain ⟨w, hw, x, hx, y, hy, z, hz, rfl⟩ := hvalue
          exact ⟨[a, b, c, d], rfl, .mk (isHexDigit_of_hexDigit hw) (isHexDigit_of_hexDigit hx)
            (isHexDigit_of_hexDigit hy) (isHexDigit_of_hexDigit hz)⟩
      · cases h
  · split at h <;> cases h

lemma mem_shortEscapes_of_shortEscape {letter c : Char} (h : shortEscape letter = some c) :
    (letter, c) ∈ shortEscapes := by
  unfold shortEscape at h
  split at h <;> cases h <;> decide

/-- What follows a first half is the second one, in an escape of its own. -/
lemma exists_quad_of_lowHalf {high : ℕ} {rest more : List Char} {c : Char}
    (h : lowHalf high rest = .ok (c, more)) :
    ∃ low digits, rest = '\\' :: 'u' :: digits ++ more ∧ Quad low digits ∧ isLowHalf low = true ∧
      c = joinHalves high low := by
  unfold lowHalf at h
  split at h
  · cases h
  · cases h
  · split at h
    · cases h
    · next low left hquad =>
        split at h
        · next hlow =>
            rw [Except.ok.injEq, Prod.mk.injEq] at h
            obtain ⟨hc, rfl⟩ := h
            obtain ⟨digits, rfl, hdigits⟩ := exists_quad_of_hexQuad hquad
            exact ⟨low, digits, rfl, hdigits, hlow, hc.symm⟩
        · cases h
  · cases h
  · cases h

lemma exists_spelling_of_unicodeEscape {rest more : List Char} {c : Char}
    (h : unicodeEscape rest = .ok (c, more)) :
    ∃ piece, '\\' :: 'u' :: rest = piece ++ more ∧ Spelling c piece := by
  unfold unicodeEscape at h
  split at h
  · cases h
  · next unit behind hquad =>
      obtain ⟨digits, rfl, hdigits⟩ := exists_quad_of_hexQuad hquad
      split at h
      · next hhigh =>
          obtain ⟨low, digits', rfl, hdigits', hlow, hc⟩ := exists_quad_of_lowHalf h
          have hhigh' := isHighHalf_iff.mp hhigh
          have hlow' := isLowHalf_iff.mp hlow
          have hnumber := toNat_joinHalves hhigh' hlow'
          rw [← hc] at hnumber
          exact ⟨'\\' :: 'u' :: digits ++ '\\' :: 'u' :: digits', by simp,
            .pair hhigh' hlow' hnumber hdigits hdigits'⟩
      · next hhigh =>
          split at h
          · cases h
          · next hlow =>
              cases h
              refine ⟨'\\' :: 'u' :: digits, rfl, .unit ?_⟩
              rwa [toNat_ofNat_of_not_half hdigits.lt hhigh hlow]

/-- An escape that is read is a way to write its character. -/
lemma exists_spelling_of_escape {rest more : List Char} {c : Char}
    (h : escape rest = .ok (c, more)) :
    ∃ piece, '\\' :: rest = piece ++ more ∧ Spelling c piece := by
  unfold escape at h
  split at h
  · cases h
  · exact exists_spelling_of_unicodeEscape h
  · next letter rest' _ =>
      split at h
      · next meant hmeant =>
          cases h
          exact ⟨['\\', letter], rfl, .short (mem_shortEscapes_of_shortEscape hmeant)⟩
      · cases h

/-- An escape that is passed over is one that the grammar admits. -/
lemma exists_piece_of_skipEscape {rest more : List Char} (h : skipEscape rest = .ok more) :
    ∃ piece, '\\' :: rest = piece ++ more ∧
      ∀ body, StringBody body → StringBody (piece ++ body) := by
  unfold skipEscape at h
  split at h
  · cases h
  · next behind =>
      obtain ⟨⟨unit, left⟩, hquad, rfl⟩ := ok_of_map_eq_ok h
      obtain ⟨digits, rfl, hdigits⟩ := exists_quad_of_hexQuad hquad
      exact ⟨'\\' :: 'u' :: digits, rfl, fun body hbody => .unit hdigits hbody⟩
  · next letter behind _ =>
      split at h
      · next meant hmeant =>
          cases h
          exact ⟨['\\', letter], rfl,
            fun body hbody => .short (mem_shortEscapes_of_shortEscape hmeant) hbody⟩
      · cases h

/-- **What was consumed of a string is a spelling of the text that was read**, and the closing
quotation mark. -/
theorem exists_body_of_readText {text left cs : List Char} (h : readText text = .ok (cs, left)) :
    ∃ body, text = body ++ '"' :: left ∧ Spelled cs body := by
  fun_induction readText text generalizing cs with
  | case1 => cases h
  | case2 rest =>
      cases h
      exact ⟨[], rfl, .nil⟩
  | case3 => cases h
  | case4 => cases h
  | case5 rest c more hescape tail left' htail ih =>
      cases h
      obtain ⟨piece, hpiece, hspelling⟩ := exists_spelling_of_escape hescape
      obtain ⟨body, rfl, hbody⟩ := ih htail
      exact ⟨piece ++ body, by rw [hpiece, List.append_assoc], .cons hspelling hbody⟩
  | case6 => cases h
  | case7 => cases h
  | case8 c rest hquote hbackslash hcontrol tail left' htail ih =>
      cases h
      obtain ⟨body, rfl, hbody⟩ := ih htail
      exact ⟨c :: body, rfl, .cons (.plain ⟨Char.not_lt.mp hcontrol, hquote, hbackslash⟩) hbody⟩

/-- **What was passed over is a string that the grammar admits**, and the closing quotation mark. -/
theorem exists_body_of_skipText {text left : List Char} (h : skipText text = .ok left) :
    ∃ body, text = body ++ '"' :: left ∧ StringBody body := by
  fun_induction skipText text with
  | case1 => cases h
  | case2 rest =>
      cases h
      exact ⟨[], rfl, .nil⟩
  | case3 => cases h
  | case4 rest more hescape ih =>
      obtain ⟨piece, hpiece, hadmits⟩ := exists_piece_of_skipEscape hescape
      obtain ⟨body, rfl, hbody⟩ := ih h
      exact ⟨piece ++ body, by rw [hpiece, List.append_assoc], hadmits body hbody⟩
  | case5 => cases h
  | case6 c rest hquote hbackslash hcontrol ih =>
      obtain ⟨body, rfl, hbody⟩ := ih h
      exact ⟨c :: body, rfl, .plain ⟨Char.not_lt.mp hcontrol, hquote, hbackslash⟩ hbody⟩

/-! ## Numbers -/

section Numbers

variable {fate : Fate} {text left digits : List Char}

lemma takeDigits_eq (text : List Char) :
    text = (takeDigits text).1 ++ (takeDigits text).2 ∧
      ∀ c ∈ (takeDigits text).1, c.isDigit = true :=
  ⟨(List.takeWhile_append_dropWhile).symm, fun _ hc => List.mem_takeWhile_imp hc⟩

lemma isDigits_takeDigits {c : Char} (hc : c.isDigit = true) (rest : List Char) :
    IsDigits (takeDigits (c :: rest)).1 := by
  refine ⟨?_, (takeDigits_eq _).2⟩
  simp [takeDigits, hc]

lemma isDigits_of_readDigits (h : readDigits fate text = .ok (digits, left)) :
    text = digits ++ left ∧ IsDigits digits := by
  unfold readDigits at h
  split at h
  · cases h
  · next c rest =>
      split at h
      · next hc =>
          have heq := (takeDigits_eq (c :: rest)).1
          have hdigits := isDigits_takeDigits hc rest
          rw [Except.ok.inj h] at heq hdigits
          exact ⟨heq, hdigits⟩
      · cases h

lemma isWhole_of_readWhole (h : readWhole fate text = .ok (digits, left)) :
    text = digits ++ left ∧ IsWhole digits := by
  unfold readWhole at h
  split at h
  · cases h
  · split at h
    · cases h
    · cases h
      exact ⟨rfl, .inl rfl⟩
  · next c rest hzero =>
      split at h
      · next hc =>
          have heq := (takeDigits_eq (c :: rest)).1
          have hdigits := isDigits_takeDigits hc rest
          have hhead : (takeDigits (c :: rest)).1.head? ≠ some '0' := by
            simpa [takeDigits, hc] using hzero
          rw [Except.ok.inj h] at heq hdigits hhead
          exact ⟨heq, .inr ⟨hdigits, hhead⟩⟩
      · cases h

lemma exists_written_of_readFraction {fraction : Option (List Char)}
    (h : readFraction fate text = .ok (fraction, left)) :
    ∃ chars, text = chars ++ left ∧ WrittenFraction fraction chars := by
  unfold readFraction at h
  split at h
  · next rest =>
      obtain ⟨⟨digits, behind⟩, hdigits, heq⟩ := ok_of_map_eq_ok h
      cases heq
      obtain ⟨rfl, his⟩ := isDigits_of_readDigits hdigits
      exact ⟨'.' :: digits, rfl, .some his⟩
  · cases h
    exact ⟨[], rfl, .none⟩

lemma exists_written_of_takeSign (text : List Char) :
    ∃ sign, text = sign ++ (takeSign text).2 ∧ WrittenSign (takeSign text).1 sign := by
  unfold takeSign
  split
  · exact ⟨['+'], rfl, .plus⟩
  · exact ⟨['-'], rfl, .minus⟩
  · exact ⟨[], rfl, .none⟩

lemma exists_written_of_readExponent {exponent : Option (Bool × List Char)}
    (h : readExponent fate text = .ok (exponent, left)) :
    ∃ chars, text = chars ++ left ∧ WrittenExponent exponent chars := by
  unfold readExponent at h
  split at h
  · next mark rest =>
      split at h
      · next hmark =>
          obtain ⟨sign, hsign, hwritten⟩ := exists_written_of_takeSign rest
          rcases htake : takeSign rest with ⟨negative, unsigned⟩
          rw [htake] at h hsign hwritten
          obtain ⟨⟨digits, behind⟩, hdigits, heq⟩ := ok_of_map_eq_ok h
          cases heq
          obtain ⟨hbehind, his⟩ := isDigits_of_readDigits hdigits
          refine ⟨mark :: sign ++ digits, ?_, .some hmark hwritten his⟩
          rw [hsign, hbehind]
          simp
      · cases h
        exact ⟨[], rfl, .none⟩
  · cases h
    exact ⟨[], rfl, .none⟩

lemma exists_written_of_readUnsigned {negative : Bool} {n : Numeral}
    (h : Numeral.readUnsigned fate negative text = .ok (n, left)) :
    ∃ chars, text = chars ++ left ∧ n.Written ((if negative then ['-'] else []) ++ chars) := by
  simp only [Numeral.readUnsigned, bind, Except.bind, pure, Except.pure] at h
  split at h
  · cases h
  · next whole hwhole =>
      split at h
      · cases h
      · next fraction hfraction =>
          split at h
          · cases h
          · next exponent hexponent =>
              cases h
              obtain ⟨htext, his⟩ := isWhole_of_readWhole hwhole
              obtain ⟨behind, hbehind, hwritten⟩ := exists_written_of_readFraction hfraction
              obtain ⟨behind', hbehind', hwritten'⟩ := exists_written_of_readExponent hexponent
              refine ⟨whole.1 ++ (behind ++ behind'), ?_, .mk his hwritten hwritten'⟩
              rw [htext, hbehind, hbehind']
              simp

/-- **What was consumed of a number is a way to write it.** -/
theorem exists_written_of_read {n : Numeral} (h : Numeral.read fate text = .ok (n, left)) :
    ∃ chars, text = chars ++ left ∧ n.Written chars := by
  unfold Numeral.read at h
  split at h
  · obtain ⟨chars, rfl, hwritten⟩ := exists_written_of_readUnsigned h
    exact ⟨'-' :: chars, rfl, hwritten⟩
  · exact exists_written_of_readUnsigned h

end Numbers

/-! ## Texts that begin with tokens -/

/-- The text holds these tokens, and behind them the rest. -/
def Spans (tokens : List Token) (text rest : List Char) : Prop :=
  ∀ more, Laid more rest → Laid (tokens ++ more) text

section Spans

variable {fate : Fate} {tokens tokens' : List Token} {text rest left : List Char}

lemma Spans.refl (text : List Char) : Spans [] text text :=
  fun _ hmore => hmore

lemma Spans.trans (h : Spans tokens text rest) (h' : Spans tokens' rest left) :
    Spans (tokens ++ tokens') text left := by
  intro more hmore
  rw [List.append_assoc]
  exact h _ (h' more hmore)

lemma spans_skipGap (text : List Char) : Spans [] text (skipGap text) := by
  intro more hmore
  induction text with
  | nil => exact hmore
  | cons c text ih =>
      by_cases hc : isGap c = true
      · rw [skipGap, List.dropWhile_cons_of_pos hc] at hmore
        exact (ih hmore).gap hc
      · rwa [skipGap, List.dropWhile_cons_of_neg hc] at hmore

/-- What a reader spans behind a gap it spans with the gap. -/
lemma Spans.of_skipGap {behind : List Char} (h : Spans tokens behind rest)
    (hskip : skipGap text = behind) : Spans tokens text rest := by
  rw [← hskip] at h
  exact (spans_skipGap text).trans h

lemma spans_token {token : Token} {chars : List Char} (h : token.Written chars)
    (rest : List Char) : Spans [token] (chars ++ rest) rest :=
  fun _ hmore => hmore.token h

lemma spans_mark {c : Char} (hc : c ∈ marks) (hskip : skipGap text = c :: rest) :
    Spans [.mark c] text rest :=
  (spans_token (.mark hc) rest).of_skipGap hskip

lemma spans_readText {cs : List Char} (h : readText text = .ok (cs, left)) :
    Spans [.string (some cs)] ('"' :: text) left := by
  obtain ⟨body, rfl, hbody⟩ := exists_body_of_readText h
  intro more hmore
  exact hmore.string hbody

lemma spans_skipText (h : skipText text = .ok left) :
    ∃ content, Spans [.string content] ('"' :: text) left := by
  obtain ⟨body, rfl, hbody⟩ := exists_body_of_skipText h
  by_cases hsome : ∃ cs, Spelled cs body
  · obtain ⟨cs, hcs⟩ := hsome
    exact ⟨some cs, fun more hmore => hmore.string hcs⟩
  · refine ⟨none, fun more hmore => ?_⟩
    simpa using hmore.token (.noText hbody fun cs hcs => hsome ⟨cs, hcs⟩)

lemma spans_passText (h : fate.passText text = .ok left) :
    ∃ content, Spans [.string content] ('"' :: text) left := by
  cases fate with
  | skipped => exact spans_skipText h
  | kept =>
      obtain ⟨⟨cs, behind⟩, hread, rfl⟩ := ok_of_map_eq_ok h
      exact ⟨some cs, spans_readText hread⟩

lemma spans_read {n : Numeral} (h : Numeral.read fate text = .ok (n, left)) :
    Spans [.numeral n] text left := by
  obtain ⟨chars, rfl, hchars⟩ := exists_written_of_read h
  exact spans_token (.numeral hchars) left

lemma spans_passNumber (h : fate.passNumber text = .ok left) :
    ∃ n, Spans [.numeral n] text left := by
  cases fate with
  | skipped =>
      obtain ⟨⟨n, behind⟩, hread, rfl⟩ := ok_of_map_eq_ok h
      exact ⟨n, spans_read hread⟩
  | kept =>
      obtain ⟨⟨value, behind⟩, hnumber, rfl⟩ := ok_of_map_eq_ok h
      unfold readNumber at hnumber
      split at hnumber
      · cases hnumber
      · next n behind hread =>
          split at hnumber
          · cases hnumber
            exact ⟨n, spans_read hread⟩
          · cases hnumber

lemma keyword_eq {ks : List Char} (h : keyword ks text = .ok rest) : text = ks ++ rest := by
  induction ks generalizing text with
  | nil =>
      simp only [keyword, Except.ok.injEq] at h
      exact h
  | cons k ks ih =>
      cases text with
      | nil => simp [keyword] at h
      | cons c text =>
          simp only [keyword] at h
          split at h
          · next hc => rw [hc, ih h, List.cons_append]
          · cases h

lemma spans_word {c : Char} {ks : List Char} (hword : c :: ks ∈ keywords)
    (h : keyword ks text = .ok rest) : Spans [.word (c :: ks)] (c :: text) rest := by
  rw [keyword_eq h]
  exact spans_token (.word hword) rest

/-! ## Punctuation -/

/-- The comma in front of every item but the first. -/
def comma (first : Bool) : List Token :=
  if first then [] else [.mark ',']

lemma spans_colon (h : colon text = .ok rest) : Spans [.mark ':'] text rest := by
  unfold colon at h
  split at h
  · cases h
  · next hskip =>
      cases h
      exact spans_mark (by decide) hskip
  · cases h

lemma spans_nextElement_close {first : Bool} (h : nextElement fate first text = .ok (.close, rest)) :
    Spans [.mark ']'] text rest := by
  unfold nextElement at h
  split at h
  · cases h
  · next hskip =>
      cases h
      exact spans_mark (by decide) hskip
  · split at h
    · cases h
    · split at h
      · split at h <;> cases h
      · cases h

lemma spans_nextElement_item {first : Bool} (h : nextElement fate first text = .ok (.item, rest)) :
    Spans (comma first) text rest := by
  unfold nextElement at h
  split at h
  · cases h
  · cases h
  · next c behind _ hskip =>
      split at h
      · next hfirst =>
          cases h
          rw [hfirst, ← hskip]
          exact spans_skipGap text
      · next hfirst =>
          rw [Bool.not_eq_true] at hfirst
          subst hfirst
          split at h
          · next hc =>
              subst hc
              split at h
              · cases h
              · cases h
              · cases h
                exact (spans_mark (by decide) hskip).trans (spans_skipGap behind)
          · cases h

lemma eq_cons_of_openKey {step : Step} (h : openKey text = .ok (step, rest)) :
    step = .item ∧ text = '"' :: rest := by
  unfold openKey at h
  split at h
  · cases h
    exact ⟨rfl, rfl⟩
  · cases h

lemma spans_nextMember_close {first : Bool} (h : nextMember fate first text = .ok (.close, rest)) :
    Spans [.mark '}'] text rest := by
  unfold nextMember at h
  split at h
  · cases h
  · next hskip =>
      cases h
      exact spans_mark (by decide) hskip
  · split at h
    · cases (eq_cons_of_openKey h).1
    · split at h
      · split at h
        · cases h
        · cases h
        · cases h
        · cases (eq_cons_of_openKey h).1
      · cases h

lemma spans_nextMember_item {first : Bool} (h : nextMember fate first text = .ok (.item, rest)) :
    Spans (comma first) text ('"' :: rest) := by
  unfold nextMember at h
  split at h
  · cases h
  · cases h
  · next c behind _ hskip =>
      split at h
      · next hfirst =>
          rw [hfirst, ← (eq_cons_of_openKey h).2, ← hskip]
          exact spans_skipGap text
      · next hfirst =>
          rw [Bool.not_eq_true] at hfirst
          subst hfirst
          split at h
          · next hc =>
              subst hc
              split at h
              · cases h
              · cases h
              · cases h
              · rw [← (eq_cons_of_openKey h).2]
                exact (spans_mark (by decide) hskip).trans (spans_skipGap behind)
          · cases h

lemma spans_passKey (h : fate.passKey text = .ok rest) :
    ∃ key, Spans [.string key, .mark ':'] ('"' :: text) rest := by
  unfold Fate.passKey at h
  split at h
  · cases h
  · next behind htext =>
      obtain ⟨key, hkey⟩ := spans_passText htext
      exact ⟨key, hkey.trans (spans_colon h)⟩

/-! ## Values without parts -/

/-- **A value without parts is read only if there is one.** -/
theorem spans_passScalar (h : passScalar fate text = .ok rest) :
    ∃ v : Value, Spans v.tokens text rest := by
  unfold passScalar at h
  split at h
  · cases h
  · obtain ⟨content, hcontent⟩ := spans_passText h
    exact ⟨.string content, hcontent⟩
  · exact ⟨.null, spans_word (by decide) h⟩
  · exact ⟨.flag true, spans_word (by decide) h⟩
  · exact ⟨.flag false, spans_word (by decide) h⟩
  · split at h
    · obtain ⟨n, hn⟩ := spans_passNumber h
      exact ⟨.number n, hn⟩
    · cases h

end Spans

end ChatPanel.Json
