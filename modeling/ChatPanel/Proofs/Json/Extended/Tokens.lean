import ChatPanel.Proofs.Json.Accepted.Tokens
import ChatPanel.Proofs.Json.Values

/-!
# A token is read by what it consists of

When a reader has succeeded, more text at the end changes nothing: it finds the same and leaves the
same rest, with the new text behind it.  This is said here of every reader of a token and of the
punctuation between values; each statement has the reader's name with `longer` behind it.

**Where a token ends.**  A string ends at its quotation mark and a keyword at its last letter, and
then the statement holds as it stands.  A number has no end of its own: it may go on in the new
text.  But one that leaves a rest has ended in front of it (`readNumber_longer`), and so a reader of
values asks that something is left.
-/

namespace ChatPanel.Json

variable {fate : Fate} {text rest left digits : List Char}

/-! ## Strings -/

lemma readText_longer {cs : List Char} (h : readText text = .ok (cs, left)) (more : List Char) :
    readText (text ++ more) = .ok (cs, left ++ more) := by
  obtain ⟨body, rfl, hbody⟩ := exists_body_of_readText h
  simpa using readText_of_spelled hbody (left ++ more)

lemma skipText_longer (h : skipText text = .ok left) (more : List Char) :
    skipText (text ++ more) = .ok (left ++ more) := by
  obtain ⟨body, rfl, hbody⟩ := exists_body_of_skipText h
  simpa using skipText_of_body hbody (left ++ more)

lemma passText_longer (h : fate.passText text = .ok left) (more : List Char) :
    fate.passText (text ++ more) = .ok (left ++ more) := by
  cases fate with
  | skipped => exact skipText_longer h more
  | kept =>
      obtain ⟨⟨cs, behind⟩, hread, rfl⟩ := ok_of_map_eq_ok h
      simp [Fate.passText, readText_longer hread more, Except.map]

/-! ## Numbers -/

lemma takeDigits_longer (h : takeDigits text = (digits, left)) (hleft : left ≠ [])
    (more : List Char) : takeDigits (text ++ more) = (digits, left ++ more) := by
  rw [takeDigits, Prod.mk.injEq] at h
  obtain ⟨rfl, rfl⟩ := h
  -- a rest is left, so not all characters are digits
  have hlength : (text.takeWhile Char.isDigit).length ≠ text.length := by
    intro heq
    have hall := List.takeWhile_eq_self_iff.mp ((List.takeWhile_prefix _).eq_of_length heq)
    exact hleft (List.dropWhile_eq_nil_iff.mpr hall)
  simp [takeDigits, List.takeWhile_append, List.dropWhile_append, hlength, hleft]

lemma readDigits_longer (h : readDigits fate text = .ok (digits, left)) (hleft : left ≠ [])
    (more : List Char) : readDigits fate (text ++ more) = .ok (digits, left ++ more) := by
  unfold readDigits at h
  split at h
  · cases h
  · next c rest =>
      split at h
      · next hc =>
          have htake := takeDigits_longer (Except.ok.inj h) hleft more
          rw [List.cons_append] at htake ⊢
          rw [readDigits, if_pos hc, htake]
      · cases h

lemma readWhole_longer (h : readWhole fate text = .ok (digits, left)) (hleft : left ≠ [])
    (more : List Char) : readWhole fate (text ++ more) = .ok (digits, left ++ more) := by
  unfold readWhole at h
  split at h
  · cases h
  · split at h
    · cases h
    · next hhead =>
        cases h
        -- what follows the zero is the same character as before
        rw [List.cons_append, readWhole, List.head?_append_of_ne_nil _ hleft, if_neg hhead]
  · next c rest hzero =>
      split at h
      · next hc =>
          have htake := takeDigits_longer (Except.ok.inj h) hleft more
          rw [List.cons_append] at htake ⊢
          rw [readWhole, if_pos hc, htake]
          exact hzero
      · cases h

lemma readFraction_longer {fraction : Option (List Char)}
    (h : readFraction fate text = .ok (fraction, left)) (hleft : left ≠ []) (more : List Char) :
    readFraction fate (text ++ more) = .ok (fraction, left ++ more) := by
  unfold readFraction at h
  split at h
  · next rest =>
      obtain ⟨⟨digits, behind⟩, hdigits, heq⟩ := ok_of_map_eq_ok h
      cases heq
      rw [List.cons_append, readFraction, readDigits_longer hdigits hleft more]
      rfl
  · next hpoint =>
      cases h
      obtain ⟨c, rest, rfl⟩ := List.exists_cons_of_ne_nil hleft
      rw [List.cons_append, readFraction]
      rintro rest' heq
      cases heq
      exact hpoint rest rfl

lemma takeSign_longer (h : text ≠ []) (more : List Char) :
    takeSign (text ++ more) = ((takeSign text).1, (takeSign text).2 ++ more) := by
  obtain ⟨c, rest, rfl⟩ := List.exists_cons_of_ne_nil h
  by_cases hplus : c = '+'
  · subst hplus
    rfl
  by_cases hminus : c = '-'
  · subst hminus
    rfl
  simp [takeSign, hplus, hminus]

lemma readExponent_longer {exponent : Option (Bool × List Char)}
    (h : readExponent fate text = .ok (exponent, left)) (hleft : left ≠ []) (more : List Char) :
    readExponent fate (text ++ more) = .ok (exponent, left ++ more) := by
  unfold readExponent at h
  split at h
  · next mark rest =>
      split at h
      · next hmark =>
          rcases htake : takeSign rest with ⟨negative, unsigned⟩
          rw [htake] at h
          obtain ⟨⟨digits, behind⟩, hdigits, heq⟩ := ok_of_map_eq_ok h
          cases heq
          have hrest : rest ≠ [] := by
            rintro rfl
            cases htake
            cases hdigits
          rw [List.cons_append, readExponent, if_pos hmark, takeSign_longer hrest, htake]
          simp [readDigits_longer hdigits hleft more, Except.map]
      · next hmark =>
          cases h
          rw [List.cons_append, readExponent, if_neg hmark]
  · cases h
    exact absurd rfl hleft

lemma readUnsigned_longer {negative : Bool} {n : Numeral}
    (h : Numeral.readUnsigned fate negative text = .ok (n, left)) (hleft : left ≠ [])
    (more : List Char) :
    Numeral.readUnsigned fate negative (text ++ more) = .ok (n, left ++ more) := by
  simp only [Numeral.readUnsigned, bind, Except.bind, pure, Except.pure] at h
  split at h
  · cases h
  · next whole hwhole =>
      split at h
      · cases h
      · next fraction hfraction =>
          split at h
          · cases h
          · next exponent hexponent =>
              cases h
              -- every part leaves at least what the last one leaves
              have hmiddle : fraction.2 ≠ [] := by
                have hle := length_readExponent_le hexponent
                exact List.ne_nil_of_length_pos ((List.length_pos_of_ne_nil hleft).trans_le hle)
              have hfirst : whole.2 ≠ [] := by
                have hle := length_readFraction_le hfraction
                exact List.ne_nil_of_length_pos ((List.length_pos_of_ne_nil hmiddle).trans_le hle)
              simp [Numeral.readUnsigned, readWhole_longer hwhole hfirst more,
                readFraction_longer hfraction hmiddle more,
                readExponent_longer hexponent hleft more, bind, Except.bind, pure, Except.pure]

lemma read_longer {n : Numeral} (h : Numeral.read fate text = .ok (n, left)) (hleft : left ≠ [])
    (more : List Char) : Numeral.read fate (text ++ more) = .ok (n, left ++ more) := by
  unfold Numeral.read at h
  split at h
  · rw [List.cons_append, Numeral.read]
    exact readUnsigned_longer h hleft more
  · next hminus =>
      have hlonger := readUnsigned_longer h hleft more
      cases text with
      | nil => cases h
      | cons c text =>
          rw [List.cons_append] at hlonger ⊢
          rw [Numeral.read, hlonger]
          rintro rest heq
          cases heq
          exact hminus text rfl

/-- **A number that leaves a rest has ended.** -/
theorem readNumber_longer {value : Number} (h : readNumber text = .ok (value, left))
    (hleft : left ≠ []) (more : List Char) :
    readNumber (text ++ more) = .ok (value, left ++ more) := by
  unfold readNumber at h
  split at h
  · cases h
  · next n behind hread =>
      split at h
      · next value' hvalue =>
          cases h
          simp [readNumber, read_longer hread hleft more, hvalue]
      · cases h

lemma passNumber_longer (h : fate.passNumber text = .ok left) (hleft : left ≠ [])
    (more : List Char) : fate.passNumber (text ++ more) = .ok (left ++ more) := by
  cases fate with
  | kept =>
      obtain ⟨⟨value, behind⟩, hread, rfl⟩ := ok_of_map_eq_ok h
      simp [Fate.passNumber, readNumber_longer hread hleft more, Except.map]
  | skipped =>
      obtain ⟨⟨n, behind⟩, hread, rfl⟩ := ok_of_map_eq_ok h
      simp [Fate.passNumber, read_longer hread hleft more, Except.map]

/-! ## Keywords and punctuation -/

lemma keyword_longer {ks : List Char} (h : keyword ks text = .ok rest) (more : List Char) :
    keyword ks (text ++ more) = .ok (rest ++ more) := by
  induction ks generalizing text with
  | nil =>
      cases h
      rfl
  | cons k ks ih =>
      cases text with
      | nil => cases h
      | cons c text =>
          simp only [keyword] at h
          split at h
          · next hc => simpa only [List.cons_append, keyword, if_pos hc] using ih h
          · cases h

lemma skipGap_longer {c : Char} (h : skipGap text = c :: rest) (more : List Char) :
    skipGap (text ++ more) = c :: (rest ++ more) := by
  rw [skipGap] at h
  simp [skipGap, List.dropWhile_append, h]

lemma colon_longer (h : colon text = .ok rest) (more : List Char) :
    colon (text ++ more) = .ok (rest ++ more) := by
  unfold colon at h
  split at h
  · cases h
  · next hskip =>
      cases h
      simp [colon, skipGap_longer hskip more]
  · cases h

lemma nextElement_longer {first : Bool} {step : Step}
    (h : nextElement fate first text = .ok (step, rest)) (more : List Char) :
    nextElement fate first (text ++ more) = .ok (step, rest ++ more) := by
  unfold nextElement at h
  split at h
  · cases h
  · next hskip =>
      cases h
      simp [nextElement, skipGap_longer hskip more]
  · next c behind hclose hskip =>
      have hskip' := skipGap_longer hskip more
      split at h
      · next hfirst =>
          cases h
          simp [nextElement, hskip', hfirst]
      · next hfirst =>
          split at h
          · next hc =>
              split at h
              · cases h
              · cases h
              · next hend hclose' =>
                  cases h
                  obtain ⟨d, rest', hrest⟩ := List.exists_cons_of_ne_nil hend
                  have hrest' := skipGap_longer hrest more
                  have hd : d ≠ ']' := by
                    rintro rfl
                    exact hclose' rest' hrest
                  simp [nextElement, hskip', hfirst, hc, hrest, hrest', hd]
          · cases h

lemma nextMember_longer {first : Bool} {step : Step}
    (h : nextMember fate first text = .ok (step, rest)) (more : List Char) :
    nextMember fate first (text ++ more) = .ok (step, rest ++ more) := by
  unfold nextMember at h
  split at h
  · cases h
  · next hskip =>
      cases h
      simp [nextMember, skipGap_longer hskip more]
  · next c behind hclose hskip =>
      have hskip' := skipGap_longer hskip more
      split at h
      · next hfirst =>
          obtain ⟨rfl, heq⟩ := eq_cons_of_openKey h
          cases heq
          simp [nextMember, hskip', hfirst, openKey]
      · next hfirst =>
          split at h
          · next hc =>
              split at h
              · cases h
              · cases h
              · cases h
              · next fate _ _ _ _ _ =>
                  obtain ⟨rfl, hrest⟩ := eq_cons_of_openKey h
                  have hrest' := skipGap_longer hrest more
                  cases fate <;> simp [nextMember, hskip', hfirst, hc, hrest', openKey]
          · cases h

lemma passKey_longer (h : fate.passKey text = .ok rest) (more : List Char) :
    fate.passKey (text ++ more) = .ok (rest ++ more) := by
  unfold Fate.passKey at h
  split at h
  · cases h
  · next behind htext => simp [Fate.passKey, passText_longer htext more, colon_longer h more]

/-! ## Values without parts -/

theorem passScalar_longer (h : passScalar fate text = .ok rest) (hrest : rest ≠ [])
    (more : List Char) : passScalar fate (text ++ more) = .ok (rest ++ more) := by
  unfold passScalar at h
  split at h
  · cases h
  · exact passText_longer h more
  · exact keyword_longer h more
  · exact keyword_longer h more
  · exact keyword_longer h more
  · split at h
    · next hc =>
        have hlonger := passNumber_longer h hrest more
        rw [List.cons_append] at hlonger ⊢
        rw [passScalar_number hc, hlonger]
    · cases h

end ChatPanel.Json
