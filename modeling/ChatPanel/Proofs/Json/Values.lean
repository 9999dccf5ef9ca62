import ChatPanel.Json.Value
import ChatPanel.Proofs.Json.Layout
import ChatPanel.Proofs.Json.Strings

/-!
# Values are passed over to their end

The reader of a value goes along the text and keeps the open brackets in a list.  Told along the tree
of the value, it does this: it stops right behind the value, whatever stands there, or it fails.

* `Value.fits` — what the reader asks of a value.  A value that is skipped always fits
  (`fits_skipped`).  One that is kept must have a text for each of its strings and keys and a number
  for each of its numerals, and it may not nest too deeply.
* **`goes_value`** — the reader goes on behind a value that fits, and fails at any other, whatever
  brackets are open around it.  `goes_passValue` is the case of none.

**The open brackets** are carried along unchanged: a value is read in the same way inside any others,
except that a kept one counts them.  So the induction is on the tree, and the readers of a list's and
an object's further items come back to the brackets around them.
-/

namespace ChatPanel.Json

variable {fate : Fate} {tokens : List Token} {text : List Char}

/-! ## What a value must be like -/

mutual

/-- May the value be read with this many brackets open around it? -/
def Value.fits (fate : Fate) (depth : ℕ) : Value → Bool
  | .null => true
  | .flag _ => true
  | .number n => fate = .skipped || n.value.isOk
  | .string text => fate = .skipped || text.isSome
  | .list items => (fate = .skipped || depth < deepest) && Value.itemsFit fate (depth + 1) items
  | .object members =>
    (fate = .skipped || depth < deepest) && Value.membersFit fate (depth + 1) members

/-- May the elements of a list be read? -/
def Value.itemsFit (fate : Fate) (depth : ℕ) : List Value → Bool
  | [] => true
  | item :: items => item.fits fate depth && Value.itemsFit fate depth items

/-- May the members of an object be read? -/
def Value.membersFit (fate : Fate) (depth : ℕ) : List (Option (List Char) × Value) → Bool
  | [] => true
  | (key, value) :: members =>
    (fate = .skipped || key.isSome) && (value.fits fate depth && Value.membersFit fate depth members)

end

mutual

/-- A value that is skipped may be any value. -/
theorem Value.fits_skipped (depth : ℕ) (v : Value) : v.fits .skipped depth = true := by
  cases v with
  | null => rfl
  | flag value => rfl
  | number n => rfl
  | string text => rfl
  | list items => simp [fits, itemsFit_skipped]
  | object members => simp [fits, membersFit_skipped]

theorem Value.itemsFit_skipped (depth : ℕ) (items : List Value) :
    itemsFit .skipped depth items = true := by
  cases items with
  | nil => rfl
  | cons item items => simp [itemsFit, fits_skipped, itemsFit_skipped]

theorem Value.membersFit_skipped (depth : ℕ) (members : List (Option (List Char) × Value)) :
    membersFit .skipped depth members = true := by
  cases members with
  | nil => rfl
  | cons member members =>
      obtain ⟨key, value⟩ := member
      simp [membersFit, fits_skipped, membersFit_skipped]

end

/-! ## Going on -/

/-- A reader that goes on where the text holds these tokens, if all fits, and otherwise fails. -/
def Goes {α : Type} (fits : Bool) (tokens : List Token) (next : List Char → Except Fault α)
    (result : Except Fault α) : Prop :=
  if fits then ∃ rest, Laid tokens rest ∧ result = next rest else ∃ fault, result = .error fault

lemma goes_next {α : Type} {next : List Char → Except Fault α} {rest : List Char}
    (h : Laid tokens rest) : Goes true tokens next (next rest) :=
  ⟨rest, h, rfl⟩

lemma goes_error {α : Type} {next : List Char → Except Fault α} (fault : Fault) :
    Goes false tokens next (.error fault) :=
  ⟨fault, rfl⟩

/-- Two readers one after the other. -/
lemma Goes.trans {α : Type} {fits fits' : Bool} {tokens' : List Token}
    {next next' : List Char → Except Fault α} {result : Except Fault α}
    (h : Goes fits tokens next result)
    (h' : ∀ rest, Laid tokens rest → Goes fits' tokens' next' (next rest)) :
    Goes (fits && fits') tokens' next' result := by
  cases fits with
  | false => exact h
  | true =>
      obtain ⟨rest, hrest, rfl⟩ := h
      exact h' rest hrest

/-- What follows a reader that has come to its end. -/
lemma Goes.bind {α : Type} {fits : Bool} {result : Except Fault (List Char)}
    (h : Goes fits tokens .ok result) (next : List Char → Except Fault α) :
    Goes fits tokens next (result.bind next) := by
  cases fits with
  | false =>
      obtain ⟨fault, rfl⟩ := h
      exact goes_error fault
  | true =>
      obtain ⟨rest, hrest, rfl⟩ := h
      exact goes_next hrest

/-! ## Values without parts -/

lemma goes_passText {content : Option (List Char)} {body rest : List Char}
    (h : IsBody content body) (hrest : Laid tokens rest) :
    Goes (fate = .skipped || content.isSome) tokens .ok (fate.passText (body ++ '"' :: rest)) := by
  cases content with
  | some content =>
      have hread := readText_of_spelled h rest
      have hskip := skipText_of_body h.stringBody rest
      cases fate with
      | kept => simpa [Fate.passText, hread, Except.map] using goes_next hrest
      | skipped => simpa [Fate.passText, hskip] using goes_next hrest
  | none =>
      obtain ⟨fault, hread⟩ := readText_of_noText h.1 h.2 rest
      have hskip := skipText_of_body h.1 rest
      cases fate with
      | kept => simpa [Fate.passText, hread, Except.map] using goes_error fault
      | skipped => simpa [Fate.passText, hskip] using goes_next hrest

lemma goes_passNumber {n : Numeral} {chars rest : List Char} (h : n.Written chars)
    (hrest : Laid tokens rest) (hcloses : Closes tokens) :
    Goes (fate = .skipped || n.value.isOk) tokens .ok (fate.passNumber (chars ++ rest)) := by
  have hread := read_of_written h (hrest.endsNumber hcloses)
  cases fate with
  | skipped => simpa [Fate.passNumber, hread, Except.map] using goes_next hrest
  | kept =>
      cases hvalue : n.value with
      | ok value =>
          simpa [Fate.passNumber, readNumber, hread, hvalue, Except.map, Except.isOk, Except.toBool]
            using goes_next hrest
      | error unread =>
          simpa [Fate.passNumber, readNumber, hread, hvalue, Except.map, Except.isOk, Except.toBool]
            using goes_error _

lemma passScalar_number {c : Char} (h : c = '-' ∨ c.isDigit = true) (rest : List Char) :
    passScalar fate (c :: rest) = fate.passNumber (c :: rest) := by
  have hne {other : Char} (hother : ¬ (other = '-' ∨ other.isDigit = true)) : c ≠ other := by
    rintro rfl
    exact hother h
  rw [passScalar]
  · exact if_pos h
  all_goals exact hne (by decide)

/-- Has the value no parts? -/
def Value.IsScalar : Value → Prop
  | .list _ => False
  | .object _ => False
  | _ => True

/-- Does the value begin with this character? -/
def Value.StartsWith : Value → Char → Prop
  | .null, c => c = 'n'
  | .flag value, c => c = if value then 't' else 'f'
  | .number _, c => c = '-' ∨ c.isDigit = true
  | .string _, c => c = '"'
  | .list _, c => c = '['
  | .object _, c => c = '{'

lemma Laid.skipGap_value {v : Value} (h : Laid (v.tokens ++ tokens) text) :
    ∃ c rest, skipGap text = c :: rest ∧ v.StartsWith c := by
  cases v with
  | null =>
      obtain ⟨rest, hskip, -⟩ := h.skipGap_word
      exact ⟨_, _, hskip, rfl⟩
  | flag value =>
      cases value <;>
      · obtain ⟨rest, hskip, -⟩ := h.skipGap_word
        exact ⟨_, _, hskip, rfl⟩
  | number n =>
      obtain ⟨chars, rest, hskip, hchars, -⟩ := h.skipGap_numeral
      obtain ⟨c, more, rfl, hc⟩ := hchars.exists_head
      exact ⟨c, _, hskip, hc⟩
  | string content =>
      obtain ⟨body, rest, hskip, -, -⟩ := h.skipGap_string
      exact ⟨_, _, hskip, rfl⟩
  | list items =>
      obtain ⟨rest, hskip, -⟩ := h.skipGap_mark
      exact ⟨_, _, hskip, rfl⟩
  | object members =>
      obtain ⟨rest, hskip, -⟩ := h.skipGap_mark
      exact ⟨_, _, hskip, rfl⟩

/-- No value begins like the end of a list. -/
lemma Value.StartsWith.ne_close {v : Value} {c : Char} (h : v.StartsWith c) : c ≠ ']' := by
  rintro rfl
  cases v with
  | flag value => cases value <;> simp [StartsWith] at h
  | _ => simp [StartsWith] at h

/-- Only a value with parts begins with an opening bracket. -/
lemma Value.StartsWith.ne_open {v : Value} {c : Char} (h : v.StartsWith c) (hv : v.IsScalar) :
    c ≠ '[' ∧ c ≠ '{' := by
  constructor
  all_goals
    rintro rfl
    cases v with
    | flag value => cases value <;> simp [StartsWith] at h
    | list items => exact hv
    | object members => exact hv
    | _ => simp [StartsWith] at h

lemma goes_passScalar {v : Value} (hv : v.IsScalar) (depth : ℕ) (h : Laid (v.tokens ++ tokens) text)
    (hcloses : Closes tokens) :
    Goes (v.fits fate depth) tokens .ok (passScalar fate (skipGap text)) := by
  cases v with
  | null =>
      obtain ⟨rest, hskip, hrest⟩ := h.skipGap_word
      rw [hskip]
      exact goes_next hrest
  | flag value =>
      cases value <;>
      · obtain ⟨rest, hskip, hrest⟩ := h.skipGap_word
        rw [hskip]
        exact goes_next hrest
  | number n =>
      obtain ⟨chars, rest, hskip, hchars, hrest⟩ := h.skipGap_numeral
      have hpass := @goes_passNumber fate _ _ _ _ hchars hrest hcloses
      obtain ⟨c, more, rfl, hc⟩ := hchars.exists_head
      rw [hskip, List.cons_append, passScalar_number hc]
      exact hpass
  | string content =>
      obtain ⟨body, rest, hskip, hbody, hrest⟩ := h.skipGap_string
      rw [hskip, passScalar]
      exact goes_passText hbody hrest
  | list items => exact hv.elim
  | object members => exact hv.elim

/-! ## One step of the reader -/

section Steps

variable {opened outer : List Bracket} {rest : List Char} {fault : Fault} {first : Bool}

lemma pass_scalar (h : passScalar fate (skipGap text) = .ok rest) :
    pass fate .value opened text = pass fate (.item false) opened rest := by
  rw [pass]
  split
  · next hskip => simp [hskip, passScalar] at h
  · next hskip => simp [hskip, passScalar] at h
  · split
    · next hs => cases h.symm.trans hs
    · next hs =>
        cases h.symm.trans hs
        rfl

lemma pass_scalar_error {c : Char} (hskip : skipGap text = c :: rest) (hlist : c ≠ '[')
    (hobject : c ≠ '{') (h : passScalar fate (skipGap text) = .error fault) :
    pass fate .value opened text = .error fault := by
  rw [pass]
  split
  · next hs =>
      cases hskip.symm.trans hs
      exact absurd rfl hlist
  · next hs =>
      cases hskip.symm.trans hs
      exact absurd rfl hobject
  · split
    · next hs =>
        cases h.symm.trans hs
        rfl
    · next hs => cases h.symm.trans hs

lemma pass_list (h : skipGap text = '[' :: rest) :
    pass fate .value opened text
      = if fate.full opened then .error (.next .tooDeep ('[' :: rest))
        else pass fate (.item true) (.list :: opened) rest := by
  conv_lhs => rw [pass]
  split
  · next hskip =>
      cases h.symm.trans hskip
      rfl
  · next hskip => cases h.symm.trans hskip
  · next hlist _ => exact absurd h (hlist rest)

lemma pass_object (h : skipGap text = '{' :: rest) :
    pass fate .value opened text
      = if fate.full opened then .error (.next .tooDeep ('{' :: rest))
        else pass fate (.item true) (.object :: opened) rest := by
  conv_lhs => rw [pass]
  split
  · next hskip => cases h.symm.trans hskip
  · next hskip =>
      cases h.symm.trans hskip
      rfl
  · next hobject => exact absurd h (hobject rest)

lemma pass_listClose (h : nextElement fate first text = .ok (.close, rest)) :
    pass fate (.item first) (.list :: outer) text = pass fate (.item false) outer rest := by
  rw [pass]
  split
  · next he => cases h.symm.trans he
  · next he =>
      cases h.symm.trans he
      rfl
  · next he => cases h.symm.trans he

lemma pass_listItem (h : nextElement fate first text = .ok (.item, rest)) :
    pass fate (.item first) (.list :: outer) text = pass fate .value (.list :: outer) rest := by
  rw [pass]
  split
  · next he => cases h.symm.trans he
  · next he => cases h.symm.trans he
  · next he =>
      cases h.symm.trans he
      rfl

lemma pass_objectClose (h : nextMember fate first text = .ok (.close, rest)) :
    pass fate (.item first) (.object :: outer) text = pass fate (.item false) outer rest := by
  rw [pass]
  split
  · next he => cases h.symm.trans he
  · next he =>
      cases h.symm.trans he
      rfl
  · next he => cases h.symm.trans he

lemma pass_objectItem (h : nextMember fate first text = .ok (.item, rest)) :
    pass fate (.item first) (.object :: outer) text
      = (fate.passKey rest).bind (pass fate .value (.object :: outer)) := by
  conv_lhs => rw [pass]
  split
  · next he => cases h.symm.trans he
  · next he => cases h.symm.trans he
  · next he =>
      cases h.symm.trans he
      split <;>
      · next hkey =>
          rw [hkey]
          rfl

end Steps

/-! ## Punctuation -/

lemma nextElement_close (first : Bool) (h : Laid (.mark ']' :: tokens) text) :
    ∃ rest, nextElement fate first text = .ok (.close, rest) ∧ Laid tokens rest := by
  obtain ⟨rest, hskip, hrest⟩ := h.skipGap_mark
  exact ⟨rest, by simp [nextElement, hskip], hrest⟩

lemma nextElement_first {v : Value} (h : Laid (v.tokens ++ tokens) text) :
    ∃ rest, nextElement fate true text = .ok (.item, rest) ∧ Laid (v.tokens ++ tokens) rest := by
  obtain ⟨c, rest, hskip, hc⟩ := h.skipGap_value
  have hrest := h.of_skipGap
  rw [hskip] at hrest
  exact ⟨c :: rest, by simp [nextElement, hskip, hc.ne_close], hrest⟩

lemma nextElement_comma {v : Value} (h : Laid (.mark ',' :: (v.tokens ++ tokens)) text) :
    ∃ rest, nextElement fate false text = .ok (.item, rest) ∧ Laid (v.tokens ++ tokens) rest := by
  obtain ⟨behind, hcomma, hbehind⟩ := h.skipGap_mark
  obtain ⟨c, rest, hskip, hc⟩ := hbehind.skipGap_value
  have hrest := hbehind.of_skipGap
  rw [hskip] at hrest
  exact ⟨c :: rest, by simp [nextElement, hcomma, hskip, hc.ne_close], hrest⟩

lemma nextMember_close (first : Bool) (h : Laid (.mark '}' :: tokens) text) :
    ∃ rest, nextMember fate first text = .ok (.close, rest) ∧ Laid tokens rest := by
  obtain ⟨rest, hskip, hrest⟩ := h.skipGap_mark
  exact ⟨rest, by simp [nextMember, hskip], hrest⟩

lemma nextMember_first {key : Option (List Char)} (h : Laid (.string key :: tokens) text) :
    ∃ body rest, nextMember fate true text = .ok (.item, body ++ '"' :: rest) ∧
      IsBody key body ∧ Laid tokens rest := by
  obtain ⟨body, rest, hskip, hbody, hrest⟩ := h.skipGap_string
  exact ⟨body, rest, by simp [nextMember, hskip, openKey], hbody, hrest⟩

lemma nextMember_comma {key : Option (List Char)}
    (h : Laid (.mark ',' :: .string key :: tokens) text) :
    ∃ body rest, nextMember fate false text = .ok (.item, body ++ '"' :: rest) ∧
      IsBody key body ∧ Laid tokens rest := by
  obtain ⟨behind, hcomma, hbehind⟩ := h.skipGap_mark
  obtain ⟨body, rest, hskip, hbody, hrest⟩ := hbehind.skipGap_string
  exact ⟨body, rest, by cases fate <;> simp [nextMember, hcomma, hskip, openKey], hbody, hrest⟩

lemma colon_ok (h : Laid (.mark ':' :: tokens) text) :
    ∃ rest, colon text = .ok rest ∧ Laid tokens rest := by
  obtain ⟨rest, hskip, hrest⟩ := h.skipGap_mark
  exact ⟨rest, by simp [colon, hskip], hrest⟩

lemma passKey_eq (fate : Fate) (text : List Char) :
    fate.passKey text = (fate.passText text).bind colon := by
  rw [Fate.passKey]
  cases fate.passText text <;> rfl

lemma goes_passKey {key : Option (List Char)} {body rest : List Char} (h : IsBody key body)
    (hrest : Laid (.mark ':' :: tokens) rest) :
    Goes (fate = .skipped || key.isSome) tokens .ok (fate.passKey (body ++ '"' :: rest)) := by
  have hcolon (behind : List Char) (hbehind : Laid (.mark ':' :: tokens) behind) :
      Goes true tokens .ok (colon behind) := by
    obtain ⟨left, hcolon, hleft⟩ := colon_ok hbehind
    exact ⟨left, hleft, hcolon⟩
  rw [passKey_eq]
  simpa using ((goes_passText h hrest).bind colon).trans hcolon

/-! ## Whole values -/

lemma not_full (fate : Fate) (opened : List Bracket) :
    (decide (fate = .skipped) || decide (opened.length < deepest)) = !fate.full opened := by
  cases fate with
  | kept => simp [Fate.full, ← decide_not]
  | skipped => rfl

/-- A member is read up to its value, if its key fits. -/
lemma goes_member (outer : List Bracket) {key : Option (List Char)} {body rest : List Char}
    {first : Bool} (hnext : nextMember fate first text = .ok (.item, body ++ '"' :: rest))
    (hbody : IsBody key body) (hrest : Laid (.mark ':' :: tokens) rest) :
    Goes (fate = .skipped || key.isSome) tokens (pass fate .value (.object :: outer))
      (pass fate (.item first) (.object :: outer) text) := by
  rw [pass_objectItem hnext]
  exact (goes_passKey hbody hrest).bind _

lemma goes_scalar (v : Value) (hv : v.IsScalar) (opened : List Bracket)
    (h : Laid (v.tokens ++ tokens) text) (hcloses : Closes tokens) :
    Goes (v.fits fate opened.length) tokens (pass fate (.item false) opened)
      (pass fate .value opened text) := by
  have hpass := @goes_passScalar fate _ _ _ hv opened.length h hcloses
  cases hfits : v.fits fate opened.length with
  | true =>
      rw [hfits] at hpass
      obtain ⟨rest, hrest, hpass⟩ := hpass
      rw [pass_scalar hpass]
      exact goes_next hrest
  | false =>
      rw [hfits] at hpass
      obtain ⟨fault, hpass⟩ := hpass
      obtain ⟨c, rest, hskip, hc⟩ := h.skipGap_value
      rw [pass_scalar_error hskip (hc.ne_open hv).1 (hc.ne_open hv).2 hpass]
      exact goes_error fault

/-- What follows an item is a comma or the closing bracket. -/
lemma closes_groups (groups : List (List Token)) (c : Char) (tokens : List Token) :
    Closes (groups.flatMap (.mark ',' :: ·) ++ .mark c :: tokens) := by
  cases groups with
  | nil => exact closes_mark c tokens
  | cons group groups => exact closes_mark ',' _

mutual

/-- **The reader goes on behind a value that fits**, and fails at any other. -/
theorem goes_value (v : Value) (opened : List Bracket) {tokens : List Token} {text : List Char}
    (h : Laid (v.tokens ++ tokens) text) (hcloses : Closes tokens) :
    Goes (v.fits fate opened.length) tokens (pass fate (.item false) opened)
      (pass fate .value opened text) := by
  cases v with
  | list items =>
      simp only [Value.tokens, List.cons_append, List.append_assoc, List.nil_append] at h
      obtain ⟨rest, hskip, hrest⟩ := h.skipGap_mark
      rw [pass_list hskip, Value.fits, not_full]
      cases fate.full opened with
      | true => exact goes_error _
      | false =>
          cases items with
          | nil =>
              obtain ⟨behind, hnext, hbehind⟩ := @nextElement_close fate _ _ true hrest
              simpa [pass_listClose hnext, Value.itemsFit] using goes_next hbehind
          | cons item items =>
              -- the first item has no comma in front, and the bracket is open around it
              simp only [Value.itemTokens, separated, List.append_assoc] at hrest
              obtain ⟨behind, hnext, hbehind⟩ := @nextElement_first fate _ _ _ hrest
              have hitem := goes_value item (.list :: opened) hbehind (closes_groups _ _ _)
              simpa [pass_listItem hnext, Value.itemsFit] using
                hitem.trans fun left hleft => goes_items items opened hleft
  | object members =>
      simp only [Value.tokens, List.cons_append, List.append_assoc, List.nil_append] at h
      obtain ⟨rest, hskip, hrest⟩ := h.skipGap_mark
      rw [pass_object hskip, Value.fits, not_full]
      cases fate.full opened with
      | true => exact goes_error _
      | false =>
          cases members with
          | nil =>
              obtain ⟨behind, hnext, hbehind⟩ := @nextMember_close fate _ _ true hrest
              simpa [pass_objectClose hnext, Value.membersFit] using goes_next hbehind
          | cons member members =>
              obtain ⟨key, value⟩ := member
              simp only [Value.memberTokens, separated, List.cons_append, List.append_assoc] at hrest
              obtain ⟨body, behind, hnext, hbody, hbehind⟩ := @nextMember_first fate _ _ _ hrest
              have hmember := goes_member opened hnext hbody hbehind
              simpa [Value.membersFit] using hmember.trans fun left hleft =>
                (goes_value value (.object :: opened) hleft (closes_groups _ _ _)).trans
                  fun left hleft => goes_members members opened hleft
  | null => exact goes_scalar .null trivial opened h hcloses
  | flag value => exact goes_scalar (.flag value) trivial opened h hcloses
  | number n => exact goes_scalar (.number n) trivial opened h hcloses
  | string content => exact goes_scalar (.string content) trivial opened h hcloses

/-- The elements of a list behind the first one. -/
theorem goes_items (items : List Value) (outer : List Bracket) {tokens : List Token}
    {text : List Char}
    (h : Laid ((Value.itemTokens items).flatMap (.mark ',' :: ·) ++ .mark ']' :: tokens) text) :
    Goes (Value.itemsFit fate (outer.length + 1) items) tokens (pass fate (.item false) outer)
      (pass fate (.item false) (.list :: outer) text) := by
  cases items with
  | nil =>
      obtain ⟨rest, hnext, hrest⟩ := @nextElement_close fate _ _ false h
      rw [pass_listClose hnext]
      exact goes_next hrest
  | cons item items =>
      simp only [Value.itemTokens, List.flatMap_cons, List.cons_append, List.append_assoc] at h
      obtain ⟨rest, hnext, hrest⟩ := @nextElement_comma fate _ _ _ h
      rw [pass_listItem hnext, Value.itemsFit]
      have hitem := goes_value item (.list :: outer) hrest (closes_groups _ _ _)
      exact hitem.trans fun behind hbehind => goes_items items outer hbehind

/-- The members of an object behind the first one. -/
theorem goes_members (members : List (Option (List Char) × Value)) (outer : List Bracket)
    {tokens : List Token} {text : List Char}
    (h : Laid ((Value.memberTokens members).flatMap (.mark ',' :: ·) ++ .mark '}' :: tokens) text) :
    Goes (Value.membersFit fate (outer.length + 1) members) tokens (pass fate (.item false) outer)
      (pass fate (.item false) (.object :: outer) text) := by
  cases members with
  | nil =>
      obtain ⟨rest, hnext, hrest⟩ := @nextMember_close fate _ _ false h
      rw [pass_objectClose hnext]
      exact goes_next hrest
  | cons member members =>
      obtain ⟨key, value⟩ := member
      simp only [Value.memberTokens, List.flatMap_cons, List.cons_append, List.append_assoc] at h
      obtain ⟨body, rest, hnext, hbody, hrest⟩ := @nextMember_comma fate _ _ _ h
      have hmember := goes_member outer hnext hbody hrest
      rw [Value.membersFit]
      exact hmember.trans fun behind hbehind =>
        (goes_value value (.object :: outer) hbehind (closes_groups _ _ _)).trans
          fun left hleft => goes_members members outer hleft

end

/-- **A value that stands alone is passed over to its end**, if it fits. -/
theorem goes_passValue {v : Value} (h : Laid (v.tokens ++ tokens) text) (hcloses : Closes tokens) :
    Goes (v.fits fate 0) tokens .ok (fate.passValue text) := by
  have hdone : pass fate (.item false) [] = .ok := by
    funext rest
    rw [pass]
  rw [Fate.passValue, ← hdone]
  exact goes_value v [] h hcloses

end ChatPanel.Json
