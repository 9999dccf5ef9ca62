import ChatPanel.Json.Numeral
import ChatPanel.Json.Text

/-!
# JSON values of any shape

A value inside a record is read to its end without being built: only a string is of use to a field,
so a value is either a text or something else.

* `passScalar` — a string, a number or a keyword.
* `pass` — a whole value.  The brackets that it has opened and not closed yet are kept in a list,
  the innermost first, so that a value may nest as deep as the text allows.
* `readValue` — a value that a field asked for: its text if it is a string.

**Depth.**  A value that is kept may have at most `deepest` brackets open inside the record that
holds it.  One that is skipped has no limit.
-/

namespace ChatPanel.Json

/-- Reads a value without parts, at its first character. -/
def passScalar (fate : Fate) : List Char → Except Fault (List Char)
  | [] => .error (.next .endInValue [])
  | '"' :: rest => fate.passText rest
  | 'n' :: rest => keyword ['u', 'l', 'l'] rest
  | 't' :: rest => keyword ['r', 'u', 'e'] rest
  | 'f' :: rest => keyword ['a', 'l', 's', 'e'] rest
  | c :: rest =>
    if c = '-' ∨ c.isDigit then fate.passNumber (c :: rest) else .error (.next .noValue (c :: rest))

/-- An open bracket. -/
inductive Bracket where
  | list
  | object
  deriving DecidableEq, Repr

/-- The most brackets that a kept value may have open at once. -/
def deepest : Nat := 126

/-- May no further bracket be opened inside these? -/
def Fate.full (fate : Fate) (opened : List Bracket) : Bool :=
  fate = .kept && deepest ≤ opened.length

/-- Passes over the key of a member, behind its opening quotation mark, and the colon. -/
def Fate.passKey (fate : Fate) (text : List Char) : Except Fault (List Char) :=
  match fate.passText text with
  | .error fault => .error fault
  | .ok rest => colon rest

/-- What a reader inside a value looks for. -/
inductive Due where
  /-- The start of a value. -/
  | value
  /-- The next item of the innermost bracket, or its end. -/
  | item (first : Bool)
  deriving DecidableEq, Repr

/-- How much a reader may still do before it has to read a character. -/
def Due.rank : Due → Nat
  | .value => 0
  | .item _ => 1

theorem length_passScalar_lt {fate : Fate} {text rest : List Char}
    (h : passScalar fate text = .ok rest) : rest.length < text.length := by
  unfold passScalar at h
  split at h
  · cases h
  · exact Nat.lt_succ_of_lt (Fate.length_passText_lt h)
  · exact Nat.lt_succ_of_le (length_keyword_le h)
  · exact Nat.lt_succ_of_le (length_keyword_le h)
  · exact Nat.lt_succ_of_le (length_keyword_le h)
  · split at h
    · exact Fate.length_passNumber_lt h
    · cases h

theorem Fate.length_passKey_lt {fate : Fate} {text rest : List Char}
    (h : fate.passKey text = .ok rest) : rest.length < text.length := by
  unfold passKey at h
  split at h
  · cases h
  · next behind ht => exact Nat.lt_trans (length_colon_lt h) (length_passText_lt ht)

/-- Reads on until every open bracket is closed, or until a value that stands in none has ended. -/
def pass (fate : Fate) : Due → List Bracket → List Char → Except Fault (List Char)
  | .item _, [], text => .ok text
  | .item first, .list :: outer, text =>
    match _h : nextElement fate first text with
    | .error fault => .error fault
    | .ok (.close, rest) => pass fate (.item false) outer rest
    | .ok (.item, rest) => pass fate .value (.list :: outer) rest
  | .item first, .object :: outer, text =>
    match _h : nextMember fate first text with
    | .error fault => .error fault
    | .ok (.close, rest) => pass fate (.item false) outer rest
    | .ok (.item, rest) =>
      match _hk : fate.passKey rest with
      | .error fault => .error fault
      | .ok behind => pass fate .value (.object :: outer) behind
  | .value, opened, text =>
    match _h : skipGap text with
    | '[' :: rest =>
      if fate.full opened then .error (.next .tooDeep ('[' :: rest))
      else pass fate (.item true) (.list :: opened) rest
    | '{' :: rest =>
      if fate.full opened then .error (.next .tooDeep ('{' :: rest))
      else pass fate (.item true) (.object :: opened) rest
    | start =>
      match _hs : passScalar fate start with
      | .error fault => .error fault
      | .ok rest => pass fate (.item false) opened rest
termination_by due _ text => 2 * text.length + due.rank
decreasing_by
  · have := length_nextElement_close_lt _h; simp only [Due.rank]; omega
  · have := length_nextElement_le _h; simp only [Due.rank]; omega
  · have := length_nextMember_lt _h; simp only [Due.rank]; omega
  · have := length_nextMember_lt _h; have := Fate.length_passKey_lt _hk
    simp only [Due.rank]; omega
  · have := length_skipGap_le text
    rw [_h, List.length_cons] at this; simp only [Due.rank]; omega
  · have := length_skipGap_le text
    rw [_h, List.length_cons] at this; simp only [Due.rank]; omega
  · have := length_skipGap_le text; have := length_passScalar_lt _hs
    rw [_h] at *; simp only [Due.rank]; omega

/-- Passes over one value. -/
def Fate.passValue (fate : Fate) (text : List Char) : Except Fault (List Char) :=
  pass fate .value [] text

theorem length_pass_lt {fate : Fate} {due : Due} {opened : List Bracket} {text rest : List Char}
    (h : pass fate due opened text = .ok rest) :
    2 * rest.length + 1 ≤ 2 * text.length + due.rank := by
  fun_induction pass fate due opened text with
  | case1 => cases h; exact Nat.le_refl _
  | case2 => cases h
  | case3 first outer text behind he ih =>
    have := length_nextElement_close_lt he
    have := ih h
    simp only [Due.rank] at *
    omega
  | case4 first outer text behind he ih =>
    have := length_nextElement_le he
    have := ih h
    simp only [Due.rank] at *
    omega
  | case5 => cases h
  | case6 first outer text behind he ih =>
    have := length_nextMember_lt he
    have := ih h
    simp only [Due.rank] at *
    omega
  | case7 => cases h
  | case8 first outer text behind he value hk ih =>
    have := length_nextMember_lt he
    have := Fate.length_passKey_lt hk
    have := ih h
    simp only [Due.rank] at *
    omega
  | case9 => cases h
  | case10 opened text behind hs _ ih =>
    have := length_skipGap_le text
    rw [hs, List.length_cons] at this
    have := ih h
    simp only [Due.rank] at *
    omega
  | case11 => cases h
  | case12 opened text behind hs _ ih =>
    have := length_skipGap_le text
    rw [hs, List.length_cons] at this
    have := ih h
    simp only [Due.rank] at *
    omega
  | case13 => cases h
  | case14 opened text _ _ behind hs ih =>
    have := length_skipGap_le text
    have := length_passScalar_lt hs
    have := ih h
    simp only [Due.rank] at *
    omega

theorem Fate.length_passValue_lt {fate : Fate} {text rest : List Char}
    (h : fate.passValue text = .ok rest) : rest.length < text.length := by
  have hlt := length_pass_lt h
  simp only [Due.rank] at hlt
  omega

/-- Reads one value that is kept: its text if it is a string. -/
def readValue (text : List Char) : Except Fault (Option (List Char) × List Char) :=
  match skipGap text with
  | '"' :: rest => (readText rest).map fun (cs, left) => (some cs, left)
  | start => (Fate.kept.passValue start).map fun left => (none, left)

theorem length_readValue_lt {text left : List Char} {found : Option (List Char)}
    (h : readValue text = .ok (found, left)) : left.length < text.length := by
  have hle := length_skipGap_le text
  unfold readValue at h
  split at h
  · next rest hs =>
    cases ht : readText rest with
    | error fault => simp [ht, Except.map] at h
    | ok p =>
      simp only [ht, Except.map, Except.ok.injEq, Prod.mk.injEq] at h
      have hlt := length_readText_lt ht
      rw [hs, List.length_cons] at hle
      rw [← h.2]
      omega
  · cases hp : Fate.kept.passValue (skipGap text) with
    | error fault => simp [hp, Except.map] at h
    | ok rest =>
      simp only [hp, Except.map, Except.ok.injEq, Prod.mk.injEq] at h
      have hlt := Fate.length_passValue_lt hp
      rw [← h.2]
      omega

end ChatPanel.Json
