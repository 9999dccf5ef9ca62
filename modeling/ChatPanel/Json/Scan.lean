import ChatPanel.Json.Fault

/-!
# Punctuation between JSON values

The functions here read what stands between values: gaps, keywords, colons, commas and closing
brackets.  Each takes the rest of the text and gives back the rest that it left.

**What becomes of a value** (`Fate`) decides some of the failures: a value that is kept is built,
and one that is skipped is only passed over.  The two readers accept the same punctuation, but
after a dangling comma, and at some ends of the text, they name the failure differently.
-/

namespace ChatPanel.Json

/-- What becomes of a value that is read. -/
inductive Fate where
  | kept
  | skipped
  deriving DecidableEq, Repr

/-- The four characters that may stand between tokens. -/
def isGap (c : Char) : Bool :=
  c = ' ' || c = '\t' || c = '\n' || c = '\r'

/-- The text from its next token on. -/
def skipGap (text : List Char) : List Char :=
  text.dropWhile isGap

/-- Reads the rest of a keyword whose first letter has been read. -/
def keyword : List Char → List Char → Except Fault (List Char)
  | [], text => .ok text
  | _ :: _, [] => .error (.behind .endInValue [])
  | k :: ks, c :: text =>
    if c = k then keyword ks text else .error (.next .noKeyword (c :: text))

/-- Reads the colon between a key and its value. -/
def colon (text : List Char) : Except Fault (List Char) :=
  match skipGap text with
  | [] => .error (.next .endInObject [])
  | ':' :: rest => .ok rest
  | other => .error (.next .noColon other)

/-- What follows inside a bracket: one more item, or the end. -/
inductive Step where
  | item
  | close
  deriving DecidableEq, Repr

/-- Goes to the next element of a list.  At an element the text begins with it; at the end the
closing bracket has been read. -/
def nextElement (fate : Fate) (first : Bool) (text : List Char) :
    Except Fault (Step × List Char) :=
  match skipGap text with
  | [] => .error (.next .endInList [])
  | ']' :: rest => .ok (.close, rest)
  | c :: rest =>
    if first then .ok (.item, c :: rest)
    else if c = ',' then
      match skipGap rest with
      | [] => .error (.next .endInValue [])
      | ']' :: more =>
        .error (.next (if fate = .kept then .danglingComma else .noValue) (']' :: more))
      | other => .ok (.item, other)
    else .error (.next .noListSeparator (c :: rest))

/-- Reads the quotation mark that opens a key. -/
def openKey (text : List Char) : Except Fault (Step × List Char) :=
  match text with
  | '"' :: rest => .ok (.item, rest)
  | other => .error (.next .keyNotText other)

/-- Goes to the next member of an object.  At a member the opening quotation mark of its key has
been read; at the end the closing brace has been. -/
def nextMember (fate : Fate) (first : Bool) (text : List Char) :
    Except Fault (Step × List Char) :=
  match skipGap text with
  | [] => .error (.next .endInObject [])
  | '}' :: rest => .ok (.close, rest)
  | c :: rest =>
    if first then openKey (c :: rest)
    else if c = ',' then
      match fate, skipGap rest with
      | .kept, [] => .error (.next .endInValue [])
      | .skipped, [] => .error (.next .endInObject [])
      | .kept, '}' :: more => .error (.next .danglingComma ('}' :: more))
      | _, other => openKey other
    else .error (.next .noObjectSeparator (c :: rest))

/-! ## Nothing is read twice

What a function leaves is never longer than what it was given, and shorter if it read a token.
-/

theorem length_skipGap_le (text : List Char) : (skipGap text).length ≤ text.length :=
  (List.dropWhile_sublist isGap).length_le

theorem length_keyword_le {ks text rest : List Char} (h : keyword ks text = .ok rest) :
    rest.length ≤ text.length := by
  induction ks generalizing text with
  | nil => simp only [keyword, Except.ok.injEq] at h; simp [h]
  | cons k ks ih =>
    cases text with
    | nil => simp [keyword] at h
    | cons c text =>
      simp only [keyword] at h
      split at h
      · exact Nat.le_succ_of_le (ih h)
      · cases h

theorem length_colon_lt {text rest : List Char} (h : colon text = .ok rest) :
    rest.length < text.length := by
  have hle := length_skipGap_le text
  unfold colon at h
  split at h
  · cases h
  · next r hs => cases h; simp only [hs, List.length_cons] at hle; omega
  · cases h

theorem length_openKey_lt {text rest : List Char} {step : Step}
    (h : openKey text = .ok (step, rest)) : rest.length < text.length := by
  unfold openKey at h
  split at h
  · cases h; simp
  · cases h

theorem length_nextElement_le {fate : Fate} {first : Bool} {text rest : List Char} {step : Step}
    (h : nextElement fate first text = .ok (step, rest)) : rest.length ≤ text.length := by
  have hle := length_skipGap_le text
  unfold nextElement at h
  split at h
  · cases h
  · next r hs => cases h; simp only [hs, List.length_cons] at hle; omega
  · next c r _ hs =>
    rw [hs] at hle
    split at h
    · cases h; exact hle
    · split at h
      · have hle' := length_skipGap_le r
        simp only [List.length_cons] at hle
        split at h
        · cases h
        · cases h
        · next hs' => cases h; omega
      · cases h

theorem length_nextElement_close_lt {fate : Fate} {first : Bool} {text rest : List Char}
    (h : nextElement fate first text = .ok (.close, rest)) : rest.length < text.length := by
  have hle := length_skipGap_le text
  unfold nextElement at h
  split at h
  · cases h
  · next r hs => cases h; simp only [hs, List.length_cons] at hle; omega
  · split at h
    · cases h
    · split at h
      · split at h <;> cases h
      · cases h

theorem length_nextMember_lt {fate : Fate} {first : Bool} {text rest : List Char} {step : Step}
    (h : nextMember fate first text = .ok (step, rest)) : rest.length < text.length := by
  have hle := length_skipGap_le text
  unfold nextMember at h
  split at h
  · cases h
  · next r hs => cases h; simp only [hs, List.length_cons] at hle; omega
  · next c r _ hs =>
    rw [hs] at hle
    split at h
    · have := length_openKey_lt h; omega
    · split at h
      · have hle' := length_skipGap_le r
        simp only [List.length_cons] at hle
        split at h
        · cases h
        · cases h
        · cases h
        · next hs' => have := length_openKey_lt h; omega
      · cases h

end ChatPanel.Json
