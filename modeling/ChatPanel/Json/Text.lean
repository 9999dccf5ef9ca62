import ChatPanel.Json.Scan

/-!
# JSON strings

A string that is kept is read into its characters (`readText`): a raw character stands for itself, a
backslash starts an escape, and two `\u` escapes that form a surrogate pair stand for one
character.  A string that is skipped is only passed over (`skipText`): its `\u` escapes need four
digits each but need not stand for anything.

**Failures.**  A raw control character is read before a kept string fails at it, but a skipped
string fails right in front of it.  A `\u` escape takes four bytes before they are looked at.
-/

namespace ChatPanel.Json

/-! ## Escapes -/

/-- The value of a digit in base sixteen, in either case. -/
def hexDigit (c : Char) : Option Nat :=
  if '0' ≤ c ∧ c ≤ '9' then some (c.toNat - '0'.toNat)
  else if 'a' ≤ c ∧ c ≤ 'f' then some (c.toNat - 'a'.toNat + 10)
  else if 'A' ≤ c ∧ c ≤ 'F' then some (c.toNat - 'A'.toNat + 10)
  else none

/-- The number that four digits in base sixteen write. -/
def hexValue (a b c d : Char) : Option Nat := do
  return (((← hexDigit a) * 16 + (← hexDigit b)) * 16 + (← hexDigit c)) * 16 + (← hexDigit d)

/-- Reads the four digits of a `\u` escape. -/
def hexQuad (rest : List Char) : Except Fault (Nat × List Char) :=
  match rest with
  | a :: b :: c :: d :: more =>
    match hexValue a b c d with
    | some unit => .ok (unit, more)
    | none => .error ⟨.badEscape, rest, 4⟩
  | _ =>
    if byteCount rest < 4 then .error (.behind .endInText [])
    else .error ⟨.badEscape, rest, 4⟩

/-- Is this the first half of a surrogate pair? -/
def isHighHalf (unit : Nat) : Bool :=
  0xD800 ≤ unit && unit < 0xDC00

/-- Is this the second half of a surrogate pair? -/
def isLowHalf (unit : Nat) : Bool :=
  0xDC00 ≤ unit && unit < 0xE000

/-- The character that a surrogate pair stands for. -/
def joinHalves (high low : Nat) : Char :=
  Char.ofNat (0x10000 + (high - 0xD800) * 0x400 + (low - 0xDC00))

/-- Reads the second half of a surrogate pair, which has to be an escape of its own. -/
def lowHalf (high : Nat) : List Char → Except Fault (Char × List Char)
  | [] => .error (.behind .endInText [])
  | ['\\'] => .error (.behind .endInText [])
  | '\\' :: 'u' :: rest =>
    match hexQuad rest with
    | .error fault => .error fault
    | .ok (low, more) =>
      if isLowHalf low then .ok (joinHalves high low, more)
      else .error (.behind .loneSurrogate more)
  | '\\' :: rest => .error (.next .brokenPair rest)
  | rest => .error (.next .brokenPair rest)

/-- Reads the character of a `\u` escape, the second escape of a surrogate pair included. -/
def unicodeEscape (rest : List Char) : Except Fault (Char × List Char) :=
  match hexQuad rest with
  | .error fault => .error fault
  | .ok (unit, more) =>
    if isHighHalf unit then lowHalf unit more
    else if isLowHalf unit then .error (.behind .loneSurrogate more)
    else .ok (Char.ofNat unit, more)

/-- The character that a one-letter escape stands for. -/
def shortEscape : Char → Option Char
  | '"' => some '"'
  | '\\' => some '\\'
  | '/' => some '/'
  | 'b' => some '\x08'
  | 'f' => some '\x0c'
  | 'n' => some '\n'
  | 'r' => some '\r'
  | 't' => some '\t'
  | _ => none

/-- Reads an escape behind its backslash. -/
def escape : List Char → Except Fault (Char × List Char)
  | [] => .error (.behind .endInText [])
  | 'u' :: rest => unicodeEscape rest
  | c :: rest =>
    match shortEscape c with
    | some meant => .ok (meant, rest)
    | none => .error (.next .badEscape (c :: rest))

/-- Passes over an escape behind its backslash. -/
def skipEscape : List Char → Except Fault (List Char)
  | [] => .error (.behind .endInText [])
  | 'u' :: rest => (hexQuad rest).map Prod.snd
  | c :: rest =>
    match shortEscape c with
    | some _ => .ok rest
    | none => .error (.next .badEscape (c :: rest))

/-! ## What an escape leaves is shorter -/

theorem length_hexQuad_lt {rest more : List Char} {unit : Nat}
    (h : hexQuad rest = .ok (unit, more)) : more.length < rest.length := by
  unfold hexQuad at h
  split at h
  · split at h
    · cases h; simp only [List.length_cons]; omega
    · cases h
  · split at h <;> cases h

theorem length_lowHalf_lt {high : Nat} {rest more : List Char} {c : Char}
    (h : lowHalf high rest = .ok (c, more)) : more.length < rest.length := by
  unfold lowHalf at h
  split at h
  · cases h
  · cases h
  · next r =>
    split at h
    · cases h
    · next low m hq =>
      split at h
      · rw [Except.ok.injEq, Prod.mk.injEq] at h
        have hlt := length_hexQuad_lt hq
        simp only [List.length_cons, ← h.2]
        omega
      · cases h
  · cases h
  · cases h

theorem length_unicodeEscape_lt {rest more : List Char} {c : Char}
    (h : unicodeEscape rest = .ok (c, more)) : more.length < rest.length := by
  unfold unicodeEscape at h
  split at h
  · cases h
  · next unit m hq =>
    have hlt := length_hexQuad_lt hq
    split at h
    · exact Nat.lt_trans (length_lowHalf_lt h) hlt
    · split at h
      · cases h
      · rw [Except.ok.injEq, Prod.mk.injEq] at h
        exact h.2 ▸ hlt

theorem length_escape_lt {rest more : List Char} {c : Char}
    (h : escape rest = .ok (c, more)) : more.length < rest.length := by
  unfold escape at h
  split at h
  · cases h
  · exact Nat.lt_succ_of_lt (length_unicodeEscape_lt h)
  · split at h
    · cases h; exact Nat.lt_succ_self _
    · cases h

theorem length_skipEscape_lt {rest more : List Char}
    (h : skipEscape rest = .ok more) : more.length < rest.length := by
  unfold skipEscape at h
  split at h
  · cases h
  · next r =>
    cases hq : hexQuad r with
    | error f => simp [hq, Except.map] at h
    | ok p =>
      simp only [hq, Except.map, Except.ok.injEq] at h
      exact h ▸ Nat.lt_succ_of_lt (length_hexQuad_lt hq)
  · split at h
    · cases h; exact Nat.lt_succ_self _
    · cases h

/-! ## Strings -/

/-- Reads a string behind its opening quotation mark: its characters, and the text behind the
closing quotation mark. -/
def readText : List Char → Except Fault (List Char × List Char)
  | [] => .error (.behind .endInText [])
  | '"' :: rest => .ok ([], rest)
  | '\\' :: rest =>
    match _h : escape rest with
    | .error fault => .error fault
    | .ok (c, more) =>
      match readText more with
      | .error fault => .error fault
      | .ok (cs, left) => .ok (c :: cs, left)
  | c :: rest =>
    if c < ' ' then .error (.next .controlCharacter (c :: rest))
    else
      match readText rest with
      | .error fault => .error fault
      | .ok (cs, left) => .ok (c :: cs, left)
termination_by s => s.length
decreasing_by
  · exact Nat.lt_succ_of_lt (length_escape_lt _h)
  · simp

/-- Passes over a string behind its opening quotation mark. -/
def skipText : List Char → Except Fault (List Char)
  | [] => .error (.behind .endInText [])
  | '"' :: rest => .ok rest
  | '\\' :: rest =>
    match _h : skipEscape rest with
    | .error fault => .error fault
    | .ok more => skipText more
  | c :: rest =>
    if c < ' ' then .error (.behind .controlCharacter (c :: rest)) else skipText rest
termination_by s => s.length
decreasing_by
  · exact Nat.lt_succ_of_lt (length_skipEscape_lt _h)
  · simp

/-- Passes over a string in the way its fate asks for. -/
def Fate.passText (fate : Fate) (rest : List Char) : Except Fault (List Char) :=
  match fate with
  | .kept => (readText rest).map Prod.snd
  | .skipped => skipText rest

theorem length_readText_lt {rest left cs : List Char} (h : readText rest = .ok (cs, left)) :
    left.length < rest.length := by
  fun_induction readText rest generalizing cs with
  | case1 => cases h
  | case2 rest => cases h; simp
  | case3 => cases h
  | case4 => cases h
  | case5 rest c more he tail left' ht ih =>
    cases h
    have hlt := ih ht
    have hesc := length_escape_lt he
    simp only [List.length_cons]
    omega
  | case6 => cases h
  | case7 => cases h
  | case8 c rest _ _ _ tail left' ht ih =>
    cases h
    have hlt := ih ht
    simp only [List.length_cons]
    omega

theorem length_skipText_lt {rest left : List Char} (h : skipText rest = .ok left) :
    left.length < rest.length := by
  fun_induction skipText rest with
  | case1 => cases h
  | case2 => cases h; simp
  | case3 => cases h
  | case4 rest more he ih =>
    have hesc := length_skipEscape_lt he
    have hlt := ih h
    simp only [List.length_cons]
    omega
  | case5 => cases h
  | case6 c rest _ _ _ ih => exact Nat.lt_succ_of_lt (ih h)

theorem Fate.length_passText_lt {fate : Fate} {rest left : List Char}
    (h : fate.passText rest = .ok left) : left.length < rest.length := by
  cases fate with
  | skipped => exact length_skipText_lt h
  | kept =>
    simp only [passText] at h
    cases ht : readText rest with
    | error f => simp [ht, Except.map] at h
    | ok p =>
      simp only [ht, Except.map, Except.ok.injEq] at h
      exact h ▸ length_readText_lt ht

end ChatPanel.Json
