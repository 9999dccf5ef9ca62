import ChatPanel.Json.Scan

/-!
# JSON numbers as they are written

A numeral is a sign, whole digits without a zero in front, and possibly a fraction and an exponent.
Reading (`Numeral.read`) only takes the numeral apart; what number it stands for is a question of
its own (`Numeral.value`).

**The significand** holds as many digits as fit 64 bits.  The first digit that does not fit ends the
whole part, and each whole digit left out counts ten times as much in the power of ten.  The
fraction then goes on from there: a digit that fits is taken, and from the first that does not fit
on the digits are left out.

**The range.**  The significand is rounded to a binary64 value, so is the power of ten that it is
multiplied by, and so is the product.  A numeral whose significand is not zero is too large if one of
the three lies past the greatest value, or if its exponent does not fit 32 bits and has no minus sign.
So next to the greatest value it depends on the way a number is written whether it is too large.  A
numeral that is too small is zero.
-/

namespace ChatPanel.Json

/-- A number as it is written. -/
structure Numeral where
  negative : Bool
  whole : List Char
  fraction : Option (List Char)
  /-- The sign of the exponent, and its digits. -/
  exponent : Option (Bool × List Char)
  deriving DecidableEq, Repr

/-! ## Taking a numeral apart -/

/-- The digits at the start of a text, and the rest of it. -/
def takeDigits (text : List Char) : List Char × List Char :=
  (text.takeWhile Char.isDigit, text.dropWhile Char.isDigit)

/-- The failure at the end of a text that lacks a digit. -/
def Fate.noDigit : Fate → Cause
  | .kept => .endInValue
  | .skipped => .malformedNumber

/-- Reads the whole digits. -/
def readWhole (fate : Fate) : List Char → Except Fault (List Char × List Char)
  | [] => .error (.behind fate.noDigit [])
  | '0' :: rest =>
    if (rest.head?.any Char.isDigit) then .error (.next .malformedNumber rest)
    else .ok (['0'], rest)
  | c :: rest =>
    if c.isDigit then .ok (takeDigits (c :: rest)) else .error (.next .malformedNumber (c :: rest))

/-- Reads the digits that have to follow a point or an exponent mark. -/
def readDigits (fate : Fate) : List Char → Except Fault (List Char × List Char)
  | [] => .error (.behind fate.noDigit [])
  | c :: rest =>
    if c.isDigit then .ok (takeDigits (c :: rest)) else .error (.next .malformedNumber (c :: rest))

/-- Reads the fraction, if a point starts one. -/
def readFraction (fate : Fate) : List Char → Except Fault (Option (List Char) × List Char)
  | '.' :: rest => (readDigits fate rest).map fun (digits, left) => (some digits, left)
  | rest => .ok (none, rest)

/-- The sign of an exponent, and the text behind it. -/
def takeSign : List Char → Bool × List Char
  | '+' :: rest => (false, rest)
  | '-' :: rest => (true, rest)
  | rest => (false, rest)

/-- Reads the exponent, if a mark starts one. -/
def readExponent (fate : Fate) : List Char → Except Fault (Option (Bool × List Char) × List Char)
  | c :: rest =>
    if c = 'e' ∨ c = 'E' then
      let (negative, behind) := takeSign rest
      (readDigits fate behind).map fun (digits, left) => (some (negative, digits), left)
    else .ok (none, c :: rest)
  | [] => .ok (none, [])

/-- Reads the numeral behind its sign. -/
def Numeral.readUnsigned (fate : Fate) (negative : Bool) (text : List Char) :
    Except Fault (Numeral × List Char) := do
  let (whole, rest) ← readWhole fate text
  let (fraction, rest) ← readFraction fate rest
  let (exponent, rest) ← readExponent fate rest
  return (⟨negative, whole, fraction, exponent⟩, rest)

/-- Reads a numeral. -/
def Numeral.read (fate : Fate) : List Char → Except Fault (Numeral × List Char)
  | '-' :: rest => readUnsigned fate true rest
  | text => readUnsigned fate false text

/-! ## What is left of the text is shorter -/

theorem length_takeDigits_lt {c : Char} {rest : List Char} (h : c.isDigit = true) :
    (takeDigits (c :: rest)).2.length < (c :: rest).length := by
  simp only [takeDigits, List.dropWhile_cons, h, if_true, List.length_cons]
  exact Nat.lt_succ_of_le (List.dropWhile_sublist _).length_le

theorem length_readWhole_lt {fate : Fate} {text digits left : List Char}
    (h : readWhole fate text = .ok (digits, left)) : left.length < text.length := by
  unfold readWhole at h
  split at h
  · cases h
  · split at h
    · cases h
    · cases h; simp
  · next c rest _ =>
    split at h
    · next hd =>
      have hlt := @length_takeDigits_lt c rest hd
      rw [Except.ok.inj h] at hlt
      exact hlt
    · cases h

theorem length_readDigits_lt {fate : Fate} {text digits left : List Char}
    (h : readDigits fate text = .ok (digits, left)) : left.length < text.length := by
  unfold readDigits at h
  split at h
  · cases h
  · next c rest =>
    split at h
    · next hd =>
      have hlt := @length_takeDigits_lt c rest hd
      rw [Except.ok.inj h] at hlt
      exact hlt
    · cases h

theorem length_readFraction_le {fate : Fate} {text left : List Char} {digits : Option (List Char)}
    (h : readFraction fate text = .ok (digits, left)) : left.length ≤ text.length := by
  unfold readFraction at h
  split at h
  · next rest =>
    cases hr : readDigits fate rest with
    | error fault => simp [hr, Except.map] at h
    | ok p =>
      simp only [hr, Except.map, Except.ok.injEq, Prod.mk.injEq] at h
      have hlt := length_readDigits_lt hr
      simp only [List.length_cons, ← h.2]
      omega
  · cases h; exact Nat.le_refl _

theorem length_takeSign_le (text : List Char) : (takeSign text).2.length ≤ text.length := by
  unfold takeSign
  split <;> simp

theorem length_readExponent_le {fate : Fate} {text left : List Char}
    {exponent : Option (Bool × List Char)} (h : readExponent fate text = .ok (exponent, left)) :
    left.length ≤ text.length := by
  unfold readExponent at h
  split at h
  · next c rest =>
    split at h
    · have hs := length_takeSign_le rest
      cases hr : readDigits fate (takeSign rest).2 with
      | error fault => simp [hr, Except.map] at h
      | ok p =>
        simp only [hr, Except.map, Except.ok.injEq, Prod.mk.injEq] at h
        have hlt := length_readDigits_lt hr
        simp only [List.length_cons, ← h.2]
        omega
    · cases h; exact Nat.le_refl _
  · cases h; exact Nat.le_refl _

theorem Numeral.length_readUnsigned_lt {fate : Fate} {negative : Bool} {text left : List Char}
    {n : Numeral} (h : readUnsigned fate negative text = .ok (n, left)) :
    left.length < text.length := by
  simp only [readUnsigned, bind, Except.bind, pure, Except.pure] at h
  split at h
  · cases h
  · next p hw =>
    split at h
    · cases h
    · next q hf =>
      split at h
      · cases h
      · next r he =>
        rw [Except.ok.injEq, Prod.mk.injEq] at h
        have h1 := length_readWhole_lt hw
        have h2 := length_readFraction_le hf
        have h3 := length_readExponent_le he
        rw [← h.2]
        omega

theorem Numeral.length_read_lt {fate : Fate} {text left : List Char} {n : Numeral}
    (h : read fate text = .ok (n, left)) : left.length < text.length := by
  unfold read at h
  split at h
  · exact Nat.lt_succ_of_lt (length_readUnsigned_lt h)
  · exact length_readUnsigned_lt h

/-! ## What a numeral stands for -/

/-- The value of a decimal digit. -/
def digitValue (c : Char) : Nat :=
  c.toNat - '0'.toNat

/-- The greatest significand. -/
def greatestSignificand : Nat := Nat.pow 2 64 - 1

/-- The greatest exponent that may be written, without its sign. -/
def greatestExponent : Nat := Nat.pow 2 31 - 1

/-- Takes digits into a number while the result stays below a bound: the number, and the digits from
the first that does not fit on. -/
def gather (bound : Nat) : Nat → List Char → Nat × List Char
  | number, [] => (number, [])
  | number, d :: digits =>
    let longer := number * 10 + digitValue d
    if longer ≤ bound then gather bound longer digits else (number, d :: digits)

/-- The significand, and how many whole digits it leaves out less how many fraction digits it
holds. -/
def Numeral.significand (n : Numeral) : Nat × Int :=
  let (number, left) := gather greatestSignificand 0 n.whole
  let digits := n.fraction.getD []
  let (number, unread) := gather greatestSignificand number digits
  (number, left.length - (digits.length - unread.length : Nat))

/-- A numeral without fraction and exponent whose digits all fit, as an integer. -/
def Numeral.integer? (n : Numeral) : Option Int :=
  match n.fraction, n.exponent, gather greatestSignificand 0 n.whole with
  | none, none, (number, []) =>
    if !n.negative then some number
    else if 0 < number ∧ number ≤ Nat.pow 2 63 then some (-number)
    else none
  | _, _, _ => none

/-- The exponent digits behind the first one that does not fit, if there is one. -/
def Numeral.unreadExponent (n : Numeral) : Option (List Char) :=
  match n.exponent with
  | none => none
  | some (_, digits) =>
    match gather greatestExponent 0 digits with
    | (_, []) => none
    | (_, _ :: unread) => some unread

/-- The power of ten that the exponent asks for. -/
def Numeral.power (n : Numeral) : Int :=
  match n.exponent with
  | none => 0
  | some (negative, digits) =>
    let (number, _) := gather greatestExponent 0 digits
    if negative then -number else number

/-- Is the exponent written with a minus sign? -/
def Numeral.shrinks (n : Numeral) : Bool :=
  n.exponent.any Prod.fst

/-- The number that the numeral stands for.  One that is too large is no number: then the result is
the part of the numeral that is never looked at. -/
def Numeral.value (n : Numeral) : Except (List Char) Number :=
  match n.integer? with
  | some value => .ok (.integer value)
  | none =>
    let (number, shift) := n.significand
    match n.unreadExponent with
    | some unread =>
      if number = 0 ∨ n.shrinks then .ok (.real n.negative ⟨0, Binary64.leastExponent⟩)
      else .error unread
    | none =>
      match Binary64.ofDecimal number (shift + n.power) with
      | some magnitude => .ok (.real n.negative magnitude)
      | none => .error []

/-- Reads a number. -/
def readNumber (text : List Char) : Except Fault (Number × List Char) :=
  match Numeral.read .kept text with
  | .error fault => .error fault
  | .ok (numeral, rest) =>
    match numeral.value with
    | .ok value => .ok (value, rest)
    | .error unread => .error (.behind .numberTooLarge (unread ++ rest))

/-- Passes over a number in the way its fate asks for. -/
def Fate.passNumber (fate : Fate) (text : List Char) : Except Fault (List Char) :=
  match fate with
  | .kept => (readNumber text).map Prod.snd
  | .skipped => (Numeral.read .skipped text).map Prod.snd

theorem length_readNumber_lt {text left : List Char} {value : Number}
    (h : readNumber text = .ok (value, left)) : left.length < text.length := by
  unfold readNumber at h
  split at h
  · cases h
  · next numeral rest hr =>
    split at h
    · cases h; exact Numeral.length_read_lt hr
    · cases h

theorem Fate.length_passNumber_lt {fate : Fate} {text left : List Char}
    (h : fate.passNumber text = .ok left) : left.length < text.length := by
  unfold passNumber at h
  split at h
  · cases hn : readNumber text with
    | error fault => simp [hn, Except.map] at h
    | ok p =>
      simp only [hn, Except.map, Except.ok.injEq] at h
      exact h ▸ length_readNumber_lt hn
  · cases hr : Numeral.read .skipped text with
    | error fault => simp [hr, Except.map] at h
    | ok p =>
      simp only [hr, Except.map, Except.ok.injEq] at h
      exact h ▸ Numeral.length_read_lt hr

end ChatPanel.Json
