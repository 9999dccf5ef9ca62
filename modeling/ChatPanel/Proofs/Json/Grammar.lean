import ChatPanel.Json.Encode
import ChatPanel.Json.Numeral
import Mathlib.Data.Nat.Notation
import Mathlib.Tactic.Lemma

/-!
# The grammar of JSON texts

What a JSON text is, told from the writer's side and without a reader: a value is written as a list
of tokens, each token in one of its spellings, with any gaps between the tokens.

* `Spelled` — the ways to write a text between quotation marks.  Every character may be written as
  itself, behind a backslash or by `\u` escapes, as far as the format has these for it.
* `Numeral.Written` — the ways to write a number.
* `Value`, `Value.tokens` — values as trees, and the tokens of a value.
* `Laid` — texts that hold the given tokens, with gaps in front of each and at the end.

**Strings without a text.**  The grammar asks four digits of a `\u` escape and no more, so that a
string may hold half of a surrogate pair and stand for no text at all.  `StringBody` is what the
grammar admits, and a value has such strings too (`none` for the text).

**Objects.**  The members of an object are a list.  Keys may repeat, and the order is kept.
-/

namespace ChatPanel.Json

/-! ## Strings -/

/-- The character is this digit in base sixteen, in lower or upper case. -/
def IsHexDigit (c : Char) (digit : ℕ) : Prop :=
  digit < 16 ∧ (c = hexChar digit ∨ c = (hexChar digit).toUpper)

/-- Four digits in base sixteen. -/
inductive Quad : ℕ → List Char → Prop where
  | mk {a b c d : Char} {w x y z : ℕ} (ha : IsHexDigit a w) (hb : IsHexDigit b x)
      (hc : IsHexDigit c y) (hd : IsHexDigit d z) :
      Quad (((w * 16 + x) * 16 + y) * 16 + z) [a, b, c, d]

/-- The letters that may follow a backslash, and the characters that they stand for. -/
def shortEscapes : List (Char × Char) :=
  [('"', '"'), ('\\', '\\'), ('/', '/'), ('b', '\x08'), ('f', '\x0c'), ('n', '\n'), ('r', '\r'),
   ('t', '\t')]

/-- May the character stand for itself inside a string? -/
def IsPlain (c : Char) : Prop :=
  ' ' ≤ c ∧ c ≠ '"' ∧ c ≠ '\\'

/-- The ways to write one character of a string. -/
inductive Spelling : Char → List Char → Prop where
  | plain {c : Char} (h : IsPlain c) : Spelling c [c]
  | short {c letter : Char} (h : (letter, c) ∈ shortEscapes) : Spelling c ['\\', letter]
  | unit {c : Char} {digits : List Char} (h : Quad c.toNat digits) :
      Spelling c ('\\' :: 'u' :: digits)
  | pair {c : Char} {high low : ℕ} {digits digits' : List Char}
      (hhigh : 0xD800 ≤ high ∧ high < 0xDC00) (hlow : 0xDC00 ≤ low ∧ low < 0xE000)
      (hc : c.toNat = 0x10000 + (high - 0xD800) * 0x400 + (low - 0xDC00))
      (h : Quad high digits) (h' : Quad low digits') :
      Spelling c ('\\' :: 'u' :: digits ++ '\\' :: 'u' :: digits')

/-- The ways to write a text between quotation marks. -/
inductive Spelled : List Char → List Char → Prop where
  | nil : Spelled [] []
  | cons {c : Char} {cs piece rest : List Char} (h : Spelling c piece) (hs : Spelled cs rest) :
      Spelled (c :: cs) (piece ++ rest)

/-- What may stand between quotation marks, whether it stands for a text or not. -/
inductive StringBody : List Char → Prop where
  | nil : StringBody []
  | plain {c : Char} {rest : List Char} (h : IsPlain c) (hs : StringBody rest) :
      StringBody (c :: rest)
  | short {c letter : Char} {rest : List Char} (h : (letter, c) ∈ shortEscapes)
      (hs : StringBody rest) : StringBody ('\\' :: letter :: rest)
  | unit {n : ℕ} {digits rest : List Char} (h : Quad n digits) (hs : StringBody rest) :
      StringBody ('\\' :: 'u' :: digits ++ rest)

/-! ## Numbers -/

/-- One or more digits. -/
def IsDigits (digits : List Char) : Prop :=
  digits ≠ [] ∧ ∀ c ∈ digits, c.isDigit = true

/-- Digits without a zero in front, unless it is the only one. -/
def IsWhole (digits : List Char) : Prop :=
  digits = ['0'] ∨ IsDigits digits ∧ digits.head? ≠ some '0'

/-- The ways to write a fraction. -/
inductive WrittenFraction : Option (List Char) → List Char → Prop where
  | none : WrittenFraction none []
  | some {digits : List Char} (h : IsDigits digits) :
      WrittenFraction (some digits) ('.' :: digits)

/-- The ways to write the sign of an exponent. -/
inductive WrittenSign : Bool → List Char → Prop where
  | none : WrittenSign false []
  | plus : WrittenSign false ['+']
  | minus : WrittenSign true ['-']

/-- The ways to write an exponent. -/
inductive WrittenExponent : Option (Bool × List Char) → List Char → Prop where
  | none : WrittenExponent none []
  | some {mark : Char} {negative : Bool} {sign digits : List Char} (hmark : mark = 'e' ∨ mark = 'E')
      (hsign : WrittenSign negative sign) (h : IsDigits digits) :
      WrittenExponent (some (negative, digits)) (mark :: sign ++ digits)

/-- The ways to write a number. -/
inductive Numeral.Written : Numeral → List Char → Prop where
  | mk {negative : Bool} {whole : List Char} {fraction : Option (List Char)}
      {exponent : Option (Bool × List Char)} {behind behind' : List Char} (hwhole : IsWhole whole)
      (hfraction : WrittenFraction fraction behind) (hexponent : WrittenExponent exponent behind') :
      Written ⟨negative, whole, fraction, exponent⟩
        ((if negative then ['-'] else []) ++ (whole ++ (behind ++ behind')))

/-! ## Tokens -/

/-- A token.  A string is given by its text, or by `none` if it stands for none. -/
inductive Token where
  /-- A bracket, a brace, a comma or a colon. -/
  | mark (c : Char)
  /-- A keyword. -/
  | word (letters : List Char)
  | numeral (n : Numeral)
  | string (text : Option (List Char))

/-- The characters that are tokens of their own. -/
def marks : List Char :=
  ['[', ']', '{', '}', ',', ':']

/-- The words of the format. -/
def keywords : List (List Char) :=
  [['n', 'u', 'l', 'l'], ['t', 'r', 'u', 'e'], ['f', 'a', 'l', 's', 'e']]

/-- The ways to write a token. -/
inductive Token.Written : Token → List Char → Prop where
  | mark {c : Char} (h : c ∈ marks) : Written (.mark c) [c]
  | word {letters : List Char} (h : letters ∈ keywords) : Written (.word letters) letters
  | numeral {n : Numeral} {chars : List Char} (h : n.Written chars) : Written (.numeral n) chars
  | text {text body : List Char} (h : Spelled text body) :
      Written (.string (some text)) ('"' :: body ++ ['"'])
  | noText {body : List Char} (h : StringBody body) (hnone : ∀ text, ¬ Spelled text body) :
      Written (.string none) ('"' :: body ++ ['"'])

/-- A gap: any number of the four characters that may stand between tokens. -/
def IsSpace (chars : List Char) : Prop :=
  ∀ c ∈ chars, c = ' ' ∨ c = '\t' ∨ c = '\n' ∨ c = '\r'

/-- The texts that hold these tokens and nothing else but gaps. -/
inductive Laid : List Token → List Char → Prop where
  | nil {space : List Char} (h : IsSpace space) : Laid [] space
  | cons {token : Token} {tokens : List Token} {space chars rest : List Char} (h : IsSpace space)
      (hchars : token.Written chars) (hrest : Laid tokens rest) :
      Laid (token :: tokens) (space ++ (chars ++ rest))

/-! ## Values -/

/-- A JSON value.  A string is given by its text, or by `none` if it stands for none. -/
inductive Value where
  | null
  | flag (value : Bool)
  | number (n : Numeral)
  | string (text : Option (List Char))
  | list (items : List Value)
  | object (members : List (Option (List Char) × Value))

/-- Groups of tokens with commas between them. -/
def separated : List (List Token) → List Token
  | [] => []
  | group :: groups => group ++ groups.flatMap (.mark ',' :: ·)

mutual

/-- The tokens of a value. -/
def Value.tokens : Value → List Token
  | .null => [.word ['n', 'u', 'l', 'l']]
  | .flag true => [.word ['t', 'r', 'u', 'e']]
  | .flag false => [.word ['f', 'a', 'l', 's', 'e']]
  | .number n => [.numeral n]
  | .string text => [.string text]
  | .list items => .mark '[' :: (separated (Value.itemTokens items) ++ [.mark ']'])
  | .object members => .mark '{' :: (separated (Value.memberTokens members) ++ [.mark '}'])

/-- The tokens of each element of a list. -/
def Value.itemTokens : List Value → List (List Token)
  | [] => []
  | item :: items => item.tokens :: Value.itemTokens items

/-- The tokens of each member of an object. -/
def Value.memberTokens : List (Option (List Char) × Value) → List (List Token)
  | [] => []
  | (key, value) :: members =>
    (.string key :: .mark ':' :: value.tokens) :: Value.memberTokens members

end

/-! ## Records -/

/-- A member of a record: its key as a text, and its value. -/
structure Member where
  key : String
  value : Value

/-- The texts that are an object with these members. -/
def IsObject (members : List Member) (text : String) : Prop :=
  Laid (Value.object (members.map fun member => (some member.key.toList, member.value))).tokens
    text.toList

/-- The texts that are a list with these elements. -/
def IsList (items : List Value) (text : String) : Prop :=
  Laid (Value.list items).tokens text.toList

end ChatPanel.Json
