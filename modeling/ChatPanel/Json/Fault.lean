import ChatPanel.Json.Number
import ChatPanel.Text.Quoted

/-!
# What can be wrong with a JSON text, and where

A reader that fails says **what** it met (`Cause`) and **where** (`Fault`).  Inside the reader the
place is kept as the rest of the text that was not consumed, and how many bytes ahead of it the
offending byte ends: the byte that was only looked at is one byte ahead.  Seen from outside the
place is a line and a column (`ReadError`), both counted over the bytes of the text up to there.

A **column** counts bytes, not characters, since the last line feed.  The place never lies behind
the end of the text.
-/

namespace ChatPanel.Json

/-! ## Causes -/

/-- A value of a kind that its place does not admit. -/
inductive Misfit where
  | null
  | flag (value : Bool)
  | number (value : Number)
  | text (value : List Char)
  | list
  | object
  deriving DecidableEq, Repr

/-- How a diagnostic names the value. -/
def Misfit.describe : Misfit → String
  | .null => "null"
  | .flag value => "boolean `" ++ (if value then "true" else "false") ++ "`"
  | .number value => value.describe
  | .text value => "string " ++ Text.quoted value
  | .list => "sequence"
  | .object => "map"

/-- What is wrong with the text. -/
inductive Cause where
  /-- The text ends where a value has to start or go on. -/
  | endInValue
  /-- The text ends inside a string. -/
  | endInText
  /-- The text ends inside a list. -/
  | endInList
  /-- The text ends inside an object. -/
  | endInObject
  /-- No value starts with this character. -/
  | noValue
  /-- A keyword is misspelt. -/
  | noKeyword
  /-- The colon after a key is missing. -/
  | noColon
  /-- After an element stands neither a comma nor the closing bracket. -/
  | noListSeparator
  /-- After a member stands neither a comma nor the closing brace. -/
  | noObjectSeparator
  /-- A comma with nothing after it. -/
  | danglingComma
  /-- Text after the value, or after the last field. -/
  | excess
  /-- A key that is no string. -/
  | keyNotText
  /-- A number without a digit where one has to be, or with a zero in front. -/
  | malformedNumber
  /-- A number that is too large. -/
  | numberTooLarge
  /-- A backslash before something that it cannot escape. -/
  | badEscape
  /-- A raw control character inside a string. -/
  | controlCharacter
  /-- Half of a surrogate pair, alone. -/
  | loneSurrogate
  /-- A first half of a surrogate pair that no second escape follows. -/
  | brokenPair
  /-- More brackets open at once than a kept value may have. -/
  | tooDeep
  /-- A field that the object names twice. -/
  | repeatedField (name : String)
  /-- A value of the wrong kind. -/
  | misfit (met : Misfit) (expected : String)
  deriving DecidableEq, Repr

/-- The words for the cause. -/
def Cause.message : Cause → String
  | .endInValue => "EOF while parsing a value"
  | .endInText => "EOF while parsing a string"
  | .endInList => "EOF while parsing a list"
  | .endInObject => "EOF while parsing an object"
  | .noValue => "expected value"
  | .noKeyword => "expected ident"
  | .noColon => "expected `:`"
  | .noListSeparator => "expected `,` or `]`"
  | .noObjectSeparator => "expected `,` or `\x7d`"
  | .danglingComma => "trailing comma"
  | .excess => "trailing characters"
  | .keyNotText => "key must be a string"
  | .malformedNumber => "invalid number"
  | .numberTooLarge => "number out of range"
  | .badEscape => "invalid escape"
  | .controlCharacter => "control character (\\u0000-\\u001F) found while parsing a string"
  | .loneSurrogate => "lone leading surrogate in hex escape"
  | .brokenPair => "unexpected end of hex escape"
  | .tooDeep => "recursion limit exceeded"
  | .repeatedField name => "duplicate field `" ++ name ++ "`"
  | .misfit met expected => "invalid type: " ++ met.describe ++ ", expected " ++ expected

/-! ## Places -/

/-- A failure inside the reader: the cause, the rest of the text that was not consumed, and how many
bytes of that rest the failure covers. -/
structure Fault where
  cause : Cause
  rest : List Char
  ahead : Nat
  deriving DecidableEq, Repr

/-- A failure right behind what was consumed. -/
def Fault.behind (cause : Cause) (rest : List Char) : Fault :=
  ⟨cause, rest, 0⟩

/-- A failure at the next byte. -/
def Fault.next (cause : Cause) (rest : List Char) : Fault :=
  ⟨cause, rest, 1⟩

/-- A line and a byte column.  The first line is line 1, and a column counts the bytes up to and
including the place, so it is 0 only right after a line feed or at the very start. -/
structure Place where
  line : Nat
  column : Nat
  deriving DecidableEq, Repr

/-- The place before the first byte. -/
def Place.start : Place := ⟨1, 0⟩

/-- The place some bytes further on, or at the end of the text if that comes first. -/
def Place.advance (place : Place) : Nat → List Char → Place
  | 0, _ => place
  | _, [] => place
  | bytes + 1, c :: rest =>
    if c = '\n' then advance ⟨place.line + 1, 0⟩ bytes rest
    else
      let size := min (bytes + 1) c.utf8Size
      advance ⟨place.line, place.column + size⟩ (bytes + 1 - size) rest

/-- How many bytes a text takes. -/
def byteCount : List Char → Nat
  | [] => 0
  | c :: rest => c.utf8Size + byteCount rest

/-- Where in the whole text a failure lies. -/
def Fault.place (fault : Fault) (whole : List Char) : Place :=
  Place.start.advance (byteCount whole - byteCount fault.rest + fault.ahead) whole

/-- A failure as a caller sees it. -/
structure ReadError where
  cause : Cause
  place : Place
  deriving DecidableEq, Repr

/-- The failure with its place in the whole text. -/
def Fault.locate (fault : Fault) (whole : List Char) : ReadError :=
  ⟨fault.cause, fault.place whole⟩

/-- The cause and the place in words. -/
def ReadError.message (error : ReadError) : String :=
  error.cause.message ++ " at line " ++ toString error.place.line
    ++ " column " ++ toString error.place.column

end ChatPanel.Json
