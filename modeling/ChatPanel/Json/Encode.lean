/-!
# Writing JSON strings

A string is written between double quotes.  The double quote and the backslash stand behind a
backslash, five control characters have a letter, and every other control character is a `\u`
escape of four digits.  All other characters stand for themselves.
-/

namespace ChatPanel.Json

/-- A digit in base sixteen, in lower case. -/
def hexChar (digit : Nat) : Char :=
  if digit < 10 then Char.ofNat ('0'.toNat + digit) else Char.ofNat ('a'.toNat + digit - 10)

/-- One character of a string. -/
def encodeChar (c : Char) : List Char :=
  match c with
  | '"' => ['\\', '"']
  | '\\' => ['\\', '\\']
  | '\x08' => ['\\', 'b']
  | '\x0c' => ['\\', 'f']
  | '\n' => ['\\', 'n']
  | '\r' => ['\\', 'r']
  | '\t' => ['\\', 't']
  | _ =>
    if c < ' ' then ['\\', 'u', '0', '0', hexChar (c.toNat / 16), hexChar (c.toNat % 16)]
    else [c]

/-- The characters of a string, between double quotes. -/
def encodeText (text : List Char) : List Char :=
  '"' :: text.flatMap encodeChar ++ ['"']

end ChatPanel.Json
