import ChatPanel.Text.Combining
import ChatPanel.Text.Unprintable

/-!
# Texts quoted in a diagnostic

A text that a message quotes stands between double quotes in a form that shows every character.
The null character, the tab, the carriage return and the line feed have a letter, the backslash
and the double quote are doubled by a backslash, and a character that a reader could not see by
itself is written as its code point.  An apostrophe needs no escape.
-/

namespace ChatPanel.Text

/-- The digits of a code point in base sixteen, in lower case. -/
def codePoint (c : Char) : String :=
  String.ofList (Nat.toDigits 16 c.toNat)

/-- One character of a quoted text. -/
def quotedChar (c : Char) : String :=
  match c with
  | '\x00' => "\\0"
  | '\t' => "\\t"
  | '\r' => "\\r"
  | '\n' => "\\n"
  | '\\' => "\\\\"
  | '"' => "\\\""
  | _ =>
    if isCombining c || isUnprintable c then "\\u\x7b" ++ codePoint c ++ "\x7d"
    else String.singleton c

/-- A text between double quotes, every character visible. -/
def quoted (text : List Char) : String :=
  "\"" ++ String.join (text.map quotedChar) ++ "\""

end ChatPanel.Text
