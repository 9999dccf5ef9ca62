import ChatPanel.Text.Ranges

/-!
# Blank characters and trimming

A character is *blank* when Unicode gives it the White_Space property.  The zero-width space, the
byte order mark and the four information separators do not have it, so they count as text.

**Trimming** removes the blank characters at both ends and nothing else: what stands between two
characters that are not blank is kept, line breaks included.
-/

namespace ChatPanel.Text

/-- The characters with the White_Space property. -/
def blankRanges : Ranges :=
  [(0x9, 0xD), (0x20, 0x20), (0x85, 0x85), (0xA0, 0xA0), (0x1680, 0x1680), (0x2000, 0x200A),
   (0x2028, 0x2029), (0x202F, 0x202F), (0x205F, 0x205F), (0x3000, 0x3000)]

/-- Does the character have the White_Space property? -/
def isBlank (c : Char) : Bool :=
  blankRanges.has c

/-- The characters from the first one that is not blank to the last one that is not. -/
def trimChars (text : List Char) : List Char :=
  ((text.dropWhile isBlank).reverse.dropWhile isBlank).reverse

/-- The text without the blank characters at its two ends. -/
def trim (text : String) : String :=
  String.ofList (trimChars text.toList)

end ChatPanel.Text
