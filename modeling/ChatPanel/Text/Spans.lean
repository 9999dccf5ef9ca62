import ChatPanel.Text.Lines

/-!
# Where the lines of a text lie

A text is kept as bytes, and a caller that wants to leave them in place needs the stretch of bytes
that each line takes rather than a copy of it.

* `Span` — a stretch of bytes, given by its two offsets.
* `bytes` — the bytes of a text.
* `lineSpans` — the spans of the lines, found by looking at single bytes.  A byte of a longer
  character is never `0x0A` or `0x0D`, so a break is recognised without decoding anything.
* `Span.of` — the bytes that a span covers.
* `Span.cut` — the text that a span covers.  An offset inside a character is no place to cut, and
  then there is none.
* `Cursor`, `walk` — the same search with the two offsets in hand and the bytes left where they are.
* `cutLines` — the lines that this search finds, each cut out of the text.
-/

namespace ChatPanel.Text

/-- The bytes that stand for a text, as UTF-8 has them. -/
def bytes (text : String) : List UInt8 :=
  text.toUTF8.data.toList

/-- The bytes from the offset `start` on, up to the one before the offset `stop`. -/
structure Span where
  start : Nat
  stop : Nat
  deriving DecidableEq, Repr

/-- The bytes of a text that a span covers. -/
def Span.of (span : Span) (bytes : List UInt8) : List UInt8 :=
  (bytes.take span.stop).drop span.start

/-- The text that a span covers, if both of its ends stand between characters, in this order. -/
def Span.cut (span : Span) (text : String) : Option String := do
  let start ← text.pos? ⟨span.start⟩
  let stop ← text.pos? ⟨span.stop⟩
  let slice ← text.slice? start stop
  return slice.copy

/-- The spans of the lines from the offset `here` on, where the line that is being read began at the
offset `start`. -/
def spansFrom (start here : Nat) : List UInt8 → List Span
  | [] => [⟨start, here⟩]
  | 0x0D :: 0x0A :: rest => ⟨start, here⟩ :: spansFrom (here + 2) (here + 2) rest
  | 0x0D :: rest => ⟨start, here⟩ :: spansFrom (here + 1) (here + 1) rest
  | 0x0A :: rest => ⟨start, here⟩ :: spansFrom (here + 1) (here + 1) rest
  | _ :: rest => spansFrom start (here + 1) rest

/-- The spans of the lines of a text. -/
def lineSpans (bytes : List UInt8) : List Span :=
  spansFrom 0 0 bytes

/-! ## The search by offsets -/

/-- Where the search for breaks stands: the offset at which the line began, and the offset of the
byte that is looked at. -/
structure Cursor where
  start : Nat
  here : Nat
  deriving DecidableEq, Repr

/-- The line that ends here, if one does.  A line ends in front of a break, and the last one where
the bytes do. -/
def Cursor.line (bytes : List UInt8) (cursor : Cursor) : Option Span :=
  match bytes[cursor.here]? with
  | none => some ⟨cursor.start, bytes.length⟩
  | some 0x0D => some ⟨cursor.start, cursor.here⟩
  | some 0x0A => some ⟨cursor.start, cursor.here⟩
  | some _ => none

/-- Where the search stands next.  Behind a carriage return one more byte is looked at, and a line
feed there is passed as well. -/
def Cursor.next (bytes : List UInt8) (cursor : Cursor) : Cursor :=
  match bytes[cursor.here]? with
  | some 0x0D =>
    let last := if bytes[cursor.here + 1]? = some 0x0A then cursor.here + 1 else cursor.here
    ⟨last + 1, last + 1⟩
  | some 0x0A => ⟨cursor.here + 1, cursor.here + 1⟩
  | _ => ⟨cursor.start, cursor.here + 1⟩

theorem Cursor.here_lt_next (bytes : List UInt8) (cursor : Cursor) :
    cursor.here < (cursor.next bytes).here := by
  unfold next
  split
  · dsimp only
    split <;> omega
  · exact Nat.lt_succ_self _
  · exact Nat.lt_succ_self _

/-- Everywhere the search stands from here on, the end of the bytes included. -/
def Cursor.walk (bytes : List UInt8) (cursor : Cursor) : List Cursor :=
  if cursor.here < bytes.length then cursor :: (cursor.next bytes).walk bytes else [cursor]
termination_by bytes.length - cursor.here
decreasing_by
  have := cursor.here_lt_next bytes
  omega

/-- Everywhere the search stands. -/
def walk (bytes : List UInt8) : List Cursor :=
  Cursor.walk bytes ⟨0, 0⟩

/-- The lines that the search finds, in the order in which it does. -/
def walkedSpans (bytes : List UInt8) : List Span :=
  (walk bytes).filterMap (Cursor.line bytes)

/-- The lines of a text, each cut out where the search finds it.  One offset inside a character, or
two in the wrong order, and there are none. -/
def cutLines (text : String) : Option (List String) :=
  (walkedSpans (bytes text)).mapM (Span.cut · text)

end ChatPanel.Text
