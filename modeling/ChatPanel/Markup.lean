/-!
# Markup

A page is a tree of elements and texts (`Node`), and is sent as one text (`Node.render`).

**Texts are never markup.**  In a text the ampersand and the two angle brackets are written as
references, and nothing else is changed.  An empty text is written as one space, so that the
browser has a text to attach to.

**Attributes** are written as they are: their names and values are part of the panel and never come
from outside.  A style ends with a semicolon of its own.
-/

namespace ChatPanel

/-- An attribute of an element. -/
inductive Attribute where
  /-- An attribute that is there or not. -/
  | flag (name : String)
  /-- An attribute with a value. -/
  | value (name content : String)
  /-- The declarations of a style. -/
  | style (declarations : String)
  deriving DecidableEq, Repr

/-- A part of a page. -/
inductive Node where
  | text (content : String)
  /-- An element without content, and without a closing tag. -/
  | void (tag : String) (attributes : List Attribute)
  | element (tag : String) (attributes : List Attribute) (children : List Node)
  deriving Repr

/-- One character of a text. -/
def escapeChar (c : Char) : List Char :=
  match c with
  | '&' => ['&', 'a', 'm', 'p', ';']
  | '<' => ['&', 'l', 't', ';']
  | '>' => ['&', 'g', 't', ';']
  | _ => [c]

/-- A text as it is written. -/
def escapeText (content : List Char) : List Char :=
  match content with
  | [] => [' ']
  | _ => content.flatMap escapeChar

/-- An attribute as it is written, with the blank in front of it. -/
def Attribute.chars : Attribute → List Char
  | .flag name => ' ' :: name.toList
  | .value name content => ' ' :: name.toList ++ ['=', '"'] ++ content.toList ++ ['"']
  | .style declarations =>
    ' ' :: "style".toList ++ ['=', '"'] ++ declarations.toList ++ [';', '"']

/-- The tag that opens an element. -/
def openTag (tag : String) (attributes : List Attribute) : List Char :=
  '<' :: tag.toList ++ attributes.flatMap Attribute.chars ++ ['>']

/-- The tag that closes an element. -/
def closeTag (tag : String) : List Char :=
  '<' :: '/' :: tag.toList ++ ['>']

mutual

/-- A part of a page as it is written. -/
def Node.chars : Node → List Char
  | .text content => escapeText content.toList
  | .void tag attributes => openTag tag attributes
  | .element tag attributes children =>
    openTag tag attributes ++ Node.charsAll children ++ closeTag tag

/-- Parts of a page, one after the other. -/
def Node.charsAll : List Node → List Char
  | [] => []
  | node :: rest => node.chars ++ Node.charsAll rest

end

/-- The text that is sent for a part of a page. -/
def Node.render (node : Node) : String :=
  String.ofList node.chars

end ChatPanel
