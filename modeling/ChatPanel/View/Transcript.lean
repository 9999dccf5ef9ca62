import ChatPanel.Conversation
import ChatPanel.Markup

/-!
# The entries of a conversation on the page

Every entry is a block of its own.  Its lines are texts with a line break between two of them, so
that no part of a message is ever read as markup.
-/

namespace ChatPanel.View

/-- The style of an entry. -/
def entryStyle (entry : Entry) : String :=
  match entry.color with
  | some color => "color: " ++ color ++ ";"
  | none => ""

/-- One entry. -/
def entry (entry : Entry) : Node :=
  .element "div" [.value "class" entry.styleClass, .style (entryStyle entry)]
    ((entry.lines.map Node.text).intersperse (.void "br" []))

/-- The entries of a conversation. -/
def transcript (conversation : Conversation) : Node :=
  .element "div" [.value "class" "messages"] (conversation.entries.map entry)

end ChatPanel.View
