import ChatPanel.Markup
import ChatPanel.Settings

/-!
# The controls of a panel

The button for a new chat, the switch for the dark theme and the form for a message.  Where a
switch stands and what a field holds are properties of the live page and not part of its markup, so
the switch and the form look the same in every state.
-/

namespace ChatPanel.View

/-- The button for a new chat.  If the visitor has to log in first it is out of use and says so. -/
def newChat (offer : NewChat) : Node :=
  let hint := match offer.hint with
    | some hint => [Attribute.value "title" hint]
    | none => []
  let disabled := if offer.isDisabled then [Attribute.flag "disabled"] else []
  let styleClass :=
    if offer.isDisabled then "new-chat-button new-chat-button--unavailable" else "new-chat-button"
  .element "button"
    ([.value "id" "new-chat-button"] ++ disabled ++ hint ++
      [.value "class" styleClass, .style offer.style])
    [.text "New chat"]

/-- The switch for the dark theme. -/
def themeSwitch : Node :=
  .element "label" [.value "title" "Dark mode", .value "class" "toggle"]
    [.void "input" [.value "type" "checkbox", .value "class" "toggle-switch"],
     .element "span" [.value "class" "toggle__slider"] []]

/-- The form for a message. -/
def messageForm : Node :=
  .element "form" [.value "class" "input-form"]
    [.element "textarea"
      [.value "rows" "1", .value "placeholder" "Type a message...", .value "class" "input"] [],
     .element "button" [.value "class" "btn btn--primary send-button", .value "type" "submit"]
      [.text "Send"]]

end ChatPanel.View
