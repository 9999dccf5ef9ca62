import ChatPanel.View.Controls
import ChatPanel.View.Transcript
import ChatPanel.Visit

/-!
# The panel on the page

The panel holds a header with the title and the controls, the entries, the form for a message, and
the disclaimer on top of it all.  A page that is sent before it lives in a browser has no store and
no conversation yet: it shows the initial state (`freshPanel`).
-/

namespace ChatPanel.View

/-- The disclaimer, with a box to put it away for good. -/
def disclaimer (state : Disclaimer) (text : String) : Node :=
  let styleClass := if state.isFading then "overlay fade-out" else "overlay"
  let display := if state.isVisible then "display:flex" else "display:none"
  .element "div" [.value "id" "overlay", .value "class" styleClass, .style display]
    [.element "div"
      [.value "role" "dialog", .value "aria-modal" "true", .value "class" "overlay__content"]
      [.element "h2" [.value "class" "overlay__title"] [.text "Disclaimer"],
       .element "p" [.value "class" "overlay__text"] [.text text],
       .element "label" [.value "class" "overlay__opt-out"]
        [.void "input" [.value "id" "dontShowAgainCheckbox", .value "type" "checkbox"],
         .text "Don't show this again"],
       .element "button" [.value "id" "acknowledgeButton", .value "class" "btn btn--primary"]
        [.text "I understand"]]]

/-- The heading of the panel and the controls beside it. -/
def header (settings : Settings) : Node :=
  .element "header" [.value "class" "chat-widget__header"]
    [.element "h1" [.value "class" "chat-widget__title"] [.text settings.title],
     .element "div" [.value "class" "chat-widget__actions"]
      [newChat settings.newChat, themeSwitch]]

/-- The whole panel. -/
def panel (settings : Settings) (conversation : Conversation) (appearance : Appearance) : Node :=
  .element "div" [.value "class" "chat-widget"]
    [header settings, transcript conversation, messageForm,
     disclaimer appearance.disclaimer settings.disclaimer]

/-- The panel before it lives in a browser. -/
def freshPanel (settings : Settings) : Node :=
  panel settings .empty (.atStart NoStorage.mk)

end ChatPanel.View
