import ChatPanel.Proofs.View.Transcript
import ChatPanel.View.Page

/-!
# What the page reveals of the settings

The page that holds the panel passes its settings.  The title and the disclaimer are shown, and whether
the visitor is logged in decides on the button for a new chat.  The rest is nobody's business: the
address of the service, and the place of the panel on the page.

* `panelTokens` — what a browser is to read for the panel, given these three.
* `tokens_freshPanel` — the panel is written so, part by part.
* `tidy_freshPanel` — every part of it is in order, so the whole can be read back.
* `panelTokens_eq_iff` — none of the three is lost in it.  The title and the disclaimer stand at fixed
  places, since no part of the panel has more tokens for one visitor than for another.
* **`readMarkup_freshPanel`** — so a browser reads the title and the disclaimer as texts, whatever they
  hold, between tags that depend on the button alone, and two panels are sent as the same text exactly
  if the three agree.
-/

namespace ChatPanel.View

/-! ## What the panel means -/

/-- The tag that opens the button for a new chat. -/
def newChatTag (authenticated : Bool) : String :=
  if authenticated then
    "button id=\"new-chat-button\" class=\"new-chat-button\" style=\";\""
  else
    "button id=\"new-chat-button\" disabled" ++
      " title=\"You need to be logged in to make a new chat.\"" ++
      " class=\"new-chat-button new-chat-button--unavailable\"" ++
      " style=\"cursor: not-allowed; background-color: grey;;\""

/-- What a browser is to read for the button for a new chat. -/
def newChatTokens (authenticated : Bool) : List Token :=
  [.ofTag (newChatTag authenticated), .shown "New chat", .ofTag "/button"]

/-- What a browser is to read for the switch for the dark theme. -/
def themeSwitchTokens : List Token :=
  [.ofTag "label title=\"Dark mode\" class=\"toggle\"",
    .ofTag "input type=\"checkbox\" class=\"toggle-switch\"",
    .ofTag "span class=\"toggle__slider\"", .ofTag "/span", .ofTag "/label"]

/-- What a browser is to read for the heading and the controls beside it. -/
def headerTokens (authenticated : Bool) (title : String) : List Token :=
  [.ofTag "header class=\"chat-widget__header\"", .ofTag "h1 class=\"chat-widget__title\"",
    .shown title, .ofTag "/h1", .ofTag "div class=\"chat-widget__actions\""] ++
    newChatTokens authenticated ++ themeSwitchTokens ++ [.ofTag "/div", .ofTag "/header"]

/-- What a browser is to read for the form for a message. -/
def messageFormTokens : List Token :=
  [.ofTag "form class=\"input-form\"",
    .ofTag "textarea rows=\"1\" placeholder=\"Type a message...\" class=\"input\"",
    .ofTag "/textarea", .ofTag "button class=\"btn btn--primary send-button\" type=\"submit\"",
    .shown "Send", .ofTag "/button", .ofTag "/form"]

/-- What a browser is to read for a disclaimer that has not been acknowledged. -/
def disclaimerTokens (content : String) : List Token :=
  [.ofTag "div id=\"overlay\" class=\"overlay\" style=\"display:flex;\"",
    .ofTag "div role=\"dialog\" aria-modal=\"true\" class=\"overlay__content\"",
    .ofTag "h2 class=\"overlay__title\"", .shown "Disclaimer", .ofTag "/h2",
    .ofTag "p class=\"overlay__text\"", .shown content, .ofTag "/p",
    .ofTag "label class=\"overlay__opt-out\"",
    .ofTag "input id=\"dontShowAgainCheckbox\" type=\"checkbox\"",
    .shown "Don't show this again", .ofTag "/label",
    .ofTag "button id=\"acknowledgeButton\" class=\"btn btn--primary\"", .shown "I understand",
    .ofTag "/button", .ofTag "/div", .ofTag "/div"]

/-- What a browser is to read for the panel before it lives in one. -/
def panelTokens (authenticated : Bool) (title content : String) : List Token :=
  .ofTag "div class=\"chat-widget\"" :: headerTokens authenticated title ++
    [.ofTag "div class=\"messages\"", .ofTag "/div"] ++ messageFormTokens ++
    disclaimerTokens content ++ [.ofTag "/div"]

/-! ## The panel is written as meant -/

lemma tokens_newChat (settings : Settings) :
    (newChat settings.newChat).tokens = newChatTokens settings.authenticated := by
  rw [Settings.newChat, newChatTokens, newChatTag]
  cases settings.authenticated <;> simp [newChat, NewChat.isDisabled, NewChat.hint, NewChat.style]

lemma tokens_themeSwitch : themeSwitch.tokens = themeSwitchTokens := by
  simp [themeSwitch, themeSwitchTokens]

lemma tokens_header (settings : Settings) :
    (header settings).tokens = headerTokens settings.authenticated settings.title := by
  simp [header, headerTokens, tokens_newChat, tokens_themeSwitch]

lemma tokens_messageForm : messageForm.tokens = messageFormTokens := by
  simp [messageForm, messageFormTokens]

lemma tokens_disclaimer (content : String) :
    (disclaimer .shown content).tokens = disclaimerTokens content := by
  simp [disclaimer, Disclaimer.isFading, Disclaimer.isVisible, disclaimerTokens]

/-- A visitor whose page has no store sees the disclaimer. -/
lemma freshPanel_eq (settings : Settings) :
    freshPanel settings
      = .element "div" [.value "class" "chat-widget"]
          [header settings, transcript .empty, messageForm,
            disclaimer .shown settings.disclaimer] :=
  rfl

/-- **The panel is written as meant**, part by part. -/
theorem tokens_freshPanel (settings : Settings) :
    (freshPanel settings).tokens
      = panelTokens settings.authenticated settings.title settings.disclaimer := by
  have hempty : (transcript .empty).tokens = [.ofTag "div class=\"messages\"", .ofTag "/div"] := by
    rw [tokens_transcript]
    rfl
  simp [freshPanel_eq, panelTokens, tokens_header, hempty, tokens_messageForm, tokens_disclaimer]

/-! ## The panel can be read back -/

lemma tidy_newChat (offer : NewChat) : (newChat offer).Tidy := by
  cases offer <;> simp [newChat, NewChat.isDisabled, NewChat.hint, NewChat.style, Attribute.chars]

lemma tidy_themeSwitch : themeSwitch.Tidy := by
  simp [themeSwitch, Attribute.chars]

lemma tidy_header (settings : Settings) : (header settings).Tidy := by
  have hnewChat : (newChat settings.newChat).isText = false := rfl
  simp [header, Attribute.chars, tidy_newChat, tidy_themeSwitch, hnewChat]

lemma tidy_messageForm : messageForm.Tidy := by
  simp [messageForm, Attribute.chars]

lemma tidy_disclaimer (state : Disclaimer) (content : String) :
    (disclaimer state content).Tidy := by
  cases state <;> simp [disclaimer, Disclaimer.isFading, Disclaimer.isVisible, Attribute.chars]

lemma tidy_freshPanel (settings : Settings) : (freshPanel settings).Tidy := by
  have hapart : [header settings, transcript .empty, messageForm,
      disclaimer .shown settings.disclaimer].IsChain Node.Apart :=
    .cons_cons (.inl rfl) (.cons_cons (.inl rfl) (.cons_cons (.inl rfl) (.singleton _)))
  exact ⟨by simp [Attribute.chars], hapart, tidy_header settings,
    tidy_transcript .empty, tidy_messageForm, tidy_disclaimer .shown settings.disclaimer, trivial⟩

lemma legible_freshPanel (settings : Settings) : Legible (freshPanel settings).tokens :=
  Node.legible_tokens (tidy_freshPanel settings)

/-! ## Nothing shown is lost -/

/-- The two buttons for a new chat can be told apart. -/
lemma newChatTag_inj {first second : Bool} : newChatTag first = newChatTag second ↔ first = second := by
  have hdiffer : newChatTag true ≠ newChatTag false := by decide +kernel
  cases first <;> cases second <;> simp [hdiffer, hdiffer.symm]

lemma headerTokens_append_eq_iff {first second : Bool} {title title' : String}
    {more others : List Token} :
    headerTokens first title ++ more = headerTokens second title' ++ others ↔
      Token.shown title = .shown title' ∧ first = second ∧ more = others := by
  simp [headerTokens, newChatTokens, Token.ofTag_inj, newChatTag_inj]

lemma disclaimerTokens_inj {content content' : String} :
    disclaimerTokens content = disclaimerTokens content' ↔
      Token.shown content = .shown content' := by
  simp [disclaimerTokens]

/-- The panel shows the title and the disclaimer as they look, and which button it has. -/
lemma panelTokens_eq_iff {first second : Bool} {title title' content content' : String} :
    panelTokens first title content = panelTokens second title' content' ↔
      first = second ∧ visible title.toList = visible title'.toList ∧
        visible content.toList = visible content'.toList := by
  simp [panelTokens, headerTokens_append_eq_iff, disclaimerTokens_inj, Token.shown_inj,
    and_left_comm]

/-! ## What the page reveals -/

/-- The tags of the panel, which no title and no disclaimer has a part in. -/
def panelTags (authenticated : Bool) : List Token :=
  (panelTokens authenticated "" "").filter Token.isTag

lemma filter_panelTokens (authenticated : Bool) (title content : String) :
    (panelTokens authenticated title content).filter Token.isTag = panelTags authenticated := by
  simp [panelTags, panelTokens, headerTokens, disclaimerTokens, List.filter_cons]

/-- **What the page reveals of the settings.**  A browser reads the title and the disclaimer as texts
of the panel, whatever they hold, and the tags around them depend on nothing but whether the visitor is
logged in.  Two panels are sent as the same text exactly if these three agree. -/
theorem readMarkup_freshPanel (settings : Settings) :
    readMarkup (freshPanel settings).render.toList
        = panelTokens settings.authenticated settings.title settings.disclaimer ∧
      (readMarkup (freshPanel settings).render.toList).filter Token.isTag
        = panelTags settings.authenticated ∧
      ∀ other : Settings, (freshPanel settings).render = (freshPanel other).render ↔
        settings.authenticated = other.authenticated ∧
        visible settings.title.toList = visible other.title.toList ∧
        visible settings.disclaimer.toList = visible other.disclaimer.toList := by
  have hread : readMarkup (freshPanel settings).render.toList
      = panelTokens settings.authenticated settings.title settings.disclaimer := by
    rw [Node.readMarkup_render (legible_freshPanel settings), tokens_freshPanel]
  refine ⟨hread, ?_, ?_⟩
  · rw [hread, filter_panelTokens]
  · intro other
    rw [Node.render_eq_iff (legible_freshPanel settings) (legible_freshPanel other),
      tokens_freshPanel, tokens_freshPanel, panelTokens_eq_iff]

end ChatPanel.View
