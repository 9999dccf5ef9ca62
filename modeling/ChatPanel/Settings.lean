import ChatPanel.Json.Record
import ChatPanel.Text.Blank

/-!
# The settings of a panel

The page that holds the panel passes its settings as a JSON record.  Every setting has a default,
two settings have a second name, and keys that name no setting are ignored.

**Failures.**  A text that is no such record fails as malformed.  A record whose endpoint is empty
or blank fails too, but only after the whole text has been read.

**New chats.**  A visitor who is not logged in sees the button for a new chat, but cannot use it
(`NewChat`).
-/

namespace ChatPanel

/-! ## New chats -/

/-- May the visitor start a new chat? -/
inductive NewChat where
  | available
  | needsLogin
  deriving DecidableEq, Repr

namespace NewChat

/-- Is the button out of use? -/
def isDisabled : NewChat → Bool
  | .available => false
  | .needsLogin => true

/-- The hint on the button. -/
def hint : NewChat → Option String
  | .available => none
  | .needsLogin => some "You need to be logged in to make a new chat."

/-- The style of the button. -/
def style : NewChat → String
  | .available => ""
  | .needsLogin => "cursor: not-allowed; background-color: grey;"

end NewChat

/-! ## Settings -/

/-- The settings of a panel. -/
structure Settings where
  /-- Is the visitor logged in? -/
  authenticated : Bool
  /-- Where messages are sent. -/
  endpoint : String
  /-- The heading of the panel. -/
  title : String
  /-- The text of the disclaimer. -/
  disclaimer : String
  /-- The element of the page that holds the panel; the body of the page if there is none. -/
  mountPoint : Option String
  deriving DecidableEq, Repr

/-- Why settings were refused. -/
inductive Settings.Refusal where
  /-- The text is no settings record. -/
  | malformed (error : Json.ReadError)
  /-- The endpoint is empty or blank. -/
  | blankEndpoint
  deriving DecidableEq, Repr

/-- The refusal in words. -/
def Settings.Refusal.message : Settings.Refusal → String
  | .malformed error => "invalid widget config: " ++ error.message
  | .blankEndpoint => "widget config endpoint must not be empty"

namespace Settings

/-- The settings of an empty record. -/
def default : Settings where
  authenticated := false
  endpoint := "/"
  title := "Chat"
  disclaimer := "Replies are generated automatically from public market data and may be " ++
    "incomplete or out of date. Nothing shown here is financial advice."
  mountPoint := none

/-- May the visitor start a new chat? -/
def newChat (settings : Settings) : NewChat :=
  if settings.authenticated then .available else .needsLogin

/-- The members of a settings record. -/
inductive Field where
  | authenticated
  | endpoint
  | title
  | disclaimer
  | mountPoint
  deriving DecidableEq, Repr

/-- The name of a member. -/
def Field.name : Field → String
  | .authenticated => "authenticated"
  | .endpoint => "endpoint"
  | .title => "title"
  | .disclaimer => "disclaimer"
  | .mountPoint => "mount_selector"

/-- The second name of a member, if it has one. -/
def Field.aliases : Field → List String
  | .authenticated => ["isUserAuthenticated"]
  | .mountPoint => ["mountSelector"]
  | _ => []

/-- What a member holds. -/
def Field.kind : Field → Json.Kind
  | .authenticated => .flag
  | .mountPoint => .optionalText
  | _ => .text

/-- Settings as a JSON record. -/
def schema : Json.Schema where
  title := "struct WidgetConfig"
  Field := Field
  fields := [.authenticated, .endpoint, .title, .disclaimer, .mountPoint]
  name := Field.name
  aliases := Field.aliases
  kind := Field.kind

/-- The settings of which these members were found, the defaults filled in. -/
def ofFound (found : schema.Found) : Settings where
  authenticated := (found Field.authenticated).getD default.authenticated
  endpoint := (found Field.endpoint).getD default.endpoint
  title := (found Field.title).getD default.title
  disclaimer := (found Field.disclaimer).getD default.disclaimer
  mountPoint := (found Field.mountPoint).getD default.mountPoint

/-- Reads the settings that a page passes. -/
def read (text : String) : Except Refusal Settings :=
  match schema.read text with
  | .error error => .error (.malformed error)
  | .ok found =>
    let settings := ofFound found
    if Text.trim settings.endpoint = "" then .error .blankEndpoint else .ok settings

end Settings

end ChatPanel
