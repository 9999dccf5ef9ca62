import ChatPanel.Json.Encode
import ChatPanel.Json.Record

/-!
# One exchange with the chat service

An exchange sends one message and receives one reply, both as JSON.

* `Request` — the message, written as an object with one member.
* `Reply` — what the service answers: a text, and a notice for visitors who are not logged in.
  Either may be missing, and a member that is no string counts as missing.
* `Failure` — why an exchange brought no reply.

**Outside a browser** there is no network: `send` always fails, whatever the message.
-/

namespace ChatPanel

/-! ## Failures -/

/-- Why an exchange brought no reply. -/
inductive Failure where
  /-- The message could not be written. -/
  | encode (reason : String)
  /-- The network failed. -/
  | transport (reason : String)
  /-- The body is no reply. -/
  | decode (reason : String)
  /-- There is no network here. -/
  | unavailable
  deriving DecidableEq, Repr

/-- The failure in words. -/
def Failure.message : Failure → String
  | .encode reason => "encode request: " ++ reason
  | .transport reason => "request failed: " ++ reason
  | .decode reason => "decode reply: " ++ reason
  | .unavailable => "not available outside the browser"

/-! ## Requests -/

/-- What is sent to the service. -/
structure Request where
  message : String
  deriving DecidableEq, Repr

/-- The body of a request. -/
def Request.encode (request : Request) : String :=
  String.ofList
    ("\x7b\"message\":".toList ++ Json.encodeText request.message.toList ++ ['}'])

/-! ## Replies -/

/-- What the service answers. -/
structure Reply where
  content : Option String
  /-- The notice for visitors who are not logged in. -/
  loginNotice : Option String
  deriving DecidableEq, Repr

namespace Reply

/-- The reply's text, empty if the service sent none. -/
def body (reply : Reply) : String :=
  reply.content.getD ""

/-- The notice to show, if there is one to read. -/
def notice (reply : Reply) : Option String :=
  reply.loginNotice.filter (· ≠ "")

/-- The members of a reply. -/
inductive Field where
  | content
  | loginNotice
  deriving DecidableEq, Repr

/-- The name of a member. -/
def Field.name : Field → String
  | .content => "content"
  | .loginNotice => "not_auth_msg"

/-- A reply as a JSON record. -/
def schema : Json.Schema where
  title := "struct ChatReply"
  Field := Field
  fields := [.content, .loginNotice]
  name := Field.name
  aliases := fun _ => []
  kind := fun _ => .lenientText

/-- The reply of which these members were found.  A missing member and one that is no string are the
same. -/
def ofFound (found : schema.Found) : Reply where
  content := (found Field.content).getD none
  loginNotice := (found Field.loginNotice).getD none

/-- Reads the body that the service sent. -/
def decode (body : String) : Except Failure Reply :=
  match schema.read body with
  | .ok found => .ok (ofFound found)
  | .error error => .error (.decode error.message)

end Reply

/-! ## Sending -/

/-- Sends a message to an address. -/
def send (_address : String) (_request : Request) : Except Failure Reply :=
  .error .unavailable

end ChatPanel
