import ChatPanel.Exchange
import ChatPanel.Outbox
import ChatPanel.Text.Lines

/-!
# A conversation

A conversation is a list of entries that only grows, and an outbox.  What the visitor submits is
shown at once and sent when its turn comes; what the service replies is shown when it arrives.

**The notice.**  The first reply that carries a notice for visitors who are not logged in shows it
above its own text.  No later reply shows one.

* `Reply.additions` — what a reply adds, and whether the notice has been shown after it.
* `Conversation.submit`, `markSent`, `conclude` — the outbox's operations, with what they show.
* `Conversation.perform` — every operation as data, so that runs can be spoken of.
-/

namespace ChatPanel

/-! ## Entries -/

/-- Who an entry is from. -/
inductive Sender where
  | user
  | bot
  deriving DecidableEq, Repr

/-- How an entry is shown. -/
inductive Entry.Kind where
  /-- Line by line. -/
  | message
  /-- As one line, in the colour of a warning. -/
  | notice
  deriving DecidableEq, Repr

/-- One entry of a conversation.  It never changes. -/
structure Entry where
  id : Nat
  text : String
  sender : Sender
  kind : Entry.Kind
  deriving DecidableEq, Repr

/-- The colour of a notice. -/
def warningColor : String := "#E2694F"

namespace Entry

/-- The style class of an entry. -/
def styleClass (entry : Entry) : String :=
  match entry.sender with
  | .user => "user-message"
  | .bot => "bot-message"

/-- The lines of an entry.  A notice is never split. -/
def lines (entry : Entry) : List String :=
  match entry.kind with
  | .message => Text.lines entry.text
  | .notice => [entry.text]

/-- The colour of an entry, if it has one of its own. -/
def color (entry : Entry) : Option String :=
  match entry.kind with
  | .message => none
  | .notice => some warningColor

end Entry

/-! ## What a reply adds -/

/-- Has the notice been shown? -/
inductive NoticePhase where
  | pending
  | shown
  deriving DecidableEq, Repr

/-- One addition that a reply makes. -/
inductive Addition where
  | notice (text : String)
  | answer (text : String)
  deriving DecidableEq, Repr

/-- What a reply adds, and whether the notice has been shown after it. -/
def Reply.additions (reply : Reply) (phase : NoticePhase) : List Addition × NoticePhase :=
  match phase, reply.notice with
  | .pending, some notice => ([.notice notice, .answer reply.body], .shown)
  | _, _ => ([.answer reply.body], phase)

/-! ## Conversations -/

/-- The entries, the number that the next one gets, whether the notice has been shown, and the
message on its way with those that wait. -/
structure Conversation where
  entries : List Entry
  freshId : Nat
  noticePhase : NoticePhase
  outbox : Outbox
  deriving DecidableEq, Repr

namespace Conversation

/-- A conversation before its first entry. -/
def empty : Conversation := ⟨[], 0, .pending, .empty⟩

/-- Adds an entry at the end and returns its number. -/
def addEntry (c : Conversation) (text : String) (sender : Sender) (kind : Entry.Kind) :
    Nat × Conversation :=
  (c.freshId,
   { c with entries := c.entries ++ [⟨c.freshId, text, sender, kind⟩], freshId := c.freshId + 1 })

/-- Adds a message. -/
def addMessage (c : Conversation) (text : String) (sender : Sender) : Nat × Conversation :=
  c.addEntry text sender .message

/-- Adds a notice, which is always from the service. -/
def addNotice (c : Conversation) (text : String) : Nat × Conversation :=
  c.addEntry text .bot .notice

/-- Takes a text from the visitor: shows it if it is accepted. -/
def submit (c : Conversation) (raw : String) : Outbox.Verdict × Conversation :=
  let (verdict, outbox) := c.outbox.submit raw
  let after := { c with outbox := outbox }
  match verdict.accepted with
  | none => (verdict, after)
  | some text => (verdict, (after.addMessage text .user).2)

/-- The message handed out last is on the wire. -/
def markSent (c : Conversation) : Conversation :=
  { c with outbox := c.outbox.markSent }

/-- Makes one addition of a reply. -/
def add (c : Conversation) : Addition → Conversation
  | .notice text => (c.addNotice text).2
  | .answer text => (c.addMessage text .bot).2

/-- Shows a reply. -/
def receive (c : Conversation) (reply : Reply) : Conversation :=
  let (additions, phase) := reply.additions c.noticePhase
  { additions.foldl add c with noticePhase := phase }

/-- A reply leaves the outbox as it is. -/
theorem outbox_receive (c : Conversation) (reply : Reply) :
    (c.receive reply).outbox = c.outbox := by
  simp only [receive, Reply.additions]
  split <;> rfl

/-- The exchange is over: shows its reply if it brought one, and hands out the next message. -/
def conclude (c : Conversation) (result : Except Failure Reply) : Option String × Conversation :=
  let shown := match result with
    | .ok reply => c.receive reply
    | .error _ => c
  let (next, outbox) := shown.outbox.conclude
  (next, { shown with outbox := outbox })

/-! ## Runs -/

/-- An operation on a conversation. -/
inductive Op where
  | addMessage (text : String) (sender : Sender)
  | addNotice (text : String)
  | submit (raw : String)
  | markSent
  | receive (reply : Reply)
  | conclude (result : Except Failure Reply)

/-- What an operation returns. -/
inductive Outcome where
  | added (id : Nat)
  | verdict (verdict : Outbox.Verdict)
  | done
  | next (text : Option String)
  deriving DecidableEq, Repr

/-- Performs one operation. -/
def perform (c : Conversation) : Op → Outcome × Conversation
  | .addMessage text sender => let (id, after) := c.addMessage text sender; (.added id, after)
  | .addNotice text => let (id, after) := c.addNotice text; (.added id, after)
  | .submit raw => let (verdict, after) := c.submit raw; (.verdict verdict, after)
  | .markSent => (.done, c.markSent)
  | .receive reply => (.done, c.receive reply)
  | .conclude result => let (next, after) := c.conclude result; (.next next, after)

/-- The steps of a run on an empty conversation. -/
def run (ops : List Op) : List (Outcome × Conversation) :=
  trace perform empty ops

end Conversation

end ChatPanel
