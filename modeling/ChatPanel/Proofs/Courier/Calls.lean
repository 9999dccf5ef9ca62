import ChatPanel.Proofs.Courier

/-!
# A delivery, call by call

A delivery consists of two calls that end in each other.  Sending a message ends in concluding its
exchange with what the network brought, and concluding ends in sending what the outbox hands out.
Neither of them counts anything, and neither looks at how many messages wait.

**It comes to an end all the same.**  Each round takes one message out of the outbox, so the calls
are two for the message in hand and two for each one that waits (`ends_send`).  Nothing is asked of
the conversation for that: not that a message is on its way, nor that an idle outbox holds none back.

* `Call.perform` — what a call does, and the call that it ends in.
* `Ends` — these are the calls from one on, and the last of them ends in no other.
* **`drained_deliver`** — the calls of a delivery come to an end in one way only, they send the
  message and then the waiting ones, and they leave nothing behind but an empty outbox.
-/

namespace ChatPanel.Courier

/-! ## Calls -/

/-- A call that a courier makes of itself. -/
inductive Call where
  /-- Send a message that was handed out. -/
  | send (text : String)
  /-- Conclude the exchange. -/
  | conclude (result : Except Failure Reply)

/-- The message that a call sends. -/
def Call.text : Call → Option String
  | .send text => some text
  | .conclude _ => none

@[simp] lemma Call.text_send (text : String) : (send text).text = some text := rfl

@[simp] lemma Call.text_conclude (result : Except Failure Reply) :
    (conclude result).text = none := rfl

/-- What a call does, and the call that it ends in, if it ends in one. -/
def Call.perform (courier : Courier) : Call → Option Call × Courier
  | .send text =>
    (some (.conclude (ChatPanel.send courier.endpoint ⟨text⟩)),
      { courier with conversation := courier.conversation.markSent })
  | .conclude result =>
    let (next, after) := courier.conversation.conclude result
    (next.map .send, { courier with conversation := after })

/-- The calls from the given one on are these, and they leave this courier. -/
inductive Ends : Call → Courier → List Call → Courier → Prop where
  | last {call : Call} {courier after : Courier} (h : call.perform courier = (none, after)) :
      Ends call courier [call] after
  | next {call next : Call} {courier between after : Courier} {calls : List Call}
      (h : call.perform courier = (some next, between)) (hnext : Ends next between calls after) :
      Ends call courier (call :: calls) after

/-- Calls that come to an end do so in one way only. -/
lemma Ends.unique {call : Call} {courier last last' : Courier} {calls calls' : List Call}
    (h : Ends call courier calls last) (h' : Ends call courier calls' last') :
    calls' = calls ∧ last' = last := by
  induction h generalizing calls' last' with
  | last h =>
      rcases h' with h' | ⟨h', -⟩
      · simp_all
      · simp_all
  | next h _ ih =>
      rcases h' with h' | ⟨h', hnext'⟩
      · simp_all
      · obtain ⟨rfl, rfl⟩ : _ ∧ _ := by simpa [h] using h'
        simpa using ih hnext'

/-! ## The rounds of a delivery -/

/-- The calls that send these messages, where every exchange fails. -/
def rounds (texts : List String) : List Call :=
  texts.flatMap fun text => [.send text, .conclude (.error .unavailable)]

@[simp] lemma rounds_cons (text : String) (texts : List String) :
    rounds (text :: texts) = .send text :: .conclude (.error .unavailable) :: rounds texts := rfl

lemma filterMap_text_rounds (texts : List String) : (rounds texts).filterMap Call.text = texts := by
  induction texts with
  | nil => rfl
  | cons text texts ih => simp [List.filterMap_cons, ih]

lemma filter_rounds (texts : List String) :
    (rounds texts).filter (·.text = none)
      = List.replicate texts.length (.conclude (.error .unavailable)) := by
  induction texts with
  | nil => rfl
  | cons text texts ih => simp [List.replicate_succ, ih]

/-- The two calls of one round: the outbox hands out the next message, and all else is as before. -/
lemma perform_conclude (endpoint : String) (c : Conversation) (text : String) :
    (Call.conclude (send endpoint ⟨text⟩)).perform ⟨endpoint, c.markSent⟩
      = (c.outbox.conclude.1.map .send, ⟨endpoint, { c with outbox := c.outbox.conclude.2 }⟩) := by
  simp [Call.perform, conclude_send]

/-- **The calls of a delivery come to an end**, after one round for each message. -/
theorem ends_send (courier : Courier) (text : String) :
    Ends (.send text) courier (rounds (text :: courier.conversation.outbox.waiting))
      { courier with conversation := { courier.conversation with outbox := .empty } } := by
  obtain ⟨endpoint, c⟩ := courier
  -- the message in hand and the conversation change from round to round
  induction hwaiting : c.outbox.waiting generalizing c text with
  | nil =>
      refine .next rfl (.last ?_)
      rw [perform_conclude]
      simp [Outbox.conclude, hwaiting, Outbox.empty]
  | cons next rest ih =>
      refine .next rfl (.next ?_ (ih next { c with outbox := ⟨.handedOut, rest⟩ } rfl))
      rw [perform_conclude]
      simp [Outbox.conclude, hwaiting]

/-! ## What a delivery does -/

/-- What the calls of a delivery are, and what they leave. -/
structure Drained (before : Courier) (text : String) (calls : List Call) (last : Courier) :
    Prop where
  /-- The calls come to an end. -/
  ends : Ends (.send text) before calls last
  /-- There is no other way for them to do so. -/
  unique : ∀ calls' last', Ends (.send text) before calls' last' → calls' = calls ∧ last' = last
  /-- The message is sent, and then the ones that wait, in their order. -/
  sent : calls.filterMap Call.text = text :: before.conversation.outbox.waiting
  /-- As many calls conclude an exchange, and all of these fail. -/
  failed : calls.filter (·.text = none)
    = List.replicate (before.conversation.outbox.waiting.length + 1) (.conclude (.error .unavailable))
  /-- Nothing is on its way any more. -/
  phase : last.conversation.outbox.phase = .idle
  /-- Nothing waits any more. -/
  waiting : last.conversation.outbox.waiting = []
  /-- No entry is added or changed. -/
  entries : last.conversation.entries = before.conversation.entries
  /-- No number is used up. -/
  freshId : last.conversation.freshId = before.conversation.freshId
  /-- Nothing has been noticed. -/
  noticePhase : last.conversation.noticePhase = before.conversation.noticePhase

/-- **A delivery drains the outbox and ends**, in whatever state it finds the conversation.  It sends
one message more than wait, each of them once. -/
theorem drained_deliver (courier : Courier) (text : String) :
    ∃ calls last, Drained courier text calls last ∧
      courier.deliver text = (calls.filterMap Call.text, last) ∧
      (courier.deliver text).1.length = courier.conversation.outbox.waiting.length + 1 := by
  have hends := ends_send courier text
  have hdrained : Drained courier text _ _ := {
    ends := hends
    unique := fun calls' last' h => hends.unique h
    sent := filterMap_text_rounds _
    failed := filter_rounds _
    phase := rfl
    waiting := rfl
    entries := rfl
    freshId := rfl
    noticePhase := rfl }
  refine ⟨_, _, hdrained, ?_, ?_⟩
  · rw [hdrained.sent, deliver_eq]
  · simp [deliver_eq]

end ChatPanel.Courier
