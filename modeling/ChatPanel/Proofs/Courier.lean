import ChatPanel.Courier
import ChatPanel.Proofs.Conversation.Delivery
import ChatPanel.Proofs.Text.Blank

/-!
# What a submission leaves behind

Outside a browser every exchange fails at once.  A courier that delivers a message therefore goes
through the whole cycle of the outbox, again and again while messages wait, before the submission
returns: the phase changes several times and the queue is drained.

**No trace is left.**  `deliver_eq` says what remains of the cycle: the entries are untouched and the
outbox is empty.  `submit_text` draws the conclusion for a submission: the text is shown, and either
everything has been sent or the text waits behind a message that is still on its way.

**Every state.**  A conversation may also be used behind the courier's back, and a message may be
left on its way with others waiting.  What `submit_text` asks of the state is `Outbox.KeepsNoneBack`,
and `keepsNoneBack_after` has it for every state that any mix of operations reaches.

* **`submitted_of_run`** — what a submission does in every such state, and what submissions alone
  leave behind.
-/

namespace ChatPanel

/-- The conversation with a text that was submitted and accepted.  The text is shown.  It has been
sent if nothing was on its way, and otherwise it waits behind the others. -/
def Conversation.accept (c : Conversation) (text : String) : Conversation where
  entries := c.entries ++ [⟨c.freshId, text, .user, .message⟩]
  freshId := c.freshId + 1
  noticePhase := c.noticePhase
  outbox :=
    if c.outbox.phase = .idle then .empty
    else { c.outbox with waiting := c.outbox.waiting ++ [text] }

namespace Courier

/-! ## One delivery -/

/-- A failed exchange shows nothing, and the report before it changes the phase alone. -/
lemma conclude_send (c : Conversation) (address : String) (request : Request) :
    c.markSent.conclude (send address request)
      = (c.outbox.conclude.1, { c with outbox := c.outbox.conclude.2 }) := by
  have hwaiting := waiting_markSent c
  simp only [Conversation.markSent] at hwaiting
  simp only [send, Conversation.conclude, Conversation.markSent, Outbox.conclude, hwaiting]

/-- **A delivery drains the outbox**: it sends the message and then the ones that wait, in their
order, and leaves everything but the outbox as it was. -/
theorem deliver_eq (courier : Courier) (text : String) :
    courier.deliver text
      = (text :: courier.conversation.outbox.waiting,
          { courier with conversation := { courier.conversation with outbox := .empty } }) := by
  obtain ⟨endpoint, c⟩ := courier
  induction hwaiting : c.outbox.waiting generalizing c text with
  | nil =>
      have hlast : c.markSent.conclude (send endpoint ⟨text⟩) = (none, { c with outbox := .empty }) := by
        simp only [conclude_send, Outbox.conclude, hwaiting, Outbox.empty]
      rw [deliver]
      split
      · next after h =>
          cases hlast.symm.trans h
          rfl
      · next next after h => cases hlast.symm.trans h
  | cons next rest ih =>
      have hnext : c.markSent.conclude (send endpoint ⟨text⟩)
          = (some next, { c with outbox := ⟨.handedOut, rest⟩ }) := by
        simp only [conclude_send, Outbox.conclude, hwaiting]
      rw [deliver]
      split
      · next after h => cases hnext.symm.trans h
      · next other after h =>
          cases hnext.symm.trans h
          rw [ih next { c with outbox := ⟨.handedOut, rest⟩ } rfl]

/-! ## One submission -/

lemma submit_blank (courier : Courier) {raw : String} (hblank : Text.trim raw = "") :
    courier.submit raw = (false, courier) := by
  simp [submit, Conversation.submit, Outbox.submit, hblank, Outbox.Verdict.accepted]

/-- A text that is accepted is shown, and the outbox is left empty or with the text at its end. -/
lemma submit_text (courier : Courier) {raw : String} (htext : Text.trim raw ≠ "")
    (h : courier.conversation.outbox.KeepsNoneBack) :
    courier.submit raw
      = (true, { courier with conversation := courier.conversation.accept (Text.trim raw) }) := by
  by_cases hidle : courier.conversation.outbox.phase = .idle
  · have hnone := h hidle
    simp [submit, Conversation.submit, Outbox.submit, htext, hidle, Outbox.Verdict.accepted,
      Conversation.addMessage, Conversation.addEntry, deliver_eq, Conversation.accept]
  · simp [submit, Conversation.submit, Outbox.submit, htext, hidle, Outbox.Verdict.accepted,
      Conversation.addMessage, Conversation.addEntry, Conversation.accept]

/-! ## Every state -/

/-- The courier at the end of a run. -/
def after (endpoint : String) (ops : List Op) : Courier :=
  lastState perform (start endpoint) ops

lemma after_append (endpoint : String) (ops : List Op) (op : Op) :
    after endpoint (ops ++ [op]) = ((after endpoint ops).perform op).2 := by
  simp only [after, lastState_append]
  rfl

/-- A text that is accepted leaves nothing waiting, or waits behind a message on its way. -/
lemma keepsNoneBack_accept (c : Conversation) (text : String) :
    (c.accept text).outbox.KeepsNoneBack := by
  by_cases hidle : c.outbox.phase = .idle
  · simp [Conversation.accept, hidle, Outbox.empty, Outbox.KeepsNoneBack]
  · simp [Conversation.accept, hidle, Outbox.KeepsNoneBack]

lemma keepsNoneBack_perform {courier : Courier} (op : Op)
    (h : courier.conversation.outbox.KeepsNoneBack) :
    (courier.perform op).2.conversation.outbox.KeepsNoneBack := by
  cases op with
  | submit raw =>
      by_cases hblank : Text.trim raw = ""
      · simpa only [perform, submit_blank courier hblank] using h
      · simpa only [perform, submit_text courier hblank h] using keepsNoneBack_accept _ _
  | direct op =>
      simp only [perform, Conversation.outbox_perform]
      cases op.forOutbox with
      | none => exact h
      | some o => exact (Outbox.step_perform courier.conversation.outbox o).keepsNoneBack h

/-- Whatever was done behind the courier's back, an idle outbox keeps no message back. -/
theorem keepsNoneBack_after (endpoint : String) (ops : List Op) :
    (after endpoint ops).conversation.outbox.KeepsNoneBack := by
  induction ops using List.reverseRecOn with
  | nil => exact fun _ => rfl
  | append_singleton ops op ih =>
      rw [after_append]
      exact keepsNoneBack_perform op ih

/-! ## What a submission does -/

/-- What a submission does to a conversation, and whether the text was accepted. -/
structure Submitted (before : Conversation) (raw : String) (accepted : Bool)
    (last : Conversation) : Prop where
  /-- A text is accepted if there is anything in it to read. -/
  accepted_iff : accepted = true ↔ ∃ c ∈ raw.toList, Text.isBlank c = false
  /-- A text that is not changes nothing at all. -/
  refused : accepted = false → last = before
  /-- One entry is added, and it is the visitor's. -/
  entries : accepted = true →
    last.entries = before.entries ++ [⟨before.freshId, Text.trim raw, .user, .message⟩]
  /-- No failed exchange shows anything. -/
  answers : accepted = true →
    (last.entries.filter fun entry => entry.sender = .bot)
      = before.entries.filter fun entry => entry.sender = .bot
  /-- Nor does it touch the notice. -/
  noticePhase : accepted = true → last.noticePhase = before.noticePhase
  /-- While nothing is on its way, the text is sent, and nothing is left of it. -/
  idle : accepted = true → before.outbox.phase = .idle → last.outbox = ⟨.idle, []⟩
  /-- While a message is on its way, the text waits behind the others. -/
  busy : accepted = true → before.outbox.phase ≠ .idle →
    last.outbox = { before.outbox with waiting := before.outbox.waiting ++ [Text.trim raw] }

lemma submitted_submit {courier : Courier} (raw : String)
    (h : courier.conversation.outbox.KeepsNoneBack) :
    Submitted courier.conversation raw (courier.submit raw).1
      (courier.submit raw).2.conversation := by
  by_cases hblank : Text.trim raw = ""
  · rw [submit_blank courier hblank]
    have hnot : ¬ false = true := by decide
    exact {
      accepted_iff := iff_of_false hnot fun hsome => Text.trim_ne_empty_iff.mpr hsome hblank
      refused := fun _ => rfl
      entries := fun h => absurd h hnot
      answers := fun h => absurd h hnot
      noticePhase := fun h => absurd h hnot
      idle := fun h => absurd h hnot
      busy := fun h => absurd h hnot }
  · rw [submit_text courier hblank h]
    exact {
      accepted_iff := iff_of_true rfl (Text.trim_ne_empty_iff.mp hblank)
      refused := fun h => absurd h (by simp)
      entries := fun _ => rfl
      answers := fun _ => by simp [Conversation.accept]
      noticePhase := fun _ => rfl
      idle := fun _ hidle => if_pos hidle
      busy := fun _ hbusy => if_neg hbusy }

/-- Submissions alone leave one entry for each text that was accepted, and nothing else. -/
lemma after_submissions (endpoint : String) (raws : List String) :
    (after endpoint (raws.map .submit)).conversation
      = ⟨(acceptedTexts raws).mapIdx fun id text => ⟨id, text, .user, .message⟩,
          (acceptedTexts raws).length, .pending, .empty⟩ := by
  induction raws using List.reverseRecOn with
  | nil => rfl
  | append_singleton raws raw ih =>
      have hnone := keepsNoneBack_after endpoint (raws.map .submit)
      rw [List.map_append, List.map_singleton, after_append, acceptedTexts_append]
      by_cases hblank : Text.trim raw = ""
      · rw [acceptedTexts_blank hblank, List.append_nil, perform, submit_blank _ hblank]
        exact ih
      · rw [acceptedTexts_text hblank, perform, submit_text _ hblank hnone]
        simp [ih, Conversation.accept, Outbox.empty, List.mapIdx_append]

/-- **What a submission does in every state that can be reached**, and what submissions alone leave
behind: the outbox empty, and the accepted texts as the visitor's entries, in their order. -/
theorem submitted_of_run (endpoint : String) :
    (∀ ops raw, Submitted (after endpoint ops).conversation raw
      ((after endpoint ops).submit raw).1 ((after endpoint ops).submit raw).2.conversation) ∧
    ∀ raws : List String,
      (after endpoint (raws.map .submit)).conversation.outbox = ⟨.idle, []⟩ ∧
      (after endpoint (raws.map .submit)).conversation.entries
        = (acceptedTexts raws).mapIdx fun id text => ⟨id, text, .user, .message⟩ := by
  refine ⟨fun ops raw => submitted_submit raw (keepsNoneBack_after endpoint ops), fun raws => ?_⟩
  rw [after_submissions]
  exact ⟨rfl, rfl⟩

end Courier

end ChatPanel
