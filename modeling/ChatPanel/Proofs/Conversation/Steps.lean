import ChatPanel.Conversation
import ChatPanel.Proofs.Outbox

/-!
# What one operation does to a conversation

A conversation has two sides that never meet: the outbox, which decides what is sent and when, and
the entries, which show what was said.  This file describes one operation on either side, so that
no later proof has to open the operations themselves.

**The outbox.**  `Op.forOutbox` is what an operation asks of the outbox, if anything.
`outbox_after` and `handedOut_eq` say that the outbox of a conversation goes through a run of its
own, so that the laws of outboxes are laws of conversations.

**The entries.**  `entries_perform` says that an operation adds the entries `added` at the end and
does nothing else to the list.

Both sides together are `fst_perform`, what an operation returns, and `snd_perform`, all that it leaves
behind.
-/

namespace ChatPanel.Conversation

/-! ## What a run leaves behind -/

/-- The conversation at the end of a run. -/
def after (ops : List Op) : Conversation :=
  lastState perform empty ops

/-- The text that an operation hands out. -/
def Outcome.handedOut : Outcome → Option String
  | .verdict (.send text) => some text
  | .next text => text
  | _ => none

/-- The texts that the first steps of a run have handed out, in the order in which they were. -/
def handedOut (steps : List (Outcome × Conversation)) : List String :=
  (steps.map Prod.fst).filterMap Outcome.handedOut

lemma after_append (ops : List Op) (op : Op) :
    after (ops ++ [op]) = ((after ops).perform op).2 := by
  simp only [after, lastState_append]
  rfl

lemma handedOut_append (ops : List Op) (op : Op) :
    handedOut (run (ops ++ [op]))
      = handedOut (run ops) ++ ((after ops).perform op).1.handedOut.toList := by
  simp only [handedOut, run, trace_append, List.map_append, List.filterMap_append]
  rfl

lemma after_take_succ {ops : List Op} {i : ℕ} {op : Op} (h : ops[i]? = some op) :
    after (ops.take (i + 1)) = ((after (ops.take i)).perform op).2 :=
  lastState_take_succ perform h

lemma take_run (ops : List Op) (n : ℕ) : (run ops).take n = run (ops.take n) :=
  take_trace perform empty ops n

lemma eq_after_of_getElem?_run {ops : List Op} {i : ℕ} {outcome : Outcome} {c : Conversation}
    (h : (run ops)[i]? = some (outcome, c)) : c = after (ops.take (i + 1)) :=
  eq_lastState_of_getElem?_trace perform h

/-! ## The side of the outbox -/

/-- The text that an operation submits. -/
def Op.raw : Op → Option String
  | .submit raw => some raw
  | _ => none

/-- What an operation asks of the outbox. -/
def Op.forOutbox : Op → Option Outbox.Op
  | .submit raw => some (.submit raw)
  | .markSent => some .markSent
  | .conclude _ => some .conclude
  | _ => none

lemma outbox_submit (c : Conversation) (raw : String) :
    (c.submit raw).2.outbox = (c.outbox.submit raw).2 := by
  simp only [submit]
  split <;> rfl

lemma fst_submit (c : Conversation) (raw : String) :
    (c.submit raw).1 = (c.outbox.submit raw).1 := by
  simp only [submit]
  split <;> rfl

lemma conclude_eq (c : Conversation) (result : Except Failure Reply) :
    (c.conclude result).1 = c.outbox.conclude.1 ∧
      (c.conclude result).2.outbox = c.outbox.conclude.2 := by
  cases result with
  | ok reply => simp only [conclude, outbox_receive, and_self]
  | error failure => simp only [conclude, and_self]

/-- The outbox sees of an operation what `forOutbox` says, and nothing else. -/
lemma outbox_perform (c : Conversation) (op : Op) :
    (c.perform op).2.outbox = op.forOutbox.elim c.outbox fun o => (c.outbox.perform o).2 := by
  cases op with
  | addMessage text sender => rfl
  | addNotice text => rfl
  | submit raw => simp only [perform, outbox_submit, Op.forOutbox, Option.elim, Outbox.perform]
  | markSent => rfl
  | receive reply => exact outbox_receive c reply
  | conclude result =>
      simp only [perform, conclude_eq, Op.forOutbox, Option.elim, Outbox.perform]

/-- What a conversation returns for what its outbox does. -/
def Outcome.ofOutbox : Outbox.Outcome → Outcome
  | .verdict v => .verdict v
  | .done => .done
  | .next text => .next text

/-- What an operation on the outbox returns comes from the outbox. -/
lemma fst_perform (c : Conversation) {op : Op} {o : Outbox.Op} (h : op.forOutbox = some o) :
    (c.perform op).1 = .ofOutbox (c.outbox.perform o).1 := by
  cases op with
  | submit raw =>
      cases h
      simp only [perform, fst_submit, Outbox.perform, Outcome.ofOutbox]
  | markSent =>
      cases h
      rfl
  | conclude result =>
      cases h
      simp only [perform, conclude_eq, Outbox.perform, Outcome.ofOutbox]
  | _ => cases h

lemma handedOut_ofOutbox (outcome : Outbox.Outcome) :
    (Outcome.ofOutbox outcome).handedOut = outcome.handedOut := by
  cases outcome with
  | verdict v => cases v <;> rfl
  | done => rfl
  | next text => rfl

/-- What is handed out comes from the outbox. -/
lemma handedOut_perform (c : Conversation) (op : Op) :
    (c.perform op).1.handedOut
      = op.forOutbox.bind fun o => (c.outbox.perform o).1.handedOut := by
  cases h : op.forOutbox with
  | some o => rw [fst_perform c h, handedOut_ofOutbox, Option.bind_some]
  | none =>
      cases op with
      | addMessage text sender => rfl
      | addNotice text => rfl
      | receive reply => rfl
      | _ => cases h

lemma raw_eq_forOutbox (op : Op) : op.raw = op.forOutbox.bind Outbox.Op.raw := by
  cases op <;> rfl

lemma filterMap_raw (ops : List Op) :
    ops.filterMap Op.raw = (ops.filterMap Op.forOutbox).filterMap Outbox.Op.raw := by
  rw [List.filterMap_filterMap]
  exact List.filterMap_congr fun op _ => raw_eq_forOutbox op

/-- **The outbox of a conversation goes through a run of its own.** -/
theorem outbox_after (ops : List Op) :
    (after ops).outbox = Outbox.after (ops.filterMap Op.forOutbox) := by
  induction ops using List.reverseRecOn with
  | nil => rfl
  | append_singleton ops op ih =>
      rw [after_append, outbox_perform, ih, List.filterMap_append]
      cases h : op.forOutbox with
      | none => simp [h]
      | some o => simp [h, Outbox.after_append]

/-- What a conversation hands out is what its outbox does. -/
theorem handedOut_eq (ops : List Op) :
    handedOut (run ops) = Outbox.handedOut (ops.filterMap Op.forOutbox) := by
  induction ops using List.reverseRecOn with
  | nil => rfl
  | append_singleton ops op ih =>
      rw [handedOut_append, handedOut_perform, ih, outbox_after, List.filterMap_append]
      cases h : op.forOutbox with
      | none => simp [h]
      | some o => simp [h, Outbox.handedOut_append]

/-! ## The side of the entries -/

/-- The reply that an operation brings. -/
def Op.reply : Op → Option Reply
  | .receive reply => some reply
  | .conclude (.ok reply) => some reply
  | _ => none

/-- Does the operation put an entry in by hand, without a submission or a reply? -/
def Op.byHand : Op → Bool
  | .addMessage _ _ => true
  | .addNotice _ => true
  | _ => false

/-- The replies of a run, in their order. -/
def replies (ops : List Op) : List Reply :=
  ops.filterMap Op.reply

/-- The notice that a reply shows now. -/
def dueNotice (c : Conversation) (reply : Reply) : Option String :=
  if c.noticePhase = .pending then reply.notice else none

/-- The entries that a reply adds: its notice, if that is due, and its text. -/
def shown (c : Conversation) (reply : Reply) : List Entry :=
  match c.dueNotice reply with
  | some notice =>
    [⟨c.freshId, notice, .bot, .notice⟩, ⟨c.freshId + 1, reply.body, .bot, .message⟩]
  | none => [⟨c.freshId, reply.body, .bot, .message⟩]

/-- The entries that an operation adds. -/
def added (c : Conversation) : Op → List Entry
  | .addMessage text sender => [⟨c.freshId, text, sender, .message⟩]
  | .addNotice text => [⟨c.freshId, text, .bot, .notice⟩]
  | .submit raw => (acceptedTexts [raw]).map fun text => ⟨c.freshId, text, .user, .message⟩
  | .markSent => []
  | .receive reply => c.shown reply
  | .conclude (.ok reply) => c.shown reply
  | .conclude (.error _) => []

lemma added_of_reply {c : Conversation} {op : Op} {reply : Reply} (h : op.reply = some reply) :
    c.added op = c.shown reply := by
  cases op with
  | receive r => cases h; rfl
  | conclude result => cases result with
      | ok r => cases h; rfl
      | error failure => cases h
  | _ => cases h

/-- Without a reply and without a hand in it, an operation adds what it submits. -/
lemma added_of_none {c : Conversation} {op : Op} (h : op.reply = none) (hand : op.byHand = false) :
    c.added op
      = (acceptedTexts op.raw.toList).map fun text => ⟨c.freshId, text, .user, .message⟩ := by
  cases op with
  | addMessage text sender => cases hand
  | addNotice text => cases hand
  | submit raw => rfl
  | markSent => rfl
  | receive reply => cases h
  | conclude result => cases result with
      | ok reply => cases h
      | error failure => rfl

lemma entries_receive (c : Conversation) (reply : Reply) :
    (c.receive reply).entries = c.entries ++ c.shown reply := by
  obtain ⟨entries, freshId, phase, outbox⟩ := c
  simp only [receive, Reply.additions, shown, dueNotice]
  cases phase with
  | shown => rfl
  | pending =>
      cases reply.notice with
      | none => rfl
      | some notice => simp [add, addNotice, addMessage, addEntry]

lemma noticePhase_receive (c : Conversation) (reply : Reply) :
    (c.receive reply).noticePhase
      = (c.dueNotice reply).elim c.noticePhase fun _ => .shown := by
  obtain ⟨entries, freshId, phase, outbox⟩ := c
  simp only [receive, Reply.additions, dueNotice]
  cases phase with
  | shown => rfl
  | pending => cases reply.notice <;> rfl

lemma entries_submit (c : Conversation) (raw : String) :
    (c.submit raw).2.entries
      = c.entries ++ (acceptedTexts [raw]).map fun text => ⟨c.freshId, text, .user, .message⟩ := by
  simp only [submit, Outbox.accepted_submit]
  by_cases hblank : Text.trim raw = ""
  · simp only [acceptedTexts_blank hblank, List.head?_nil, List.map_nil, List.append_nil]
  · simp only [acceptedTexts_text hblank, List.head?_cons, List.map_cons, List.map_nil]
    rfl

/-- **An operation adds entries at the end**, and does nothing else to the list. -/
theorem entries_perform (c : Conversation) (op : Op) :
    (c.perform op).2.entries = c.entries ++ c.added op := by
  cases op with
  | addMessage text sender => rfl
  | addNotice text => rfl
  | submit raw => simp only [perform, entries_submit, added]
  | markSent => exact (List.append_nil _).symm
  | receive reply => exact entries_receive c reply
  | conclude result =>
      cases result with
      | ok reply => exact entries_receive c reply
      | error failure => exact (List.append_nil _).symm

lemma freshId_receive (c : Conversation) (reply : Reply) :
    (c.receive reply).freshId = c.freshId + (c.shown reply).length := by
  obtain ⟨entries, freshId, phase, outbox⟩ := c
  simp only [receive, Reply.additions, shown, dueNotice]
  cases phase with
  | shown => rfl
  | pending => cases reply.notice <;> rfl

lemma freshId_submit (c : Conversation) (raw : String) :
    (c.submit raw).2.freshId = c.freshId + (acceptedTexts [raw]).length := by
  simp only [submit, Outbox.accepted_submit]
  by_cases hblank : Text.trim raw = ""
  · simp only [acceptedTexts_blank hblank, List.head?_nil, List.length_nil, Nat.add_zero]
  · simp only [acceptedTexts_text hblank, List.head?_cons, List.length_singleton]
    rfl

/-- The next number moves on by one for each entry that is added. -/
lemma freshId_perform (c : Conversation) (op : Op) :
    (c.perform op).2.freshId = c.freshId + (c.added op).length := by
  cases op with
  | addMessage text sender => rfl
  | addNotice text => rfl
  | submit raw => simp only [perform, freshId_submit, added, List.length_map]
  | markSent => rfl
  | receive reply => exact freshId_receive c reply
  | conclude result =>
      cases result with
      | ok reply => exact freshId_receive c reply
      | error failure => rfl

/-- Only a reply can bring the notice up. -/
lemma noticePhase_perform (c : Conversation) (op : Op) :
    (c.perform op).2.noticePhase
      = (op.reply.bind c.dueNotice).elim c.noticePhase fun _ => .shown := by
  cases op with
  | addMessage text sender => rfl
  | addNotice text => rfl
  | submit raw =>
      simp only [perform, submit]
      split <;> rfl
  | markSent => rfl
  | receive reply => exact noticePhase_receive c reply
  | conclude result =>
      cases result with
      | ok reply => exact noticePhase_receive c reply
      | error failure => rfl

/-- Everything that an operation leaves behind. -/
lemma snd_perform (c : Conversation) (op : Op) :
    (c.perform op).2
      = ⟨c.entries ++ c.added op, c.freshId + (c.added op).length,
          (op.reply.bind c.dueNotice).elim c.noticePhase fun _ => .shown,
          op.forOutbox.elim c.outbox fun o => (c.outbox.perform o).2⟩ := by
  rw [← entries_perform, ← freshId_perform, ← noticePhase_perform, ← outbox_perform]

end ChatPanel.Conversation
