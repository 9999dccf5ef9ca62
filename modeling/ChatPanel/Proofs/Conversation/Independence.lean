import ChatPanel.Proofs.Conversation.Delivery
import ChatPanel.Proofs.Conversation.Replies

/-!
# What is sent and what is answered do not interfere

A conversation takes in two streams.  The visitor's texts decide what is sent, and the service's
replies decide what is shown for them.  An operation may carry something of both: to conclude an
exchange hands out the next message and shows the reply.

* `SameButReply` — two operations that differ in nothing but the reply they bring, or the failure.
* `SameSending` — two conversations with the same outbox and the same texts of the visitor.
* **`sendingSide_eq_and_fromService_eq`** — the two directions.  Whatever the service replies and
  however often it fails, the same is accepted, handed out and kept waiting at every step, in the same
  order.  And whatever the visitor does and however often an exchange fails, the same replies are
  shown in the same way, with the same notice.

The first direction compares two runs step by step.  In the second one the runs may have nothing in
common but their replies.  No step of the one belongs to a step of the other, and what each of them
shows is compared with the service's side of the replies (`serviceSide`).
-/

namespace ChatPanel.Conversation

/-! ## From the replies to the sending -/

/-- Two operations that differ in nothing but the reply they bring. -/
inductive SameButReply : Op → Op → Prop where
  | submit (raw : String) : SameButReply (.submit raw) (.submit raw)
  | markSent : SameButReply .markSent .markSent
  | receive (reply reply' : Reply) : SameButReply (.receive reply) (.receive reply')
  | conclude (result result' : Except Failure Reply) :
      SameButReply (.conclude result) (.conclude result')

namespace SameButReply

variable {op op' : Op}

lemma forOutbox_eq (h : SameButReply op op') : op.forOutbox = op'.forOutbox := by
  cases h <;> rfl

lemma raw_eq (h : SameButReply op op') : op.raw = op'.raw := by
  cases h <;> rfl

lemma ne_forged (h : SameButReply op op') (text : String) :
    op ≠ .addMessage text .user ∧ op' ≠ .addMessage text .user := by
  cases h <;> simp

end SameButReply

/-- Two conversations that have the same to send and have sent the same. -/
structure SameSending (c d : Conversation) : Prop where
  outbox : c.outbox = d.outbox
  userTexts : c.userTexts = d.userTexts

variable {c d : Conversation} {op op' : Op}

/-- What an operation returns does not depend on the reply it brings. -/
lemma SameSending.fst_perform_eq (h : SameSending c d) (hop : SameButReply op op') :
    (c.perform op).1 = (d.perform op').1 := by
  cases hfor : op.forOutbox with
  | some o => rw [fst_perform c hfor, fst_perform d (hop.forOutbox_eq ▸ hfor), h.outbox]
  | none =>
      cases hop with
      | receive reply reply' => rfl
      | _ => cases hfor

/-- Nor does the sending that it leaves. -/
lemma SameSending.perform (h : SameSending c d) (hop : SameButReply op op') :
    SameSending (c.perform op).2 (d.perform op').2 where
  outbox := by rw [outbox_perform, outbox_perform, hop.forOutbox_eq, h.outbox]
  userTexts := by
    rw [userTexts_perform c fun text => (hop.ne_forged text).1,
      userTexts_perform d fun text => (hop.ne_forged text).2, hop.raw_eq, h.userTexts]

/-- What a step of a run shows of the sending: what was returned, the phase with the texts that wait,
and the visitor's texts. -/
def sendingSide (step : Outcome × Conversation) : Outcome × Outbox × List String :=
  (step.1, step.2.outbox, step.2.userTexts)

/-- The replies of a run leave no trace in its sending, at any step. -/
lemma sendingSide_trace_eq {ops ops' : List Op} (hops : List.Forall₂ SameButReply ops ops')
    (h : SameSending c d) :
    (trace perform c ops).map sendingSide = (trace perform d ops').map sendingSide := by
  induction hops generalizing c d with
  | nil => rfl
  | cons hop hops ih =>
      have hnext := h.perform hop
      simp only [trace, List.map_cons, sendingSide]
      rw [h.fst_perform_eq hop, hnext.outbox, hnext.userTexts, ih hnext]

/-! ## From the sending to the replies -/

/-- What the service's entries show, one after the other. -/
def fromService (c : Conversation) : List (Entry.Kind × String) :=
  (c.entries.filter (·.sender = .bot)).map fun entry => (entry.kind, entry.text)

lemma fromService_after {ops : List Op} (h : Unscripted ops) :
    (after ops).fromService = serviceSide (replies ops) :=
  serviceEntries_after h

/-! ## Both directions -/

/-- **What is sent and what is answered do not interfere.**  Runs that differ in their replies alone
agree at every step on what is returned, on the outbox and on the visitor's texts.  Runs with the same
replies, whatever else they do, agree on what the service shows and on whether the notice is still
due. -/
theorem sendingSide_eq_and_fromService_eq (ops ops' : List Op) :
    (List.Forall₂ SameButReply ops ops' →
      (run ops).map sendingSide = (run ops').map sendingSide) ∧
    (Unscripted ops → Unscripted ops' → replies ops = replies ops' →
      (after ops).noticePhase = (after ops').noticePhase ∧
      (after ops).fromService = (after ops').fromService) := by
  refine ⟨fun hops => sendingSide_trace_eq hops ⟨rfl, rfl⟩, ?_⟩
  intro h h' hreplies
  rw [noticePhase_after, noticePhase_after, fromService_after h, fromService_after h', hreplies]
  exact ⟨rfl, rfl⟩

/-- A failure in place of a reply with a notice changes nothing of the sending, and the same replies
to other texts, with a failure between them, show the same. -/
theorem sendingSide_eq_and_fromService_eq_failed :
    (List.Forall₂ SameButReply
        [.submit "one", .submit "two", .conclude (.ok ⟨some "1", some "Log in"⟩),
          .conclude (.ok ⟨some "2", none⟩)]
        [.submit "one", .submit "two", .conclude (.error .unavailable),
          .conclude (.ok ⟨none, some ""⟩)] ∧
      (run [.submit "one", .submit "two", .conclude (.ok ⟨some "1", some "Log in"⟩),
          .conclude (.ok ⟨some "2", none⟩)]).map sendingSide
        = (run [.submit "one", .submit "two", .conclude (.error .unavailable),
          .conclude (.ok ⟨none, some ""⟩)]).map sendingSide) ∧
    Unscripted [.submit "one", .conclude (.ok ⟨some "1", some "Log in"⟩),
        .conclude (.ok ⟨some "2", none⟩)] ∧
      Unscripted [.conclude (.ok ⟨some "1", some "Log in"⟩), .submit "three",
        .conclude (.error .unavailable), .markSent, .conclude (.ok ⟨some "2", none⟩)] ∧
      replies [.submit "one", .conclude (.ok ⟨some "1", some "Log in"⟩),
          .conclude (.ok ⟨some "2", none⟩)]
        = replies [.conclude (.ok ⟨some "1", some "Log in"⟩), .submit "three",
          .conclude (.error .unavailable), .markSent, .conclude (.ok ⟨some "2", none⟩)] ∧
      (after [.submit "one", .conclude (.ok ⟨some "1", some "Log in"⟩),
          .conclude (.ok ⟨some "2", none⟩)]).noticePhase
        = (after [.conclude (.ok ⟨some "1", some "Log in"⟩), .submit "three",
          .conclude (.error .unavailable), .markSent,
          .conclude (.ok ⟨some "2", none⟩)]).noticePhase ∧
      (after [.submit "one", .conclude (.ok ⟨some "1", some "Log in"⟩),
          .conclude (.ok ⟨some "2", none⟩)]).fromService
        = (after [.conclude (.ok ⟨some "1", some "Log in"⟩), .submit "three",
          .conclude (.error .unavailable), .markSent,
          .conclude (.ok ⟨some "2", none⟩)]).fromService := by
  have hsame : List.Forall₂ SameButReply
      [.submit "one", .submit "two", .conclude (.ok ⟨some "1", some "Log in"⟩),
        .conclude (.ok ⟨some "2", none⟩)]
      [.submit "one", .submit "two", .conclude (.error .unavailable),
        .conclude (.ok ⟨none, some ""⟩)] :=
    .cons (.submit _) (.cons (.submit _) (.cons (.conclude _ _) (.cons (.conclude _ _) .nil)))
  have hsending := (sendingSide_eq_and_fromService_eq _ _).1 hsame
  have hservice := (sendingSide_eq_and_fromService_eq
    [.submit "one", .conclude (.ok ⟨some "1", some "Log in"⟩), .conclude (.ok ⟨some "2", none⟩)]
    [.conclude (.ok ⟨some "1", some "Log in"⟩), .submit "three", .conclude (.error .unavailable),
      .markSent, .conclude (.ok ⟨some "2", none⟩)]).2 (by decide) (by decide) rfl
  exact ⟨⟨hsame, hsending⟩, by decide, by decide, rfl, hservice⟩

end ChatPanel.Conversation
