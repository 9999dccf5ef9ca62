import ChatPanel.Proofs.Conversation.Steps

/-!
# What is shown as said is what is sent

The visitor's entries, the messages handed out and the messages that wait are kept apart: the list
of entries is never read again, what is handed out is gone from the conversation, and the outbox
knows no entries.  They agree all the same, after every step of every run:

* **`userTexts_eq_handedOut_append_waiting`** — the visitor's entries show the accepted texts in the
  order of their submission, and the messages handed out followed by the ones that wait are the same
  texts in the same order.

Entries put in the visitor's name without a submission are left out, since nothing is sent for them.
The first half (`userTexts_after`) follows from what each operation adds to the entries, and the
second (`Outbox.acceptedTexts_eq`) is a law of outboxes.
-/

namespace ChatPanel

/-- Is the entry the visitor's? -/
def Entry.isQuestion (entry : Entry) : Bool :=
  entry.sender = .user

namespace Conversation

/-- The texts of the visitor's entries. -/
def userTexts (c : Conversation) : List String :=
  (c.entries.filter Entry.isQuestion).map Entry.text

/-- An operation shows as the visitor's what it submits, if that is accepted. -/
lemma userTexts_perform (c : Conversation) {op : Op} (h : ∀ text, op ≠ .addMessage text .user) :
    (c.perform op).2.userTexts = c.userTexts ++ acceptedTexts op.raw.toList := by
  have hadded :
      ((c.added op).filter Entry.isQuestion).map Entry.text = acceptedTexts op.raw.toList := by
    have hshown (reply : Reply) : (c.shown reply).filter Entry.isQuestion = [] := by
      simp only [shown]
      split <;> rfl
    cases op with
    | addMessage text sender =>
        cases sender with
        | user => exact absurd rfl (h text)
        | bot => rfl
    | addNotice text => rfl
    | submit raw => simp [added, Op.raw, List.filter_map, Function.comp_def, Entry.isQuestion]
    | markSent => rfl
    | receive reply => simp only [added, hshown]; rfl
    | conclude result =>
        cases result with
        | ok reply => simp only [added, hshown]; rfl
        | error failure => rfl
  rw [userTexts, entries_perform, List.filter_append, List.map_append, hadded]
  rfl

/-- The visitor's entries show the accepted texts, in the order of their submission. -/
lemma userTexts_after {ops : List Op} (h : ∀ text, Op.addMessage text .user ∉ ops) :
    (after ops).userTexts = acceptedTexts (ops.filterMap Op.raw) := by
  induction ops using List.reverseRecOn with
  | nil => rfl
  | append_singleton ops op ih =>
      have hop (text : String) : op ≠ .addMessage text .user := by
        rintro rfl
        exact h text (List.mem_append_right ops (List.mem_singleton.mpr rfl))
      have hraw : [op].filterMap Op.raw = op.raw.toList := by cases op <;> rfl
      rw [after_append, userTexts_perform _ hop, List.filterMap_append, acceptedTexts_append, hraw,
        ih fun text hmem => h text (List.mem_append_left [op] hmem)]

/-- The accepted texts are the ones handed out and then the ones that wait. -/
lemma acceptedTexts_after (ops : List Op) :
    acceptedTexts (ops.filterMap Op.raw)
      = handedOut (run ops) ++ (after ops).outbox.waiting := by
  rw [filterMap_raw, Outbox.acceptedTexts_eq, handedOut_eq, outbox_after]

/-- **What is shown as said is what is sent, each text once and in order.**  After every step the
visitor's entries, the accepted texts, and the texts handed out followed by the ones that wait are
the same three times over. -/
theorem userTexts_eq_handedOut_append_waiting (ops : List Op)
    (h : ∀ text, Op.addMessage text .user ∉ ops) (i : ℕ) (outcome : Outcome) (c : Conversation)
    (hstep : (run ops)[i]? = some (outcome, c)) :
    c.userTexts = acceptedTexts ((ops.take (i + 1)).filterMap Op.raw) ∧
      c.userTexts = handedOut ((run ops).take (i + 1)) ++ c.outbox.waiting := by
  have hpast (text : String) : Op.addMessage text .user ∉ ops.take (i + 1) :=
    fun hmem => h text (List.mem_of_mem_take hmem)
  rw [eq_after_of_getElem?_run hstep, take_run, userTexts_after hpast]
  exact ⟨rfl, acceptedTexts_after (ops.take (i + 1))⟩

/-- The visitor writes again while the first message is on its way. -/
theorem userTexts_eq_second_waiting :
    (∀ text, Op.addMessage text .user ∉ [.submit " one ", .submit "two"]) ∧
      (run [.submit " one ", .submit "two"])[1]? = some (.verdict (.wait "two"),
        ⟨[⟨0, "one", .user, .message⟩, ⟨1, "two", .user, .message⟩], 2, .pending,
          ⟨.handedOut, ["two"]⟩⟩) ∧
      userTexts ⟨[⟨0, "one", .user, .message⟩, ⟨1, "two", .user, .message⟩], 2, .pending,
          ⟨.handedOut, ["two"]⟩⟩
        = acceptedTexts (([.submit " one ", .submit "two"].take 2).filterMap Op.raw) ∧
      userTexts ⟨[⟨0, "one", .user, .message⟩, ⟨1, "two", .user, .message⟩], 2, .pending,
          ⟨.handedOut, ["two"]⟩⟩
        = handedOut ((run [.submit " one ", .submit "two"]).take 2) ++ ["two"] := by
  have hnone (text : String) : Op.addMessage text .user ∉ [.submit " one ", .submit "two"] := by
    simp
  have hstep : (run [.submit " one ", .submit "two"])[1]? = some (.verdict (.wait "two"),
      ⟨[⟨0, "one", .user, .message⟩, ⟨1, "two", .user, .message⟩], 2, .pending,
        ⟨.handedOut, ["two"]⟩⟩) := by decide
  exact ⟨hnone, hstep, userTexts_eq_handedOut_append_waiting _ hnone 1 _ _ hstep⟩

end Conversation

end ChatPanel
