import ChatPanel.Proofs.Conversation.Delivery
import ChatPanel.Proofs.Conversation.Entries
import ChatPanel.Proofs.Conversation.Replies

/-!
# Every answer stands below its question

The service does not say which message it answers.  That an answer is shown below the message it
belongs to rests on counting alone: exchanges are concluded one after the other, each one after its
message was handed out and before the next one is.

* `Orderly` — the runs in which nobody speaks out of turn: every entry comes from a submission or
  from an exchange, and an exchange is concluded only while a message is on its way.
* `RepliesInTurn` — what the counting gives: the `j`-th conclusion lies between the `j`-th message
  handed out and the next one, and the answer it brings stands below the `j`-th question.
* **`repliesInTurn_of_orderly`** — every orderly run is like that, whatever was submitted meanwhile
  and however many exchanges failed.

The invariant is `length_handedOut`: as many messages were handed out as exchanges were concluded,
and one more while the outbox is busy.
-/

namespace ChatPanel

/-! ## Counting in a list -/

section Nth

variable {α : Type} (p : α → Bool)

/-- The element at `i` is the `j`-th one for which `p` holds, counted from zero. -/
def IsNth (list : List α) (j i : ℕ) : Prop :=
  (∃ a, list[i]? = some a ∧ p a = true) ∧ (list.take i).countP p = j

lemma countP_take_succ (list : List α) (i : ℕ) :
    (list.take (i + 1)).countP p = (list.take i).countP p + list[i]?.toList.countP p := by
  rw [List.take_add_one, List.countP_append]

/-- An element comes before `i` exactly when the ones before `i` are more than those before it. -/
lemma exists_isNth_iff {list : List α} {i j : ℕ} :
    (∃ k < i, IsNth p list j k) ↔ j < (list.take i).countP p := by
  induction i with
  | zero => simp
  | succ i ih =>
      rw [countP_take_succ]
      constructor
      · rintro ⟨k, hk, hnth⟩
        rcases Nat.lt_succ_iff_lt_or_eq.mp hk with hlt | rfl
        · exact Nat.lt_add_right _ (ih.mp ⟨k, hlt, hnth⟩)
        · obtain ⟨⟨a, ha, hp⟩, hcount⟩ := hnth
          simp [ha, hp, hcount]
      · intro hj
        by_cases hlt : j < (list.take i).countP p
        · obtain ⟨k, hk, hnth⟩ := ih.mpr hlt
          exact ⟨k, Nat.lt_succ_of_lt hk, hnth⟩
        · cases hget : list[i]? with
          | none => simp [hget] at hj; omega
          | some a =>
              by_cases hp : p a = true
              · simp [hget, hp] at hj
                exact ⟨i, Nat.lt_succ_self i, ⟨a, hget, hp⟩, by omega⟩
              · simp [hget, hp] at hj; omega

end Nth

namespace Conversation

/-! ## Orderly runs -/

/-- Is this operation in its place?  An exchange may be concluded only while a message is on its
way, and entries come from submissions and exchanges alone. -/
def InPlace (c : Conversation) : Op → Prop
  | .submit _ => True
  | .markSent => True
  | .conclude _ => c.outbox.phase ≠ .idle
  | _ => False

instance (c : Conversation) : ∀ op, Decidable (c.InPlace op)
  | .submit _ => isTrue trivial
  | .markSent => isTrue trivial
  | .conclude _ => inferInstanceAs (Decidable (_ ≠ _))
  | .addMessage _ _ => isFalse id
  | .addNotice _ => isFalse id
  | .receive _ => isFalse id

/-- Every operation of the run is in its place. -/
def Orderly (ops : List Op) : Prop :=
  ∀ i, ∀ h : i < ops.length, (after (ops.take i)).InPlace ops[i]

instance (ops : List Op) : Decidable (Orderly ops) :=
  inferInstanceAs (Decidable (∀ i, ∀ h : i < ops.length, (after (ops.take i)).InPlace ops[i]))

lemma Orderly.inPlace {ops : List Op} (h : Orderly ops) {i : ℕ} {op : Op}
    (hget : ops[i]? = some op) : (after (ops.take i)).InPlace op := by
  obtain ⟨hi, rfl⟩ := List.getElem?_eq_some_iff.mp hget
  exact h i hi

lemma Orderly.take {ops : List Op} (h : Orderly ops) (n : ℕ) : Orderly (ops.take n) := by
  intro i hi
  have hlen : i < n ∧ i < ops.length := by simpa only [List.length_take, Nat.lt_min] using hi
  rw [List.getElem_take, List.take_take, Nat.min_eq_left (Nat.le_of_lt hlen.1)]
  exact h i hlen.2

lemma orderly_append {ops : List Op} {op : Op} (h : Orderly (ops ++ [op])) :
    Orderly ops ∧ (after ops).InPlace op := by
  constructor
  · have htake := h.take ops.length
    rwa [List.take_left] at htake
  · have hlast := h ops.length (by simp)
    rwa [List.take_left, List.getElem_concat_length rfl] at hlast

lemma Orderly.unscripted {ops : List Op} (h : Orderly ops) : Unscripted ops := by
  intro op hmem
  obtain ⟨i, hget⟩ := List.mem_iff_getElem?.mp hmem
  have hplace := h.inPlace hget
  cases op with
  | addMessage text sender => exact absurd hplace id
  | addNotice text => exact absurd hplace id
  | _ => rfl

lemma Orderly.forged_notMem {ops : List Op} (h : Orderly ops) (text : String) :
    Op.addMessage text .user ∉ ops := by
  intro hmem
  cases h.unscripted _ hmem

/-! ## The statement -/

/-- Does the operation conclude an exchange? -/
def Op.isConclude : Op → Bool
  | .conclude _ => true
  | _ => false

/-- Was a message handed out at this step? -/
def handsOut (step : Outcome × Conversation) : Bool :=
  step.1.handedOut.isSome

/-- What an orderly run shows.  All counts are from zero. -/
structure RepliesInTurn (ops : List Op) : Prop where
  /-- An exchange is concluded after its message was handed out. -/
  concluded_after : ∀ j i, IsNth Op.isConclude ops j i → ∃ k < i, IsNth handsOut (run ops) j k
  /-- The next message is handed out by the conclusion itself or later. -/
  concluded_before : ∀ j i k,
    IsNth Op.isConclude ops j i → IsNth handsOut (run ops) (j + 1) k → i ≤ k
  /-- The messages are handed out in the order of the questions. -/
  question : ∀ (j : ℕ) (text : String),
    (handedOut (run ops))[j]? = some text → (after ops).userTexts[j]? = some text
  /-- The answer of the `j`-th conclusion is added by that conclusion, below the `j`-th question,
  and the answers above it are those of the earlier conclusions. -/
  answer : ∀ j i reply, IsNth Op.isConclude ops j i → ops[i]? = some (.conclude (.ok reply)) →
    ∃ place id,
      (after (ops.take i)).entries.length ≤ place ∧
      place < (after (ops.take (i + 1))).entries.length ∧
      (after ops).entries[place]? = some ⟨id, reply.body, .bot, .message⟩ ∧
      j < ((after ops).entries.take place).countP Entry.isQuestion ∧
      ((after ops).entries.take place).countP Entry.isAnswer = (replies (ops.take i)).length
  /-- The answers are those of the replies, in their order. -/
  answers : ((after ops).entries.filter Entry.isAnswer).map Entry.text
    = (replies ops).map Reply.body
  /-- Nowhere are there more answers than questions above. -/
  balance : ∀ n, ((after ops).entries.take n).countP Entry.isAnswer
    ≤ ((after ops).entries.take n).countP Entry.isQuestion

/-! ## Counting messages and conclusions -/

lemma exchanges_eq {ops : List Op} (h : Orderly ops) :
    Outbox.exchanges (ops.filterMap Op.forOutbox) = ops.countP Op.isConclude := by
  induction ops using List.reverseRecOn with
  | nil => rfl
  | append_singleton ops op ih =>
      obtain ⟨hops, hop⟩ := orderly_append h
      rw [List.filterMap_append, List.countP_append, ← ih hops]
      cases op with
      | conclude result =>
          have hbusy : (after ops).outbox.phase ≠ .idle := hop
          rw [outbox_after] at hbusy
          simp [Op.forOutbox, Outbox.exchanges_append, hbusy, Op.isConclude]
      | submit raw => simp [Op.forOutbox, Outbox.exchanges_append, Op.isConclude]
      | markSent => simp [Op.forOutbox, Outbox.exchanges_append, Op.isConclude]
      | _ => exact absurd hop id

/-- The invariant of orderly runs: every message was handed out for an exchange, and only the last
one may not be concluded yet. -/
lemma length_handedOut {ops : List Op} (h : Orderly ops) :
    (handedOut (run ops)).length = ops.countP Op.isConclude + (after ops).outbox.onTheWay := by
  rw [handedOut_eq, Outbox.length_handedOut, exchanges_eq h, outbox_after]

lemma countP_handsOut (ops : List Op) (i : ℕ) :
    ((run ops).take i).countP handsOut = (handedOut (run (ops.take i))).length := by
  rw [take_run, handedOut, List.length_filterMap_eq_countP, List.countP_map]
  rfl

/-- When the `j`-th exchange is concluded, exactly `j + 1` messages have been handed out. -/
lemma length_handedOut_of_isNth {ops : List Op} (h : Orderly ops) {i j : ℕ}
    (hnth : IsNth Op.isConclude ops j i) : (handedOut (run (ops.take i))).length = j + 1 := by
  obtain ⟨⟨op, hget, hop⟩, hcount⟩ := hnth
  have hplace := h.inPlace hget
  cases op with
  | conclude result =>
      have hbusy : (after (ops.take i)).outbox.phase ≠ .idle := hplace
      rw [length_handedOut (h.take i), hcount, Outbox.onTheWay, if_neg hbusy]
  | _ => cases hop

/-! ## Counting questions and answers -/

lemma userTexts_orderly {ops : List Op} (h : Orderly ops) :
    (after ops).userTexts = handedOut (run ops) ++ (after ops).outbox.waiting := by
  rw [userTexts_after h.forged_notMem, acceptedTexts_after]

lemma length_handedOut_le {ops : List Op} (h : Orderly ops) :
    (handedOut (run ops)).length ≤ (after ops).entries.countP Entry.isQuestion := by
  have hlen := congrArg List.length (userTexts_orderly h)
  rw [userTexts, List.length_map, ← List.countP_eq_length_filter, List.length_append] at hlen
  omega

/-- A reply adds its answer last, and neither a question nor another answer before it. -/
lemma shown_eq (c : Conversation) (reply : Reply) :
    ∃ above id, c.shown reply = above ++ [⟨id, reply.body, .bot, .message⟩] ∧
      above.countP Entry.isQuestion = 0 ∧ above.countP Entry.isAnswer = 0 := by
  cases h : c.dueNotice reply with
  | none => exact ⟨[], c.freshId, by simp only [shown, h]; rfl, rfl, rfl⟩
  | some notice =>
      exact ⟨[⟨c.freshId, notice, .bot, .notice⟩], c.freshId + 1, by simp only [shown, h]; rfl,
        rfl, rfl⟩

/-- Only the conclusion of an exchange brings a reply in an orderly run. -/
lemma length_replies_le {ops : List Op} (h : Orderly ops) :
    (replies ops).length ≤ ops.countP Op.isConclude := by
  rw [replies, List.length_filterMap_eq_countP]
  refine List.countP_mono_left fun op hmem hreply => ?_
  obtain ⟨i, hget⟩ := List.mem_iff_getElem?.mp hmem
  have hplace := h.inPlace hget
  cases op with
  | conclude result => rfl
  | receive reply => exact absurd hplace id
  | _ => cases hreply

/-- The answer of a conclusion finds its question above it: the message it answers was handed out,
and every message that was handed out is shown. -/
lemma length_replies_lt {ops : List Op} (h : Orderly ops)
    (hbusy : (after ops).outbox.phase ≠ .idle) :
    (replies ops).length < (after ops).entries.countP Entry.isQuestion := by
  have hreplies := length_replies_le h
  have hcount := length_handedOut h
  have hshown := length_handedOut_le h
  rw [Outbox.onTheWay, if_neg hbusy] at hcount
  omega

/-- Nowhere in the entries of an orderly run are there more answers than questions above. -/
lemma answers_le_questions {ops : List Op} (h : Orderly ops) (n : ℕ) :
    ((after ops).entries.take n).countP Entry.isAnswer
      ≤ ((after ops).entries.take n).countP Entry.isQuestion := by
  induction ops using List.reverseRecOn with
  | nil => simp [after, lastState, empty]
  | append_singleton ops op ih =>
      obtain ⟨hops, hop⟩ := orderly_append h
      rw [after_append, entries_perform, List.take_append, List.countP_append, List.countP_append]
      set m := n - (after ops).entries.length
      have hold := ih hops
      by_cases hfull : (after ops).entries.length ≤ n
      · cases op with
        | submit raw =>
            have hnone : (((after ops).added (.submit raw)).take m).countP Entry.isAnswer = 0 := by
              refine List.countP_eq_zero.mpr fun entry hmem => ?_
              have hmem := List.mem_of_mem_take hmem
              simp only [added, List.mem_map] at hmem
              obtain ⟨text, _, rfl⟩ := hmem
              simp [Entry.isAnswer]
            omega
        | markSent => simpa [added] using hold
        | conclude result =>
            cases result with
            | ok reply =>
                -- at most one answer is new, and a question was left without one
                obtain ⟨above, id, hshown, _, hanswers⟩ := shown_eq (after ops) reply
                have hnew : (((after ops).shown reply).take m).countP Entry.isAnswer ≤ 1 :=
                  calc (((after ops).shown reply).take m).countP Entry.isAnswer
                      ≤ ((after ops).shown reply).countP Entry.isAnswer :=
                        (List.take_sublist m _).countP_le
                    _ = 1 := by rw [hshown, List.countP_append, hanswers]; rfl
                have hlt := length_replies_lt hops hop
                rw [← countP_isAnswer hops.unscripted] at hlt
                rw [List.take_of_length_le hfull]
                simp only [added]
                omega
            | error failure => simpa [added] using hold
        | _ => exact absurd hop id
      · have hm : m = 0 := by omega
        simpa [hm] using hold

/-! ## The place of an answer -/

/-- The entries above an answer are those before its conclusion, and perhaps a notice. -/
lemma exists_place {ops : List Op} {i : ℕ} {reply : Reply}
    (hget : ops[i]? = some (.conclude (.ok reply))) :
    ∃ above below id, above.countP Entry.isQuestion = 0 ∧ above.countP Entry.isAnswer = 0 ∧
      (after (ops.take (i + 1))).entries
        = (after (ops.take i)).entries ++ above ++ [⟨id, reply.body, .bot, .message⟩] ∧
      (after ops).entries = (after (ops.take (i + 1))).entries ++ below := by
  obtain ⟨above, id, hshown, hquestions, hanswers⟩ := shown_eq (after (ops.take i)) reply
  obtain ⟨below, hbelow⟩ := entries_take_isPrefix ops (i + 1)
  refine ⟨above, below, id, hquestions, hanswers, ?_, hbelow.symm⟩
  rw [after_take_succ hget, entries_perform, added, hshown, List.append_assoc]

/-- **Every answer stands below its question**, in every orderly run. -/
theorem repliesInTurn_of_orderly (ops : List Op) (h : Orderly ops) : RepliesInTurn ops where
  concluded_after j i hnth := by
    rw [exists_isNth_iff, countP_handsOut, length_handedOut_of_isNth h hnth]
    exact Nat.lt_succ_self j
  concluded_before j i k hnth hnext := by
    -- were it handed out earlier, the conclusion would find one message too many
    by_contra hlt
    have hcount := (exists_isNth_iff handsOut).mp ⟨k, Nat.lt_of_not_le hlt, hnext⟩
    rw [countP_handsOut, length_handedOut_of_isNth h hnth] at hcount
    exact Nat.lt_irrefl _ hcount
  question j text hget := by
    rw [userTexts_orderly h]
    obtain ⟨hj, _⟩ := List.getElem?_eq_some_iff.mp hget
    rw [List.getElem?_append_left hj, hget]
  answer j i reply hnth hget := by
    obtain ⟨above, below, id, hquestions, hanswers, hnext, hlast⟩ := exists_place hget
    set before := (after (ops.take i)).entries with hbefore
    have hentries : (after ops).entries
        = (before ++ above) ++ (⟨id, reply.body, .bot, .message⟩ :: below) := by
      rw [hlast, hnext, List.append_assoc, List.singleton_append]
    have htake : (after ops).entries.take (before ++ above).length = before ++ above := by
      rw [hentries, List.take_left]
    refine ⟨(before ++ above).length, id, ?_, ?_, ?_, ?_, ?_⟩
    · rw [List.length_append]
      exact Nat.le_add_right _ _
    · simp only [hnext, List.length_append, List.length_singleton]
      omega
    · rw [hentries, List.getElem?_append_right (Nat.le_refl _), Nat.sub_self]
      rfl
    · have hshown := length_handedOut_le (h.take i)
      rw [length_handedOut_of_isNth h hnth] at hshown
      rw [htake, List.countP_append, hquestions]
      exact hshown
    · rw [htake, List.countP_append, hanswers, hbefore, countP_isAnswer (h.take i).unscripted]
      rfl
  answers := answers_after h.unscripted
  balance n := answers_le_questions h n

/-- The first exchange fails while two messages wait, and the other two are answered. -/
theorem repliesInTurn_first_failed :
    Orderly [.submit "one", .submit "two", .markSent, .submit "three",
        .conclude (.error .unavailable), .conclude (.ok ⟨some "2", none⟩), .markSent,
        .conclude (.ok ⟨some "3", none⟩)] ∧
      RepliesInTurn [.submit "one", .submit "two", .markSent, .submit "three",
        .conclude (.error .unavailable), .conclude (.ok ⟨some "2", none⟩), .markSent,
        .conclude (.ok ⟨some "3", none⟩)] :=
  ⟨by decide, repliesInTurn_of_orderly _ (by decide)⟩

end Conversation

end ChatPanel
