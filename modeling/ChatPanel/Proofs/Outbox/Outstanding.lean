import ChatPanel.Proofs.Outbox
import Mathlib.Data.Int.Notation

/-!
# At most one exchange is outstanding

No operation of an outbox checks that it is called in its turn.  A message may be reported as sent
twice or never, and an exchange may be concluded that was never begun.  The phase is right all the
same: read against the whole past of the run it says how many exchanges are outstanding, and whether
the last message was reported as sent.

* `outstanding` — messages handed out, less exchanges concluded while one was on its way.
* `sinceHandedOut` — what was done after the last message was handed out.
* **`accounted_of_step`** — after every step of every run the phase is idle exactly when nothing is
  outstanding and otherwise exactly one exchange is, and the phase tells whether the message has been
  reported as sent.

The number is `length_handedOut` read the other way round.  The report is an invariant of its own
(`phase_eq_sent_iff`), since a report counts only as long as its message is the last one.
-/

namespace ChatPanel.Outbox

/-! ## The past of a run -/

/-- The exchanges that have been begun and not been concluded. -/
def outstanding (ops : List Op) : ℤ :=
  (handedOut ops).length - exchanges ops

/-- The operations after the one that handed out the last message, the latest first; all of them
while no message has been handed out. -/
def sinceHandedOut (ops : List Op) : List Op :=
  ((ops.zip (outcomesOf perform empty ops)).reverse.takeWhile
    fun step => step.2.handedOut = none).map Prod.fst

lemma length_outcomesOf (ops : List Op) : (outcomesOf perform empty ops).length = ops.length := by
  induction ops using List.reverseRecOn with
  | nil => rfl
  | append_singleton ops op ih =>
      rw [outcomesOf_append, List.length_append, List.length_append, ih]
      rfl

lemma sinceHandedOut_append (ops : List Op) (op : Op) :
    sinceHandedOut (ops ++ [op])
      = if ((after ops).perform op).1.handedOut = none then op :: sinceHandedOut ops else [] := by
  have hlast : outcomesOf perform (lastState perform empty ops) [op]
      = [((after ops).perform op).1] := rfl
  rw [sinceHandedOut, outcomesOf_append, hlast, List.zip_append (length_outcomesOf ops).symm,
    List.reverse_append]
  by_cases hnone : ((after ops).perform op).1.handedOut = none
  · simp [hnone, sinceHandedOut]
  · simp [hnone]

/-! ## What the phase tells -/

/-- A step leaves a message that is reported as sent if it reports it, or if it was reported before
and the step hands out no other. -/
lemma Step.phase_eq_sent_iff {outbox last : Outbox} {op : Op} {outcome : Outcome}
    (step : Step outbox op outcome last) :
    last.phase = .sent
      ↔ last.phase ≠ .idle ∧ outcome.handedOut = none ∧ (op = .markSent ∨ outbox.phase = .sent) := by
  cases step with
  | @refuse outbox raw _ => cases h : outbox.phase <;> simp [Outcome.handedOut]
  | send _ => simp [Outcome.handedOut]
  | @wait phase waiting raw _ busy => cases phase <;> simp [Outcome.handedOut]
  | sent => simp [Outcome.handedOut]
  | ignore none =>
      -- the report comes too early or too late, and then the phase is left alone
      cases h : outbox.phase with
      | idle => simp
      | handedOut => exact absurd h none
      | sent => simp [Outcome.handedOut]
  | next => simp [Outcome.handedOut]
  | rest => simp [Outcome.handedOut]

/-- A step that hands out no message keeps an outbox idle, or makes it so. -/
lemma Step.phase_ne_idle {outbox last : Outbox} {op : Op} {outcome : Outcome}
    (step : Step outbox op outcome last) (hnone : outcome.handedOut = none)
    (hbusy : last.phase ≠ .idle) : outbox.phase ≠ .idle := by
  cases step with
  | refuse _ => exact hbusy
  | send _ => cases hnone
  | wait _ busy => exact busy
  | sent => simp
  | ignore _ => exact hbusy
  | next => cases hnone
  | rest => exact absurd rfl hbusy

/-- **The phase remembers the report**: the last message was reported as sent since it was handed
out. -/
lemma phase_eq_sent_iff (ops : List Op) :
    (after ops).phase = .sent ↔ (after ops).phase ≠ .idle ∧ .markSent ∈ sinceHandedOut ops := by
  induction ops using List.reverseRecOn with
  | nil => simp [after, lastState, empty]
  | append_singleton ops op ih =>
      have hstep := step_perform (after ops) op
      rw [after_append, sinceHandedOut_append, hstep.phase_eq_sent_iff]
      by_cases hnone : ((after ops).perform op).1.handedOut = none
      · rw [if_pos hnone, List.mem_cons, ih]
        have hbusy := hstep.phase_ne_idle hnone
        constructor
        · rintro ⟨hlast, -, rfl | ⟨-, hmem⟩⟩
          · exact ⟨hlast, .inl rfl⟩
          · exact ⟨hlast, .inr hmem⟩
        · rintro ⟨hlast, heq | hmem⟩
          · exact ⟨hlast, hnone, .inl heq.symm⟩
          · exact ⟨hlast, hnone, .inr ⟨hbusy hlast, hmem⟩⟩
      · simp [hnone]

lemma outstanding_eq (ops : List Op) : outstanding ops = (after ops).onTheWay := by
  rw [outstanding, length_handedOut]
  omega

lemma outstanding_eq_one_iff (ops : List Op) : outstanding ops = 1 ↔ (after ops).phase ≠ .idle := by
  rw [outstanding_eq, onTheWay]
  by_cases hidle : (after ops).phase = .idle <;> simp [hidle]

/-! ## Every step of every run -/

/-- The state of an outbox agrees with what was done to it. -/
structure Accounted (ops : List Op) (outbox : Outbox) : Prop where
  /-- At most one exchange is outstanding, and none exactly while the outbox is idle. -/
  outstanding : outstanding ops = if outbox.phase = .idle then 0 else 1
  /-- While none is, nothing waits. -/
  idle : outbox.phase = .idle → outbox.waiting = []
  /-- The message is about to be sent as long as no report has followed it. -/
  handedOut : outbox.phase = .handedOut
    ↔ Outbox.outstanding ops = 1 ∧ .markSent ∉ sinceHandedOut ops
  /-- The reply is awaited once a report has. -/
  sent : outbox.phase = .sent ↔ Outbox.outstanding ops = 1 ∧ .markSent ∈ sinceHandedOut ops

lemma accounted_after (ops : List Op) : Accounted ops (after ops) where
  outstanding := by
    rw [outstanding_eq, onTheWay]
    split <;> rfl
  idle := keepsNoneBack_after ops
  handedOut := by
    rw [outstanding_eq_one_iff]
    have hsent := phase_eq_sent_iff ops
    cases hphase : (after ops).phase <;> simp_all
  sent := by
    rw [outstanding_eq_one_iff]
    exact phase_eq_sent_iff ops

/-- An outbox that keeps none back has nothing to conclude while it is idle. -/
lemma conclude_of_idle {outbox : Outbox} (h : outbox.KeepsNoneBack) (hidle : outbox.phase = .idle) :
    outbox.conclude = (none, outbox) := by
  obtain ⟨phase, waiting⟩ := outbox
  obtain rfl : phase = .idle := hidle
  obtain rfl : waiting = [] := h rfl
  rfl

/-- **At most one exchange is outstanding**, after every step of every run, whatever is reported and
concluded out of turn; and to conclude an exchange while none is outstanding does nothing. -/
theorem accounted_of_step (ops : List Op) (i : ℕ) (outcome : Outcome) (outbox : Outbox)
    (hstep : (run ops)[i]? = some (outcome, outbox)) :
    Accounted (ops.take (i + 1)) outbox ∧
      (ops[i]? = some .conclude → (after (ops.take i)).phase = .idle →
        outcome = .next none ∧ outbox = after (ops.take i)) := by
  refine ⟨?_, fun hop hidle => ?_⟩
  · rw [eq_lastState_of_getElem?_trace perform hstep]
    exact accounted_after (ops.take (i + 1))
  · have hquiet := conclude_of_idle (keepsNoneBack_after (ops.take i)) hidle
    have hperform : (after (ops.take i)).perform .conclude = (outcome, outbox) := by
      rw [run, getElem?_trace, hop] at hstep
      exact Option.some.inj hstep
    rw [perform, hquiet] at hperform
    cases hperform
    exact ⟨rfl, rfl⟩

/-- The first message is reported twice, the second one, which waited, not at all, and its exchange
is concluded once too often.  One exchange is outstanding before the first report, and behind it. -/
theorem accounted_concluded_twice :
    (run [.markSent, .submit "one", .submit "two", .markSent, .markSent, .conclude, .conclude,
        .conclude])[7]? = some (.next none, empty) ∧
      Accounted [.markSent, .submit "one", .submit "two", .markSent, .markSent, .conclude,
        .conclude, .conclude] empty ∧
      (after [.markSent, .submit "one", .submit "two", .markSent, .markSent, .conclude,
        .conclude]).phase = .idle ∧
      empty = after [.markSent, .submit "one", .submit "two", .markSent, .markSent, .conclude,
        .conclude] ∧
      Accounted [.markSent, .submit "one", .submit "two"] ⟨.handedOut, ["two"]⟩ ∧
      outstanding [.markSent, .submit "one", .submit "two"] = 1 ∧
      Accounted [.markSent, .submit "one", .submit "two", .markSent] ⟨.sent, ["two"]⟩ ∧
      outstanding [.markSent, .submit "one", .submit "two", .markSent] = 1 := by
  have hwait : (run [.markSent, .submit "one", .submit "two", .markSent, .markSent, .conclude,
      .conclude, .conclude])[2]? = some (.verdict (.wait "two"), ⟨.handedOut, ["two"]⟩) := by decide
  have hsent : (run [.markSent, .submit "one", .submit "two", .markSent, .markSent, .conclude,
      .conclude, .conclude])[3]? = some (.done, ⟨.sent, ["two"]⟩) := by decide
  have hstep : (run [.markSent, .submit "one", .submit "two", .markSent, .markSent, .conclude,
      .conclude, .conclude])[7]? = some (.next none, empty) := by decide
  have hidle : (after [.markSent, .submit "one", .submit "two", .markSent, .markSent, .conclude,
      .conclude]).phase = .idle := by decide
  obtain ⟨haccounted, hquiet⟩ := accounted_of_step _ 7 _ _ hstep
  have hbefore := (accounted_of_step _ 2 _ _ hwait).1
  have hbehind := (accounted_of_step _ 3 _ _ hsent).1
  exact ⟨hstep, haccounted, hidle, (hquiet rfl hidle).2, hbefore, hbefore.outstanding, hbehind,
    hbehind.outstanding⟩

end ChatPanel.Outbox
