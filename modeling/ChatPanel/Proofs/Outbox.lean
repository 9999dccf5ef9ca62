import ChatPanel.Outbox
import ChatPanel.Proofs.Trace
import Mathlib.Data.List.Basic

/-!
# One message at a time, first come first served

What an outbox has handed out, counted over a whole run.

**One step.**  `Step` lists everything that an operation can do to an outbox.  Every law below is
proved for the steps and carried over to runs by induction.

**Order.**  `acceptedTexts_eq` says that the accepted texts are the ones handed out so far followed
by the ones that wait, in the order in which they were submitted.  Nothing is lost, nothing is
handed out twice and nothing overtakes.  It rests on `KeepsNoneBack`: while nothing is on its way,
nothing waits.  Without it a text submitted to an idle outbox would overtake the waiting ones.

**Number.**  `length_handedOut` says that the messages handed out are as many as the exchanges that
were concluded, and one more exactly while the outbox is not idle.
-/

namespace ChatPanel

/-- The texts that an outbox accepts out of those submitted: trimmed, and only if something is
left. -/
def acceptedTexts (raws : List String) : List String :=
  (raws.map Text.trim).filter (· ≠ "")

lemma acceptedTexts_append (xs ys : List String) :
    acceptedTexts (xs ++ ys) = acceptedTexts xs ++ acceptedTexts ys := by
  simp only [acceptedTexts, List.map_append, List.filter_append]

lemma acceptedTexts_blank {raw : String} (h : Text.trim raw = "") : acceptedTexts [raw] = [] := by
  simp [acceptedTexts, h]

lemma acceptedTexts_text {raw : String} (h : Text.trim raw ≠ "") :
    acceptedTexts [raw] = [Text.trim raw] := by
  simp [acceptedTexts, h]

namespace Outbox

/-! ## What a run leaves behind -/

/-- The outbox at the end of a run. -/
def after (ops : List Op) : Outbox :=
  lastState perform empty ops

/-- The text that an operation submits. -/
def Op.raw : Op → Option String
  | .submit raw => some raw
  | _ => none

/-- The text that an operation hands out. -/
def Outcome.handedOut : Outcome → Option String
  | .verdict (.send text) => some text
  | .next text => text
  | _ => none

/-- The texts handed out in a run, in the order in which they were. -/
def handedOut (ops : List Op) : List String :=
  (outcomesOf perform empty ops).filterMap Outcome.handedOut

/-- How many exchanges were concluded in a run.  A conclusion while nothing is on its way ends no
exchange. -/
def exchanges (ops : List Op) : ℕ :=
  (List.range ops.length).countP fun i =>
    ops[i]? = some .conclude ∧ (after (ops.take i)).phase ≠ .idle

lemma after_append (ops : List Op) (op : Op) :
    after (ops ++ [op]) = ((after ops).perform op).2 := by
  simp only [after, lastState_append]
  rfl

lemma handedOut_append (ops : List Op) (op : Op) :
    handedOut (ops ++ [op]) = handedOut ops ++ ((after ops).perform op).1.handedOut.toList := by
  simp only [handedOut, outcomesOf_append, List.filterMap_append]
  rfl

lemma exchanges_append (ops : List Op) (op : Op) :
    exchanges (ops ++ [op])
      = exchanges ops + if op = .conclude ∧ (after ops).phase ≠ .idle then 1 else 0 := by
  simp only [exchanges, List.length_append, List.length_singleton, List.range_succ,
    List.countP_append, List.countP_singleton]
  congr 1
  · refine List.countP_congr fun i hi => ?_
    have hi : i < ops.length := List.mem_range.mp hi
    rw [List.getElem?_append_left hi, List.take_append_of_le_length (Nat.le_of_lt hi)]
  · simp

/-! ## One step -/

/-- Everything that one operation can do to an outbox: what it returns and what it leaves. -/
inductive Step : Outbox → Op → Outcome → Outbox → Prop where
  | refuse {outbox : Outbox} {raw : String} (blank : Text.trim raw = "") :
      Step outbox (.submit raw) (.verdict .refused) outbox
  | send {waiting : List String} {raw : String} (text : Text.trim raw ≠ "") :
      Step ⟨.idle, waiting⟩ (.submit raw) (.verdict (.send (Text.trim raw))) ⟨.handedOut, waiting⟩
  | wait {phase : Phase} {waiting : List String} {raw : String} (text : Text.trim raw ≠ "")
      (busy : phase ≠ .idle) :
      Step ⟨phase, waiting⟩ (.submit raw) (.verdict (.wait (Text.trim raw)))
        ⟨phase, waiting ++ [Text.trim raw]⟩
  | sent {waiting : List String} : Step ⟨.handedOut, waiting⟩ .markSent .done ⟨.sent, waiting⟩
  | ignore {outbox : Outbox} (none : outbox.phase ≠ .handedOut) : Step outbox .markSent .done outbox
  | next {phase : Phase} {text : String} {waiting : List String} :
      Step ⟨phase, text :: waiting⟩ .conclude (.next (some text)) ⟨.handedOut, waiting⟩
  | rest {phase : Phase} : Step ⟨phase, []⟩ .conclude (.next none) ⟨.idle, []⟩

lemma step_submit (outbox : Outbox) (raw : String) :
    Step outbox (.submit raw) (.verdict (outbox.submit raw).1) (outbox.submit raw).2 := by
  obtain ⟨phase, waiting⟩ := outbox
  unfold submit
  by_cases hblank : Text.trim raw = ""
  · simp only [hblank, if_true]
    exact .refuse hblank
  · by_cases hidle : phase = .idle
    · subst hidle
      simp only [hblank, if_false, if_true]
      exact .send hblank
    · simp only [hblank, hidle, if_false]
      exact .wait hblank hidle

lemma step_markSent (outbox : Outbox) : Step outbox .markSent .done outbox.markSent := by
  obtain ⟨phase, waiting⟩ := outbox
  cases phase with
  | idle => exact .ignore (by simp)
  | handedOut => exact .sent
  | sent => exact .ignore (by simp)

lemma step_conclude (outbox : Outbox) :
    Step outbox .conclude (.next outbox.conclude.1) outbox.conclude.2 := by
  obtain ⟨phase, waiting⟩ := outbox
  cases waiting with
  | nil => exact .rest
  | cons text waiting => exact .next

/-- **Every operation takes one of the steps.** -/
theorem step_perform (outbox : Outbox) (op : Op) :
    Step outbox op (outbox.perform op).1 (outbox.perform op).2 := by
  cases op with
  | submit raw =>
      simp only [perform]
      exact step_submit outbox raw
  | markSent => exact step_markSent outbox
  | conclude => exact step_conclude outbox

lemma accepted_eq_none_iff {verdict : Verdict} : verdict.accepted = none ↔ verdict = .refused := by
  cases verdict <;> simp [Verdict.accepted]

/-- What becomes of a text does not depend on the outbox, but for its turn. -/
lemma accepted_submit (outbox : Outbox) (raw : String) :
    (outbox.submit raw).1.accepted = (acceptedTexts [raw]).head? := by
  unfold submit
  by_cases hblank : Text.trim raw = ""
  · simp only [hblank, if_true, acceptedTexts_blank hblank]
    rfl
  · rw [acceptedTexts_text hblank]
    by_cases hidle : outbox.phase = .idle <;> simp only [hblank, hidle, if_true, if_false] <;> rfl

/-! ## While nothing is on its way, nothing waits -/

/-- An idle outbox keeps no message back. -/
def KeepsNoneBack (outbox : Outbox) : Prop :=
  outbox.phase = .idle → outbox.waiting = []

lemma Step.keepsNoneBack {outbox last : Outbox} {op : Op} {outcome : Outcome}
    (step : Step outbox op outcome last) (h : outbox.KeepsNoneBack) : last.KeepsNoneBack := by
  cases step with
  | refuse _ => exact h
  | send _ => intro hidle; cases hidle
  | wait _ busy => exact fun hidle => absurd hidle busy
  | sent => intro hidle; cases hidle
  | ignore _ => exact h
  | next => intro hidle; cases hidle
  | rest => exact fun _ => rfl

/-- No operation checks it, and yet every outbox that a run reaches has it. -/
theorem keepsNoneBack_after (ops : List Op) : (after ops).KeepsNoneBack := by
  induction ops using List.reverseRecOn with
  | nil => exact fun _ => rfl
  | append_singleton ops op ih =>
      rw [after_append]
      exact (step_perform (after ops) op).keepsNoneBack ih

/-! ## Order -/

/-- A step moves texts along: from the submission to the ones that wait, and from their front to
the one handed out. -/
lemma Step.handedOut_append_waiting {outbox last : Outbox} {op : Op} {outcome : Outcome}
    (step : Step outbox op outcome last) (h : outbox.KeepsNoneBack) :
    outcome.handedOut.toList ++ last.waiting = outbox.waiting ++ acceptedTexts op.raw.toList := by
  cases step with
  | refuse blank => simp [Outcome.handedOut, Op.raw, acceptedTexts_blank blank]
  | send text =>
      -- nothing waits here, or the text would overtake it
      have hnone := h rfl
      simp only at hnone
      simp [Outcome.handedOut, Op.raw, acceptedTexts_text text, hnone]
  | wait text _ => simp [Outcome.handedOut, Op.raw, acceptedTexts_text text]
  | sent => simp [Outcome.handedOut, Op.raw, acceptedTexts]
  | ignore _ => simp [Outcome.handedOut, Op.raw, acceptedTexts]
  | next => simp [Outcome.handedOut, Op.raw, acceptedTexts]
  | rest => simp [Outcome.handedOut, Op.raw, acceptedTexts]

/-- **First come, first served.**  What was accepted is what was handed out, and then what waits. -/
theorem acceptedTexts_eq (ops : List Op) :
    acceptedTexts (ops.filterMap Op.raw) = handedOut ops ++ (after ops).waiting := by
  induction ops using List.reverseRecOn with
  | nil => rfl
  | append_singleton ops op ih =>
      have hstep := (step_perform (after ops) op).handedOut_append_waiting (keepsNoneBack_after ops)
      have hraw : [op].filterMap Op.raw = op.raw.toList := by cases op <;> rfl
      rw [List.filterMap_append, acceptedTexts_append, hraw, ih, handedOut_append, after_append,
        List.append_assoc, List.append_assoc, hstep]

/-! ## Number -/

/-- The messages of an outbox that are on their way. -/
def onTheWay (outbox : Outbox) : ℕ :=
  if outbox.phase = .idle then 0 else 1

lemma Step.onTheWay {outbox last : Outbox} {op : Op} {outcome : Outcome}
    (step : Step outbox op outcome last) :
    outcome.handedOut.toList.length + outbox.onTheWay
      = (if op = .conclude ∧ outbox.phase ≠ .idle then 1 else 0) + last.onTheWay := by
  cases step with
  | refuse _ => simp [Outcome.handedOut]
  | send _ => simp [Outcome.handedOut, Outbox.onTheWay]
  | wait _ busy => simp [Outcome.handedOut, Outbox.onTheWay, busy]
  | sent => simp [Outcome.handedOut, Outbox.onTheWay]
  | ignore _ => simp [Outcome.handedOut]
  | @next phase text waiting => cases phase <;> simp [Outcome.handedOut, Outbox.onTheWay]
  | @rest phase => cases phase <;> simp [Outcome.handedOut, Outbox.onTheWay]

/-- **At most one message is on its way**: every message but that one has been concluded. -/
theorem length_handedOut (ops : List Op) :
    (handedOut ops).length = exchanges ops + (after ops).onTheWay := by
  induction ops using List.reverseRecOn with
  | nil => rfl
  | append_singleton ops op ih =>
      have hstep := (step_perform (after ops) op).onTheWay
      rw [handedOut_append, exchanges_append, after_append, List.length_append, ih]
      omega

end Outbox

end ChatPanel
