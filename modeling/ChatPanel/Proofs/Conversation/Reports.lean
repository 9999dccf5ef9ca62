import ChatPanel.Proofs.Conversation.Steps

/-!
# A report changes nothing but the phase

`markSent` reports that the message handed out last is on the wire.  The report may come late, come
again or never come.  Until the exchange is concluded, two conversations with and without it are in
different phases, and all that is submitted meanwhile finds them so.

* `forgetReport` — the conversation as it would be without the report.
* `forgetReport_markSent`, `forgetReport_perform` — a report is a step that cannot be seen, and every
  other operation returns the same and leaves the same if the report is forgotten before it.
* `after_withoutReports` — so a run without its reports goes through the same conversations, the
  reports forgotten.
* **`alike_of_withoutReports`** — two runs that differ in their reports alone return the same and
  leave the same at every point where as many other operations have been performed.
-/

namespace ChatPanel

/-! ## The outbox -/

namespace Outbox

/-- The outbox as it would be if the message on its way had not been reported as sent. -/
def forgetReport (outbox : Outbox) : Outbox :=
  { outbox with phase := if outbox.phase = .idle then .idle else .handedOut }

lemma forgetReport_markSent (outbox : Outbox) :
    outbox.markSent.forgetReport = outbox.forgetReport := by
  obtain ⟨phase, waiting⟩ := outbox
  cases phase <;> rfl

/-- The phase is asked only whether it is idle. -/
lemma forgetReport_perform (outbox : Outbox) {op : Op} (h : op ≠ .markSent) :
    outbox.forgetReport.perform op
      = ((outbox.perform op).1, (outbox.perform op).2.forgetReport) := by
  obtain ⟨phase, waiting⟩ := outbox
  cases op with
  | submit raw =>
      by_cases hblank : Text.trim raw = ""
      · simp [perform, submit, hblank]
      · cases phase <;> simp [perform, submit, hblank, forgetReport]
  | markSent => exact absurd rfl h
  | conclude => cases waiting <;> rfl

lemma forgetReport_eq_iff {first second : Outbox} :
    first.forgetReport = second.forgetReport
      ↔ first.waiting = second.waiting ∧ (first.phase = .idle ↔ second.phase = .idle) := by
  obtain ⟨phase, waiting⟩ := first
  obtain ⟨phase', waiting'⟩ := second
  cases phase <;> cases phase' <;> simp [forgetReport]

end Outbox

namespace Conversation

/-! ## One operation -/

/-- Does the operation report that a message was sent? -/
def Op.isReport : Op → Bool
  | .markSent => true
  | _ => false

/-- The conversation as it would be without the report. -/
def forgetReport (c : Conversation) : Conversation :=
  { c with outbox := c.outbox.forgetReport }

lemma forgetReport_markSent (c : Conversation) : c.markSent.forgetReport = c.forgetReport := by
  rw [forgetReport, forgetReport, markSent, Outbox.forgetReport_markSent]

/-- The entries that are added do not depend on the outbox. -/
lemma added_forgetReport (c : Conversation) (op : Op) : c.forgetReport.added op = c.added op := by
  cases op with
  | conclude result => cases result <;> rfl
  | _ => rfl

lemma forOutbox_ne_markSent {op : Op} (h : op.isReport = false) {o : Outbox.Op}
    (hop : op.forOutbox = some o) : o ≠ .markSent := by
  cases op with
  | submit raw => cases hop; simp
  | markSent => cases h
  | conclude result => cases hop; simp
  | _ => cases hop

/-- What another operation returns does not tell whether there was a report. -/
lemma fst_perform_forgetReport (c : Conversation) {op : Op} (h : op.isReport = false) :
    (c.forgetReport.perform op).1 = (c.perform op).1 := by
  cases hop : op.forOutbox with
  | some o =>
      have hne := forOutbox_ne_markSent h hop
      rw [fst_perform _ hop, fst_perform _ hop, forgetReport, Outbox.forgetReport_perform _ hne]
  | none =>
      cases op with
      | addMessage text sender => rfl
      | addNotice text => rfl
      | receive reply => rfl
      | _ => cases hop

/-- Nor does what it leaves. -/
lemma snd_perform_forgetReport (c : Conversation) {op : Op} (h : op.isReport = false) :
    (c.forgetReport.perform op).2 = (c.perform op).2.forgetReport := by
  rw [snd_perform, snd_perform, added_forgetReport, forgetReport, forgetReport]
  cases hop : op.forOutbox with
  | none => rfl
  | some o =>
      have hne := forOutbox_ne_markSent h hop
      simp only [Option.elim, Outbox.forgetReport_perform _ hne]
      rfl

/-! ## Runs -/

/-- The operations of a run but for the reports. -/
def withoutReports (ops : List Op) : List Op :=
  ops.filter fun op => !op.isReport

lemma withoutReports_append (xs ys : List Op) :
    withoutReports (xs ++ ys) = withoutReports xs ++ withoutReports ys := by
  simp only [withoutReports, List.filter_append]

/-- **A run without its reports** goes through the same conversations, the reports forgotten. -/
theorem after_withoutReports (ops : List Op) :
    after (withoutReports ops) = (after ops).forgetReport := by
  induction ops using List.reverseRecOn with
  | nil => rfl
  | append_singleton ops op ih =>
      rw [withoutReports_append, after_append]
      cases hreport : op.isReport with
      | true =>
          obtain rfl : op = .markSent := by
            cases op with
            | markSent => rfl
            | _ => cases hreport
          have hnone : withoutReports [Op.markSent] = [] := rfl
          rw [hnone, List.append_nil, ih, perform, forgetReport_markSent]
      | false =>
          have hkept : withoutReports [op] = [op] := by simp [withoutReports, hreport]
          rw [hkept, after_append, ih, snd_perform_forgetReport _ hreport]

/-- Two conversations that differ in no more than whether the message on its way was reported. -/
structure Alike (c d : Conversation) : Prop where
  entries : c.entries = d.entries
  freshId : c.freshId = d.freshId
  noticePhase : c.noticePhase = d.noticePhase
  waiting : c.outbox.waiting = d.outbox.waiting
  idle : c.outbox.phase = .idle ↔ d.outbox.phase = .idle

lemma alike_of_forgetReport {c d : Conversation} (h : c.forgetReport = d.forgetReport) :
    Alike c d := by
  obtain ⟨entries, freshId, noticePhase, outbox⟩ := c
  obtain ⟨entries', freshId', noticePhase', outbox'⟩ := d
  simp only [forgetReport, mk.injEq, Outbox.forgetReport_eq_iff] at h
  obtain ⟨hentries, hfresh, hnotice, hwaiting, hidle⟩ := h
  exact ⟨hentries, hfresh, hnotice, hwaiting, hidle⟩

/-- Where as many operations have been performed besides the reports, these were the same, and the
same are to come. -/
lemma withoutReports_take_and_drop {ops ops' : List Op}
    (h : withoutReports ops = withoutReports ops') {i j : ℕ}
    (hplace : (withoutReports (ops.take i)).length = (withoutReports (ops'.take j)).length) :
    withoutReports (ops.take i) = withoutReports (ops'.take j) ∧
      withoutReports (ops.drop i) = withoutReports (ops'.drop j) := by
  rw [← List.take_append_drop i ops, ← List.take_append_drop j ops', withoutReports_append,
    withoutReports_append] at h
  exact List.append_inj h hplace

lemma withoutReports_drop {ops : List Op} {i : ℕ} {op : Op} (hop : ops[i]? = some op)
    (hreport : op.isReport = false) :
    withoutReports (ops.drop i) = op :: withoutReports (ops.drop (i + 1)) := by
  obtain ⟨hi, rfl⟩ := List.getElem?_eq_some_iff.mp hop
  rw [List.drop_eq_getElem_cons hi, withoutReports, List.filter_cons_of_pos (by simp [hreport])]
  rfl

/-- **A report changes nothing but the phase.**  Take two runs that differ in their reports alone, and
a point of either one such that as many other operations have been performed.  The conversations are
alike there, and the next operation, if it is no report, is the same and returns the same. -/
theorem alike_of_withoutReports (ops ops' : List Op)
    (h : withoutReports ops = withoutReports ops') (i j : ℕ)
    (hplace : (withoutReports (ops.take i)).length = (withoutReports (ops'.take j)).length) :
    Alike (after (ops.take i)) (after (ops'.take j)) ∧
      ∀ op op', ops[i]? = some op → ops'[j]? = some op' →
        op.isReport = false → op'.isReport = false →
        op = op' ∧ (run ops)[i]?.map Prod.fst = (run ops')[j]?.map Prod.fst := by
  obtain ⟨hbefore, hnext⟩ := withoutReports_take_and_drop h hplace
  have hforget : (after (ops.take i)).forgetReport = (after (ops'.take j)).forgetReport := by
    rw [← after_withoutReports, ← after_withoutReports, hbefore]
  refine ⟨alike_of_forgetReport hforget, ?_⟩
  intro op op' hop hop' hreport hreport'
  rw [withoutReports_drop hop hreport, withoutReports_drop hop' hreport'] at hnext
  obtain rfl := (List.cons.inj hnext).1
  have hreturned : ((after (ops.take i)).perform op).1 = ((after (ops'.take j)).perform op).1 := by
    rw [← fst_perform_forgetReport _ hreport, hforget, fst_perform_forgetReport _ hreport]
  refine ⟨rfl, ?_⟩
  rw [run, run, getElem?_trace, getElem?_trace, hop, hop']
  exact congrArg some hreturned

/-- The first message is reported twice in one run and too early in the other. -/
theorem alike_reported_twice :
    withoutReports [.submit "one", .markSent, .submit "two", .markSent, .conclude (.error .unavailable)]
        = withoutReports [.markSent, .submit "one", .submit "two", .conclude (.error .unavailable)] ∧
      (withoutReports [.submit "one", .markSent, .submit "two", .markSent]).length
        = (withoutReports [.markSent, .submit "one", .submit "two"]).length ∧
      Alike (after [.submit "one", .markSent, .submit "two", .markSent])
        (after [.markSent, .submit "one", .submit "two"]) ∧
      (run [.submit "one", .markSent, .submit "two", .markSent,
          .conclude (.error .unavailable)])[4]?.map Prod.fst
        = (run [.markSent, .submit "one", .submit "two",
          .conclude (.error .unavailable)])[3]?.map Prod.fst := by
  obtain ⟨halike, hnext⟩ := alike_of_withoutReports
    [.submit "one", .markSent, .submit "two", .markSent, .conclude (.error .unavailable)]
    [.markSent, .submit "one", .submit "two", .conclude (.error .unavailable)] rfl 4 3 rfl
  exact ⟨rfl, rfl, halike, (hnext _ _ rfl rfl rfl rfl).2⟩

end Conversation

end ChatPanel
