import ChatPanel.Proofs.Outbox
import ChatPanel.Proofs.Text.Blank

/-!
# Every text is trimmed once

An outbox trims a text when it is submitted, and never looks at it again: a text that waits is handed
out later as it is.  Once is enough.  What is accepted of a text is its core, whatever the outbox, so
that nothing but blank characters at the ends is lost and nothing is left to trim.

* `Trims` — what becomes of a raw text.
* `IsTrimmed` — a text that would be accepted as it is.
* `Step.sendsTrimmed` — a step returns such texts and keeps such texts, if no other texts wait.
* **`trims_and_sendsTrimmed_of_step`** — both, the second one for every step of every run.
-/

namespace ChatPanel.Outbox

/-! ## What is accepted -/

/-- What is accepted of a text does not depend on the outbox: it is the core, if there is one. -/
lemma accepted_eq_some_iff (outbox : Outbox) {raw text : String} :
    (outbox.submit raw).1.accepted = some text ↔ Text.IsCoreOf text raw := by
  rw [accepted_submit, Text.isCoreOf_iff]
  by_cases hblank : Text.trim raw = ""
  · rw [acceptedTexts_blank hblank, hblank]
    simp [eq_comm]
  · rw [acceptedTexts_text hblank, List.head?_cons, Option.some_inj]
    constructor
    · rintro rfl
      exact ⟨hblank, rfl⟩
    · rintro ⟨-, htext⟩
      exact htext

/-- A text is refused if it has no core. -/
lemma refused_iff_trim_eq_empty (outbox : Outbox) (raw : String) :
    (outbox.submit raw).1 = .refused ↔ Text.trim raw = "" := by
  rw [← accepted_eq_none_iff, accepted_submit]
  by_cases hblank : Text.trim raw = ""
  · simp [acceptedTexts_blank hblank, hblank]
  · simp [acceptedTexts_text hblank, hblank]

/-- What becomes of a raw text that is submitted to an outbox. -/
structure Trims (outbox : Outbox) (raw : String) : Prop where
  /-- It is refused exactly if all of it is blank. -/
  refused_iff : (outbox.submit raw).1 = .refused ↔ ∀ c ∈ raw.toList, Text.isBlank c = true
  /-- Then nothing changes. -/
  unchanged : (outbox.submit raw).1 = .refused → (outbox.submit raw).2 = outbox
  /-- Otherwise its core is accepted, the only one that it has, and the core would be accepted as it
  is by every outbox. -/
  core : (outbox.submit raw).1 ≠ .refused → ∃ text, (outbox.submit raw).1.accepted = some text ∧
    Text.IsCoreOf text raw ∧ (∀ other, Text.IsCoreOf other raw → other = text) ∧
    ∀ outbox' : Outbox, (outbox'.submit text).1.accepted = some text

lemma trims (outbox : Outbox) (raw : String) : Trims outbox raw where
  refused_iff := by rw [refused_iff_trim_eq_empty, Text.trim_eq_empty_iff]
  unchanged := by
    intro hrefused
    have hblank := (refused_iff_trim_eq_empty outbox raw).mp hrefused
    simp [submit, hblank]
  core := by
    intro hnot
    obtain ⟨text, htext⟩ := Option.ne_none_iff_exists'.mp (mt accepted_eq_none_iff.mp hnot)
    have hcore := (accepted_eq_some_iff outbox).mp htext
    refine ⟨text, htext, hcore, fun other hother => ?_, fun outbox' => ?_⟩
    · rw [← accepted_eq_some_iff outbox, htext] at hother
      exact (Option.some_inj.mp hother).symm
    · exact (accepted_eq_some_iff outbox').mpr hcore.self

/-! ## What is kept and returned -/

/-- There is something to read in the text, and nothing to trim. -/
def IsTrimmed (text : String) : Prop :=
  text ≠ "" ∧ Text.trim text = text

lemma isTrimmed_trim {raw : String} (h : Text.trim raw ≠ "") : IsTrimmed (Text.trim raw) := by
  have hcore : Text.IsCoreOf (Text.trim raw) raw := Text.isCoreOf_iff.mpr ⟨h, rfl⟩
  exact Text.isCoreOf_iff.mp hcore.self

/-- The text that an operation returns, whether it is to be sent or to wait. -/
def Outcome.text : Outcome → Option String
  | .verdict answer => answer.accepted
  | .done => none
  | .next text => text

/-- Only trimmed texts wait, and only a trimmed text was returned. -/
structure SendsTrimmed (outcome : Outcome) (outbox : Outbox) : Prop where
  waiting : ∀ text ∈ outbox.waiting, IsTrimmed text
  returned : ∀ text ∈ outcome.text, IsTrimmed text

/-- A submission returns what it trimmed, and a conclusion what waited in front. -/
lemma Step.sendsTrimmed {outbox last : Outbox} {op : Op} {outcome : Outcome}
    (step : Step outbox op outcome last) (h : ∀ text ∈ outbox.waiting, IsTrimmed text) :
    SendsTrimmed outcome last := by
  cases step with
  | refuse _ => exact ⟨h, by simp [Outcome.text, Verdict.accepted]⟩
  | send text =>
      refine ⟨h, ?_⟩
      rintro _ ⟨⟩
      exact isTrimmed_trim text
  | wait text _ =>
      constructor
      · intro waiting hwaiting
        rcases List.mem_append.mp hwaiting with hbefore | hlast
        · exact h waiting hbefore
        · rw [List.mem_singleton.mp hlast]
          exact isTrimmed_trim text
      · rintro _ ⟨⟩
        exact isTrimmed_trim text
  | sent => exact ⟨h, by simp [Outcome.text]⟩
  | ignore _ => exact ⟨h, by simp [Outcome.text]⟩
  | next =>
      obtain ⟨hfirst, hrest⟩ := List.forall_mem_cons.mp h
      refine ⟨hrest, ?_⟩
      rintro _ ⟨⟩
      exact hfirst
  | rest => exact ⟨h, by simp [Outcome.text]⟩

/-- Only trimmed texts wait at the end of a run. -/
lemma isTrimmed_of_mem_waiting (ops : List Op) : ∀ text ∈ (after ops).waiting, IsTrimmed text := by
  induction ops using List.reverseRecOn with
  | nil => simp [after, lastState, empty]
  | append_singleton ops op ih =>
      rw [after_append]
      exact ((step_perform (after ops) op).sendsTrimmed ih).waiting

/-- **Every text is trimmed once, and that is enough.**  What is accepted of a raw text is its core,
and after every step of every run only trimmed texts wait and only a trimmed text was returned. -/
theorem trims_and_sendsTrimmed_of_step :
    (∀ outbox raw, Trims outbox raw) ∧
    ∀ (ops : List Op) (i : ℕ) (outcome : Outcome) (outbox : Outbox),
      (run ops)[i]? = some (outcome, outbox) → SendsTrimmed outcome outbox := by
  refine ⟨trims, fun ops i outcome outbox hstep => ?_⟩
  rw [run, getElem?_trace] at hstep
  obtain ⟨op, -, hperform⟩ := Option.map_eq_some_iff.mp hstep
  have hsends := (step_perform (after (ops.take i)) op).sendsTrimmed
    (isTrimmed_of_mem_waiting (ops.take i))
  rwa [show (after (ops.take i)).perform op = (outcome, outbox) from hperform] at hsends

/-- The break inside a text is kept, and so are a zero-width space in front and a byte order mark
behind; the text that waited comes out trimmed. -/
theorem sendsTrimmed_line_break :
    (run [.submit "a", .submit "\u0085\u200bb\n c\ufeff\u3000", .conclude])[2]?
        = some (.next (some "\u200bb\n c\ufeff"), ⟨.handedOut, []⟩) ∧
      SendsTrimmed (.next (some "\u200bb\n c\ufeff")) ⟨.handedOut, []⟩ ∧
      (empty.submit "\u0085\u200bb\n c\ufeff\u3000").1 ≠ .refused ∧
      Text.IsCoreOf "\u200bb\n c\ufeff" "\u0085\u200bb\n c\ufeff\u3000" := by
  have hstep : (run [.submit "a", .submit "\u0085\u200bb\n c\ufeff\u3000", .conclude])[2]?
      = some (.next (some "\u200bb\n c\ufeff"), ⟨.handedOut, []⟩) := by decide
  have hsubmit : (empty.submit "\u0085\u200bb\n c\ufeff\u3000").1 = .send "\u200bb\n c\ufeff" := by
    decide
  have hnot : (empty.submit "\u0085\u200bb\n c\ufeff\u3000").1 ≠ .refused := by simp [hsubmit]
  obtain ⟨htrims, hsends⟩ := trims_and_sendsTrimmed_of_step
  obtain ⟨text, htext, hcore, -⟩ := (htrims empty _).core hnot
  rw [hsubmit] at htext
  cases htext
  exact ⟨hstep, hsends _ 2 _ _ hstep, hnot, hcore⟩

end ChatPanel.Outbox
