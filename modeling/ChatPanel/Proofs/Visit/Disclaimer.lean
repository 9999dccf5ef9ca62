import ChatPanel.Proofs.Visit.Preferences
import Mathlib.Data.List.DropRight

/-!
# A disclaimer that was put away

The page holds how far the disclaimer has gone, and the store holds whether it was acknowledged for
good.  The two meet at an acknowledgement, which may write, and at a reload, which reads; anyone else
may write to the store in between, and the fading may end late, twice or without having begun.

* `disclaimer_perform` — what one operation does to the disclaimer: a reload places it, an
  acknowledgement starts the fading, and the end of the fading hides it.
* `sinceReload` — the operations since the page was loaded.  **`acknowledged_of_fading`** — a
  disclaimer that fades was acknowledged among them.
* `Settled` — the acknowledgement is in the store and the disclaimer is not shown.
  **`settled_after`** — this holds from an acknowledgement for good on, until the entry is spoilt.
* **`putAway_of_run`** — what follows for every step of every run.
-/

namespace ChatPanel.Visit

open Storage

/-! ## One operation -/

/-- What an operation does to the disclaimer, if the store has this text under its key. -/
def Op.turns (acknowledged : Option String) (disclaimer : Disclaimer) : Op → Disclaimer
  | .reload => if acknowledged = some "true" then .hidden else .shown
  | .acknowledge _ => if disclaimer = .shown then .fading else disclaimer
  | .endFade => if disclaimer = .fading then .hidden else disclaimer
  | _ => disclaimer

lemma disclaimer_perform {Store : Type} [Storage Store] (visit : Visit Store) (op : Op) :
    (visit.perform op).2.appearance.disclaimer
      = op.turns (get visit.store "acknowledged") visit.appearance.disclaimer := by
  cases op with
  | reload => exact disclaimer_reload visit
  | acknowledge dontShowAgain => rfl
  | endFade => rfl
  | _ => rfl

/-- A disclaimer that is on its way out comes back only at a reload that finds no acknowledgement. -/
lemma reload_of_turns_shown {acknowledged : Option String} {disclaimer : Disclaimer} {op : Op}
    (hbefore : disclaimer ≠ .shown) (hafter : op.turns acknowledged disclaimer = .shown) :
    op = .reload ∧ acknowledged ≠ some "true" := by
  cases op <;> cases disclaimer <;> simp_all [Op.turns]

/-- Nor does one that is hidden take any place again otherwise. -/
lemma reload_of_turns_isVisible {acknowledged : Option String} {disclaimer : Disclaimer} {op : Op}
    (hbefore : disclaimer.isVisible = false)
    (hafter : (op.turns acknowledged disclaimer).isVisible = true) :
    op = .reload ∧ acknowledged ≠ some "true" := by
  obtain rfl : disclaimer = .hidden := by simpa [Disclaimer.isVisible] using hbefore
  cases op <;> simp_all [Op.turns, Disclaimer.isVisible]

/-- Without a reload only the end of the fading hides a disclaimer, and only one that fades. -/
lemma endFade_of_turns_hidden {acknowledged : Option String} {disclaimer : Disclaimer} {op : Op}
    (hop : op ≠ .reload) (hbefore : disclaimer ≠ .hidden)
    (hafter : op.turns acknowledged disclaimer = .hidden) : op = .endFade ∧ disclaimer = .fading := by
  cases op <;> cases disclaimer <;> simp_all [Op.turns]

/-- A disclaimer begins to fade when it is acknowledged. -/
lemma acknowledge_of_turns_fading {acknowledged : Option String} {disclaimer : Disclaimer} {op : Op}
    (hafter : op.turns acknowledged disclaimer = .fading) :
    (∃ dontShowAgain, op = .acknowledge dontShowAgain) ∨ op ≠ .reload ∧ disclaimer = .fading := by
  cases op with
  | acknowledge dontShowAgain => exact .inl ⟨dontShowAgain, rfl⟩
  | reload =>
      simp only [Op.turns] at hafter
      split at hafter <;> cases hafter
  | endFade =>
      simp only [Op.turns] at hafter
      split at hafter <;> simp_all
  | _ => exact .inr ⟨by simp, hafter⟩

/-! ## Since the page was loaded -/

/-- The operations behind the last reload, or all of them if there was none. -/
def sinceReload (ops : List Op) : List Op :=
  ops.rtakeWhile (· ≠ .reload)

lemma sinceReload_append (ops : List Op) {op : Op} (hop : op ≠ .reload) :
    sinceReload (ops ++ [op]) = sinceReload ops ++ [op] :=
  List.rtakeWhile_concat_pos _ _ op (decide_eq_true hop)

/-- **A disclaimer that fades was acknowledged since the page was loaded.** -/
theorem acknowledged_of_fading {ops : List Op}
    (h : (after Memory.empty ops).appearance.disclaimer = .fading) :
    ∃ dontShowAgain, .acknowledge dontShowAgain ∈ sinceReload ops := by
  induction ops using List.reverseRecOn with
  | nil => cases h
  | append_singleton ops op ih =>
      rw [after_append, disclaimer_perform] at h
      rcases acknowledge_of_turns_fading h with ⟨dontShowAgain, rfl⟩ | ⟨hop, hfading⟩
      · refine ⟨dontShowAgain, ?_⟩
        rw [sinceReload_append ops (by simp)]
        simp
      · obtain ⟨dontShowAgain, hmem⟩ := ih hfading
        refine ⟨dontShowAgain, ?_⟩
        rw [sinceReload_append ops hop]
        exact List.mem_append_left _ hmem

/-! ## Acknowledged for good -/

/-- The operation takes the acknowledgement from the store, or puts another text in its place. -/
def Op.Spoils : Op → Prop
  | .put key text => key = "acknowledged" ∧ text ≠ "true"
  | .erase key => key = "acknowledged"
  | _ => False

/-- Whatever else is written under the key is an acknowledgement again. -/
lemma eq_true_of_leaves {op : Op} (hop : ¬ op.Spoils) {left : Option String}
    (h : op.leaves "acknowledged" = some left) : left = some "true" := by
  cases op <;> simp_all [Op.leaves, Op.Spoils]

/-- The acknowledgement is in the store, and the disclaimer is not shown. -/
structure Settled (visit : Visit Memory) : Prop where
  stored : get visit.store "acknowledged" = some "true"
  put_away : visit.appearance.disclaimer ≠ .shown

lemma settled_acknowledge (visit : Visit Memory) : Settled (visit.perform (.acknowledge true)).2 where
  stored := by
    rw [get_perform]
    rfl
  put_away := by
    rw [disclaimer_perform]
    simp only [Op.turns]
    split
    · simp
    · assumption

lemma Settled.perform {visit : Visit Memory} (h : Settled visit) {op : Op} (hop : ¬ op.Spoils) :
    Settled (visit.perform op).2 where
  stored := by
    rw [get_perform, h.stored]
    cases hleft : op.leaves "acknowledged" with
    | none => rfl
    | some left => exact eq_true_of_leaves hop hleft
  put_away := by
    intro hshown
    rw [disclaimer_perform] at hshown
    exact (reload_of_turns_shown h.put_away hshown).2 h.stored

/-- **An acknowledgement for good lasts** until its entry is spoilt, whatever happens otherwise. -/
theorem settled_after (past : List Op) {later : List Op} (hlater : ∀ op ∈ later, ¬ op.Spoils) :
    Settled (after Memory.empty (past ++ .acknowledge true :: later)) := by
  induction later using List.reverseRecOn with
  | nil =>
      rw [after_append]
      exact settled_acknowledge _
  | append_singleton later op ih =>
      have hbefore := ih fun other hother => hlater other (List.mem_append_left _ hother)
      have hsplit : past ++ .acknowledge true :: (later ++ [op])
          = (past ++ .acknowledge true :: later) ++ [op] := by simp
      rw [hsplit, after_append]
      exact hbefore.perform (hlater op (by simp))

/-! ## Every step -/

/-- What one step may do to the disclaimer, behind the operations before it. -/
structure PutAway (past : List Op) (op : Op) (before after : Visit Memory) : Prop where
  /-- A disclaimer that takes no place takes some again only at a reload, and only if the store holds
  no acknowledgement. -/
  stays_hidden : before.appearance.disclaimer.isVisible = false →
    after.appearance.disclaimer.isVisible = true →
      op = .reload ∧ get before.store "acknowledged" ≠ some "true"
  /-- So it is with one that fades or is hidden, before it is shown as at first. -/
  stays_away : before.appearance.disclaimer ≠ .shown → after.appearance.disclaimer = .shown →
    op = .reload ∧ get before.store "acknowledged" ≠ some "true"
  /-- Without a reload a disclaimer is hidden when its fading ends, and then it was acknowledged since
  the page was loaded. -/
  hidden_by_fading : op ≠ .reload → before.appearance.disclaimer ≠ .hidden →
    after.appearance.disclaimer = .hidden →
      op = .endFade ∧ ∃ dontShowAgain, .acknowledge dontShowAgain ∈ sinceReload past
  /-- Acknowledged for good, it is not shown again, and hidden by every reload, as long as nothing
  spoils the acknowledgement. -/
  for_good : ∀ earlier later, past ++ [op] = earlier ++ .acknowledge true :: later →
    (∀ other ∈ later, ¬ other.Spoils) →
      after.appearance.disclaimer ≠ .shown ∧
        (op = .reload → after.appearance.disclaimer = .hidden)
  /-- Acknowledged for the visit alone, it is shown by every reload. -/
  for_now : (∀ other ∈ past, ∀ text, other.leaves "acknowledged" ≠ some (some text)) →
    op = .reload → after.appearance.disclaimer = .shown

lemma putAway_perform (past : List Op) (op : Op) :
    PutAway past op (after Memory.empty past) ((after Memory.empty past).perform op).2 where
  stays_hidden := by
    intro hbefore hafter
    rw [disclaimer_perform] at hafter
    exact reload_of_turns_isVisible hbefore hafter
  stays_away := by
    intro hbefore hafter
    rw [disclaimer_perform] at hafter
    exact reload_of_turns_shown hbefore hafter
  hidden_by_fading := by
    intro hop hbefore hafter
    rw [disclaimer_perform] at hafter
    obtain ⟨hend, hfading⟩ := endFade_of_turns_hidden hop hbefore hafter
    exact ⟨hend, acknowledged_of_fading hfading⟩
  for_good := by
    intro earlier later hsplit hlater
    have hsettled := settled_after earlier hlater
    rw [← hsplit, after_append] at hsettled
    refine ⟨hsettled.put_away, ?_⟩
    rintro rfl
    -- a reload hides the disclaimer or shows it, and it is not shown
    have hshown := hsettled.put_away
    rw [disclaimer_reload] at hshown ⊢
    split at hshown
    · next h => rw [if_pos h]
    · exact absurd rfl hshown
  for_now := by
    rintro hunwritten rfl
    rw [disclaimer_reload, get_after, lastLeft_eq_none hunwritten]
    rfl

/-- **A disclaimer that was put away stays away**, in every step of every run on a store in memory:
for the visit, and for all later ones if the visitor wished so and nobody spoils the entry. -/
theorem putAway_of_run (ops : List Op) (i : ℕ) (op : Op) (hop : ops[i]? = some op) :
    ∃ outcome visit, (run Memory.empty ops)[i]? = some (outcome, visit) ∧
      PutAway (ops.take i) op (after Memory.empty (ops.take i)) visit :=
  ⟨_, _, getElem?_run hop, putAway_perform (ops.take i) op⟩

/-- The fading ends before it begins and once more after the reload, and the theme is changed: the
reload hides the disclaimer all the same. -/
theorem putAway_late_fade :
    [.endFade, .acknowledge true, .setDarkTheme false, .put "acknowledged" "true", .reload,
        .endFade][4]? = some Op.reload ∧
      ∃ outcome visit, (run Memory.empty [.endFade, .acknowledge true, .setDarkTheme false,
          .put "acknowledged" "true", .reload, .endFade])[4]? = some (outcome, visit) ∧
        visit.appearance.disclaimer = .hidden := by
  refine ⟨rfl, ?_⟩
  obtain ⟨outcome, visit, hstep, hputAway⟩ := putAway_of_run [.endFade, .acknowledge true,
    .setDarkTheme false, .put "acknowledged" "true", .reload, .endFade] 4 .reload rfl
  have hgood := hputAway.for_good [.endFade] [.setDarkTheme false, .put "acknowledged" "true", .reload]
    rfl (by simp [Op.Spoils])
  exact ⟨outcome, visit, hstep, hgood.2 rfl⟩

end ChatPanel.Visit
