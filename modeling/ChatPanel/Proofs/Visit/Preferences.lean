import ChatPanel.Proofs.Trace
import ChatPanel.Visit
import Std.Data.HashMap.Lemmas

/-!
# What is kept across visits

Operations from four places write to one store, under keys that are the caller's choice.  Under each
key stands what the last operation to touch it has left, and from that, at every reload, the page
takes its theme and whether to show the disclaimer.

* `get_put`, `get_erase` — the two laws of a store in memory.
* `Op.leaves` — what an operation leaves under a key, if it touches the key, and `lastLeft`, what a
  history of operations has left there.
* **`get_after`** — the store keeps what the history has left.
* **`kept_of_run`** — so much for every step of every run, with what a reload makes of it, and what
  the same run comes to where there is no store.
-/

namespace ChatPanel

/-! ## Stores -/

namespace Storage

variable {Store : Type} [Storage Store]

lemma get_empty (key : String) : get Memory.empty key = none :=
  Std.HashMap.getElem?_empty

lemma get_put (store : Memory) (key text other : String) :
    get (put store key text) other = if key = other then some text else get store other := by
  show (store.texts.insert key text)[other]? = _
  simp only [Std.HashMap.getElem?_insert, beq_iff_eq]
  rfl

lemma get_erase (store : Memory) (key other : String) :
    get (erase store key) other = if key = other then none else get store other := by
  show (store.texts.erase key)[other]? = _
  simp only [Std.HashMap.getElem?_erase, beq_iff_eq]
  rfl

lemma isOn_eq (store : Store) (key : String) : isOn store key = decide (get store key = some "true") :=
  rfl

end Storage

namespace Visit

open Storage

/-! ## What an operation leaves under a key -/

/-- What an operation leaves under a key, if it touches the key: a text, or none. -/
def Op.leaves (key : String) : Op → Option (Option String)
  | .put written text => if written = key then some (some text) else none
  | .erase erased => if erased = key then some none else none
  | .turnOn written => if written = key then some (some "true") else none
  | .setDarkTheme dark =>
    if "dark-mode" = key then some (if dark then some "true" else none) else none
  | .acknowledge dontShowAgain =>
    if dontShowAgain ∧ "acknowledged" = key then some (some "true") else none
  | .get _ | .isOn _ | .darkTheme | .reload | .endFade => none

/-- What the last of these operations to touch a key has left there, and nothing if none did. -/
def lastLeft (ops : List Op) (key : String) : Option String :=
  (ops.reverse.findSome? (Op.leaves key)).getD none

lemma lastLeft_append (ops : List Op) (op : Op) (key : String) :
    lastLeft (ops ++ [op]) key = (op.leaves key).getD (lastLeft ops key) := by
  cases h : op.leaves key <;> simp [lastLeft, h]

/-- Where no operation put a text under the key, none is left. -/
lemma lastLeft_eq_none {ops : List Op} {key : String}
    (h : ∀ op ∈ ops, ∀ text, op.leaves key ≠ some (some text)) : lastLeft ops key = none := by
  induction ops using List.reverseRecOn with
  | nil => rfl
  | append_singleton ops op ih =>
      rw [lastLeft_append, ih fun other hother => h other (List.mem_append_left _ hother)]
      cases hleft : op.leaves key with
      | none => rfl
      | some left =>
          cases left with
          | none => rfl
          | some text => exact absurd hleft (h op (by simp) text)

/-! ## One operation -/

section Step

variable {Store : Type} [Storage Store] (visit : Visit Store)

/-- Only a reload looks at the choice of a theme. -/
lemma dark_perform (op : Op) :
    (visit.perform op).2.appearance.dark
      = if op = .reload then ChatPanel.darkTheme visit.store else visit.appearance.dark := by
  cases op <;> rfl

lemma disclaimer_reload :
    (visit.perform .reload).2.appearance.disclaimer
      = if get visit.store "acknowledged" = some "true" then .hidden else .shown := by
  show Disclaimer.atStart (Storage.isOn visit.store disclaimerKey) = _
  simp [Disclaimer.atStart, isOn_eq, disclaimerKey]

end Step

/-- **One operation changes the store where it leaves something**, and nowhere else. -/
lemma get_perform (visit : Visit Memory) (op : Op) (key : String) :
    get (visit.perform op).2.store key = (op.leaves key).getD (get visit.store key) := by
  cases op with
  | put written text =>
      simp only [perform, get_put, Op.leaves]
      split <;> rfl
  | erase erased =>
      simp only [perform, get_erase, Op.leaves]
      split <;> rfl
  | turnOn written =>
      simp only [perform, Storage.turnOn, get_put, Op.leaves]
      split <;> rfl
  | setDarkTheme dark =>
      cases dark <;>
        simp only [perform, ChatPanel.setDarkTheme, Storage.turnOn, get_put, get_erase, Op.leaves,
          themeKey, Bool.false_eq_true, if_true, if_false] <;>
        split <;> rfl
  | acknowledge dontShowAgain =>
      cases dontShowAgain with
      | false => simp [perform, Appearance.acknowledge, Disclaimer.acknowledge, Op.leaves]
      | true =>
          simp only [perform, Appearance.acknowledge, Disclaimer.acknowledge, Storage.turnOn, get_put,
            Op.leaves, disclaimerKey, if_true, true_and]
          split <;> rfl
  | get read => rfl
  | isOn read => rfl
  | darkTheme => rfl
  | reload => rfl
  | endFade => rfl

/-! ## Runs -/

section Run

variable {Store : Type} [Storage Store] {store : Store} {ops : List Op} {i : ℕ} {op : Op}

/-- The store and the page at the end of a run. -/
def after (store : Store) (ops : List Op) : Visit Store :=
  lastState perform ⟨store, .initial⟩ ops

lemma after_append (store : Store) (ops : List Op) (op : Op) :
    after store (ops ++ [op]) = ((after store ops).perform op).2 := by
  simp only [after, lastState_append]
  rfl

lemma getElem?_run (h : ops[i]? = some op) :
    (run store ops)[i]? = some ((after store (ops.take i)).perform op) := by
  rw [run, getElem?_trace, h]
  rfl

end Run

/-- **The store keeps what the last operation to touch a key has left there.** -/
theorem get_after (ops : List Op) (key : String) :
    get (after Memory.empty ops).store key = lastLeft ops key := by
  induction ops using List.reverseRecOn with
  | nil => exact get_empty key
  | append_singleton ops op ih => rw [after_append, get_perform, ih, lastLeft_append]

/-- What one step shows of the operations before it: the texts that the store keeps, what was read of
them, and what the page took from them. -/
structure Kept (past : List Op) (op : Op) (before : Appearance) (outcome : Outcome)
    (visit : Visit Memory) : Prop where
  /-- Under every key stands what was left there last. -/
  texts : ∀ key, get visit.store key = lastLeft (past ++ [op]) key
  /-- A text is read as it was left. -/
  read : ∀ key, op = .get key → outcome = .text (lastLeft past key)
  /-- A preference is on if its text is `true` and nothing else. -/
  isOn : ∀ key, op = .isOn key → outcome = .flag (lastLeft past key = some "true")
  theme : op = .darkTheme → outcome = .flag (lastLeft past "dark-mode" = some "true")
  /-- A reload takes the theme from the store. -/
  dark_of_reload : op = .reload →
    (visit.appearance.dark = true ↔ lastLeft past "dark-mode" = some "true")
  /-- A reload shows the disclaimer unless it is acknowledged. -/
  disclaimer_of_reload : op = .reload →
    visit.appearance.disclaimer = if lastLeft past "acknowledged" = some "true" then .hidden else .shown
  /-- Nothing else changes the theme of the page. -/
  dark_of_ne : op ≠ .reload → visit.appearance.dark = before.dark

lemma kept_perform (past : List Op) (op : Op) :
    Kept past op (after Memory.empty past).appearance ((after Memory.empty past).perform op).1
      ((after Memory.empty past).perform op).2 where
  texts := by
    intro key
    rw [get_perform, get_after, lastLeft_append]
  read := by
    rintro key rfl
    rw [← get_after]
    rfl
  isOn := by
    rintro key rfl
    rw [← get_after]
    rfl
  theme := by
    rintro rfl
    rw [← get_after]
    rfl
  dark_of_reload := by
    rintro rfl
    simp [dark_perform, ChatPanel.darkTheme, isOn_eq, get_after, themeKey]
  disclaimer_of_reload := by
    rintro rfl
    rw [disclaimer_reload, get_after]
  dark_of_ne := by
    intro hne
    rw [dark_perform, if_neg hne]

/-- **Every choice is kept as it was left last**, after every step of every run on a store in memory,
and a reload takes the appearance of the page from there.  Where there is no store, every key reads
as absent, and every reload gives the appearance that a page has before anything is loaded. -/
theorem kept_of_run (ops : List Op) (i : ℕ) (op : Op) (hop : ops[i]? = some op) :
    (∃ outcome visit, (run Memory.empty ops)[i]? = some (outcome, visit) ∧
      Kept (ops.take i) op (after Memory.empty (ops.take i)).appearance outcome visit) ∧
    ∃ outcome visit, (run (⟨⟩ : NoStorage) ops)[i]? = some (outcome, visit) ∧
      (∀ key, get visit.store key = none) ∧ (∀ key, op = .get key → outcome = .text none) ∧
      (op = .reload → visit.appearance = ⟨false, .shown⟩) := by
  constructor
  · exact ⟨_, _, getElem?_run hop, kept_perform (ops.take i) op⟩
  · refine ⟨_, _, getElem?_run hop, fun key => rfl, ?_, ?_⟩
    · rintro key rfl
      rfl
    · rintro rfl
      rfl

/-- The preferences are written under their keys by other operations as well, and the last one counts:
the page reloads with a light theme, and without the disclaimer. -/
theorem kept_written_by_others :
    [.setDarkTheme true, .put "acknowledged" "yes", .erase "dark-mode", .turnOn "acknowledged",
        .acknowledge false, .reload][5]? = some Op.reload ∧
      ∃ outcome visit, (run Memory.empty [.setDarkTheme true, .put "acknowledged" "yes",
          .erase "dark-mode", .turnOn "acknowledged", .acknowledge false, .reload])[5]?
            = some (outcome, visit) ∧
        visit.appearance.dark = false ∧ visit.appearance.disclaimer = .hidden := by
  refine ⟨rfl, ?_⟩
  obtain ⟨⟨outcome, visit, hstep, hkept⟩, -⟩ := kept_of_run [.setDarkTheme true,
    .put "acknowledged" "yes", .erase "dark-mode", .turnOn "acknowledged", .acknowledge false,
    .reload] 5 .reload rfl
  have hdark := hkept.dark_of_reload rfl
  have hdisclaimer := hkept.disclaimer_of_reload rfl
  refine ⟨outcome, visit, hstep, ?_, ?_⟩
  · rw [← Bool.not_eq_true, hdark]
    decide
  · rw [hdisclaimer]
    decide

end Visit

end ChatPanel
