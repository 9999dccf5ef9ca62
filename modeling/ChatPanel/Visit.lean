import ChatPanel.Disclaimer
import ChatPanel.Storage
import ChatPanel.Trace

/-!
# A visit to the page

What a panel looks like depends on two choices of the visitor: the dark theme, and whether the
disclaimer has been put away.  Both are kept in a store, from which every visit starts.

* `Appearance.atStart` — the appearance at the start of a visit.
* `Appearance.acknowledge` — puts the disclaimer away for this visit, and for later ones if the
  visitor wishes so.
* `setDarkTheme` — keeps the choice of a theme for later visits.  Only the keeping is told here: the
  switch on the page changes the page at once as well, while `Appearance.dark` is the theme that was
  kept when the page was loaded.
* `Visit.perform` — every operation as data, so that runs can be spoken of.
-/

namespace ChatPanel

open Storage

/-! ## The two choices -/

/-- The key of the theme. -/
def themeKey : String := "dark-mode"

/-- The key of the acknowledgement. -/
def disclaimerKey : String := "acknowledged"

section Store

variable {Store : Type} [Storage Store]

/-- Has the visitor chosen the dark theme? -/
def darkTheme (store : Store) : Bool :=
  isOn store themeKey

/-- Keeps the choice of a theme.  The light theme is kept as no text at all. -/
def setDarkTheme (store : Store) (dark : Bool) : Store :=
  if dark then turnOn store themeKey else erase store themeKey

end Store

/-! ## Appearance -/

/-- What the panel looks like. -/
structure Appearance where
  dark : Bool
  disclaimer : Disclaimer
  deriving DecidableEq, Repr

namespace Appearance

variable {Store : Type} [Storage Store]

/-- The appearance before anything has been loaded. -/
def initial : Appearance := ⟨false, .shown⟩

/-- The appearance at the start of a visit. -/
def atStart (store : Store) : Appearance :=
  ⟨darkTheme store, .atStart (isOn store disclaimerKey)⟩

/-- Puts the disclaimer away. -/
def acknowledge (appearance : Appearance) (store : Store) (dontShowAgain : Bool) :
    Appearance × Store :=
  let (remember, disclaimer) := appearance.disclaimer.acknowledge dontShowAgain
  ({ appearance with disclaimer := disclaimer },
   if remember then turnOn store disclaimerKey else store)

/-- The fading of the disclaimer is over. -/
def endFade (appearance : Appearance) : Appearance :=
  { appearance with disclaimer := appearance.disclaimer.endFade }

end Appearance

/-! ## Runs -/

/-- A store and the appearance of the page that uses it. -/
structure Visit (Store : Type) where
  store : Store
  appearance : Appearance

namespace Visit

/-- An operation during a visit. -/
inductive Op where
  | get (key : String)
  | put (key text : String)
  | erase (key : String)
  | isOn (key : String)
  | turnOn (key : String)
  | darkTheme
  | setDarkTheme (dark : Bool)
  | reload
  | acknowledge (dontShowAgain : Bool)
  | endFade
  deriving DecidableEq, Repr

/-- What an operation returns. -/
inductive Outcome where
  | done
  | text (text : Option String)
  | flag (flag : Bool)
  deriving DecidableEq, Repr

variable {Store : Type} [Storage Store]

/-- Performs one operation. -/
def perform (visit : Visit Store) : Op → Outcome × Visit Store
  | .get key => (.text (Storage.get visit.store key), visit)
  | .put key text => (.done, { visit with store := Storage.put visit.store key text })
  | .erase key => (.done, { visit with store := Storage.erase visit.store key })
  | .isOn key => (.flag (Storage.isOn visit.store key), visit)
  | .turnOn key => (.done, { visit with store := Storage.turnOn visit.store key })
  | .darkTheme => (.flag (ChatPanel.darkTheme visit.store), visit)
  | .setDarkTheme dark =>
    (.done, { visit with store := ChatPanel.setDarkTheme visit.store dark })
  | .reload => (.done, { visit with appearance := .atStart visit.store })
  | .acknowledge dontShowAgain =>
    let (appearance, store) := visit.appearance.acknowledge visit.store dontShowAgain
    (.done, ⟨store, appearance⟩)
  | .endFade => (.done, { visit with appearance := visit.appearance.endFade })

/-- The steps of a run, from a store and the initial appearance. -/
def run (store : Store) (ops : List Op) : List (Outcome × Visit Store) :=
  trace perform ⟨store, .initial⟩ ops

end Visit

end ChatPanel
