/-!
# The disclaimer

The disclaimer lies over the panel until the visitor acknowledges it.  It then fades out, and once
the fading is over it takes no place any more.  A visitor who has asked not to see it again does
not see it on later visits.
-/

namespace ChatPanel

/-- How far the disclaimer has gone on this visit. -/
inductive Disclaimer where
  | shown
  | fading
  | hidden
  deriving DecidableEq, Repr

namespace Disclaimer

/-- The disclaimer at the start of a visit. -/
def atStart (acknowledged : Bool) : Disclaimer :=
  if acknowledged then .hidden else .shown

/-- The visitor acknowledges the disclaimer.  Returns whether later visits shall start without it,
which is up to the visitor alone. -/
def acknowledge (disclaimer : Disclaimer) (dontShowAgain : Bool) : Bool × Disclaimer :=
  (dontShowAgain, if disclaimer = .shown then .fading else disclaimer)

/-- The fading is over. -/
def endFade (disclaimer : Disclaimer) : Disclaimer :=
  if disclaimer = .fading then .hidden else disclaimer

/-- Does the disclaimer take any place? -/
def isVisible (disclaimer : Disclaimer) : Bool :=
  disclaimer ≠ .hidden

/-- Is the disclaimer fading out? -/
def isFading (disclaimer : Disclaimer) : Bool :=
  disclaimer = .fading

/-! ## Operations -/

/-- An operation on the disclaimer. -/
inductive Op where
  | acknowledge (dontShowAgain : Bool)
  | endFade
  deriving DecidableEq, Repr

/-- Performs one operation.  An acknowledgement returns whether to remember it. -/
def perform (disclaimer : Disclaimer) : Op → Option Bool × Disclaimer
  | .acknowledge dontShowAgain =>
    let (remember, after) := disclaimer.acknowledge dontShowAgain
    (some remember, after)
  | .endFade => (none, disclaimer.endFade)

end Disclaimer

end ChatPanel
