import Std.Data.HashMap

/-!
# Texts kept across visits

A store keeps one text under each key.  `Storage` says what a store can do, and two stores can do
it.

* `Memory` — keeps what it is given, as long as it lives.
* `NoStorage` — keeps nothing: every key reads as absent.  It stands in where the page has no store
  of its own.

A preference is a key whose text is `true`: any other text, and no text at all, mean that it is off.
-/

namespace ChatPanel

/-- What a store can do. -/
class Storage (Store : Type) where
  /-- The text under a key, if there is one. -/
  get : Store → String → Option String
  /-- Puts a text under a key in place of the one before. -/
  put : Store → String → String → Store
  /-- Removes the text under a key. -/
  erase : Store → String → Store

/-! ## Stores -/

/-- A store in memory. -/
structure Memory where
  texts : Std.HashMap String String

/-- A store in memory that holds nothing yet. -/
def Memory.empty : Memory := ⟨∅⟩

instance : Storage Memory where
  get store key := store.texts[key]?
  put store key text := ⟨store.texts.insert key text⟩
  erase store key := ⟨store.texts.erase key⟩

/-- No store at all. -/
structure NoStorage where
  deriving DecidableEq, Repr

instance : Storage NoStorage where
  get _ _ := none
  put store _ _ := store
  erase store _ := store

/-! ## Preferences -/

namespace Storage

variable {Store : Type} [Storage Store]

/-- The text of a preference that is on. -/
def on : String := "true"

/-- Is the preference on? -/
def isOn (store : Store) (key : String) : Bool :=
  get store key = some on

/-- Turns a preference on. -/
def turnOn (store : Store) (key : String) : Store :=
  put store key on

end Storage

end ChatPanel
