import ChatPanel.Json.Value

/-!
# Records: JSON texts with known fields

A record has a fixed set of fields in a fixed order (`Schema`).  It is written as an object, whose
keys name the fields in any order, or as a list, whose elements fill the fields in their order.
Either form may leave fields out.

**Objects.**  A field may have several names.  A field that is named twice is a failure right
behind the second key, whatever its values.  A key that names no field is passed over with its
value.

**Lists.**  An element behind the last field is a failure.

What was read is a partial assignment (`Schema.Found`); the caller supplies what is missing.
-/

namespace ChatPanel.Json

/-! ## Schemas -/

/-- What a field holds. -/
inductive Kind where
  /-- `true` or `false`. -/
  | flag
  /-- A string. -/
  | text
  /-- A string or `null`. -/
  | optionalText
  /-- Any value, of which only a string is of use. -/
  | lenientText
  deriving DecidableEq, Repr

/-- The values of a kind. -/
abbrev Kind.Held : Kind → Type
  | .flag => Bool
  | .text => String
  | .optionalText => Option String
  | .lenientText => Option String

/-- The fields of a record. -/
structure Schema where
  /-- How a diagnostic names the record. -/
  title : String
  Field : Type
  [decEq : DecidableEq Field]
  /-- The fields in their order. -/
  fields : List Field
  /-- The name of a field, used in diagnostics. -/
  name : Field → String
  /-- Other names of a field. -/
  aliases : Field → List String
  kind : Field → Kind

namespace Schema

variable (schema : Schema)

instance : DecidableEq schema.Field := schema.decEq

/-- The field that a key names. -/
def fieldOf (key : String) : Option schema.Field :=
  schema.fields.find? fun field => key = schema.name field || key ∈ schema.aliases field

/-- What has been read of each field so far. -/
abbrev Found : Type := (field : schema.Field) → Option (schema.kind field).Held

/-- Nothing has been read. -/
def nothing : schema.Found := fun _ => none

variable {schema}

/-- The assignment with the value of one field put in. -/
def Found.put (found : schema.Found) (field : schema.Field) (held : (schema.kind field).Held) :
    schema.Found :=
  fun other => if h : field = other then some (h ▸ held) else found other

end Schema

/-! ## Fields -/

/-- The failure of a place that admits no value of the kind that starts here.  A value without parts
is read first, and what is wrong with it comes first; a bracket is not read. -/
def misfit (expected : String) : List Char → Fault
  | [] => .next .endInValue []
  | 'n' :: rest =>
    match keyword ['u', 'l', 'l'] rest with
    | .error fault => fault
    | .ok left => .behind (.misfit .null expected) left
  | 't' :: rest =>
    match keyword ['r', 'u', 'e'] rest with
    | .error fault => fault
    | .ok left => .behind (.misfit (.flag true) expected) left
  | 'f' :: rest =>
    match keyword ['a', 'l', 's', 'e'] rest with
    | .error fault => fault
    | .ok left => .behind (.misfit (.flag false) expected) left
  | '"' :: rest =>
    match readText rest with
    | .error fault => fault
    | .ok (cs, left) => .behind (.misfit (.text cs) expected) left
  | '[' :: rest => .behind (.misfit .list expected) ('[' :: rest)
  | '{' :: rest => .behind (.misfit .object expected) ('{' :: rest)
  | c :: rest =>
    if c = '-' ∨ c.isDigit then
      match readNumber (c :: rest) with
      | .error fault => fault
      | .ok (number, left) => .behind (.misfit (.number number) expected) left
    else .next .noValue (c :: rest)

/-- Reads `true` or `false`. -/
def readFlag (text : List Char) : Except Fault (Bool × List Char) :=
  match skipGap text with
  | 't' :: rest => (keyword ['r', 'u', 'e'] rest).map fun left => (true, left)
  | 'f' :: rest => (keyword ['a', 'l', 's', 'e'] rest).map fun left => (false, left)
  | start => .error (misfit "a boolean" start)

/-- Reads a string. -/
def readString (text : List Char) : Except Fault (String × List Char) :=
  match skipGap text with
  | '"' :: rest => (readText rest).map fun (cs, left) => (String.ofList cs, left)
  | start => .error (misfit "a string" start)

/-- Reads a string or `null`. -/
def readOptional (text : List Char) : Except Fault (Option String × List Char) :=
  match skipGap text with
  | 'n' :: rest => (keyword ['u', 'l', 'l'] rest).map fun left => (none, left)
  | start => (readString start).map fun (string, left) => (some string, left)

/-- Reads any value, and keeps it if it is a string. -/
def readLenient (text : List Char) : Except Fault (Option String × List Char) :=
  (readValue text).map fun (found, left) => (found.map String.ofList, left)

/-- Reads the value of a field. -/
def Kind.read : (kind : Kind) → List Char → Except Fault (kind.Held × List Char)
  | .flag => readFlag
  | .text => readString
  | .optionalText => readOptional
  | .lenientText => readLenient

theorem length_map_lt {α β : Type} {read : Except Fault (α × List Char)} {f : α → β} {held : β}
    {text left : List Char} (hlt : ∀ a rest, read = .ok (a, rest) → rest.length < text.length)
    (h : (read.map fun p => (f p.1, p.2)) = .ok (held, left)) : left.length < text.length := by
  cases hr : read with
  | error fault => simp [hr, Except.map] at h
  | ok p =>
    simp only [hr, Except.map, Except.ok.injEq, Prod.mk.injEq] at h
    exact h.2 ▸ hlt p.1 p.2 hr

theorem length_keyword_map_lt {α : Type} {ks rest text left : List Char} {a held : α} {c : Char}
    (hs : skipGap text = c :: rest)
    (h : ((keyword ks rest).map fun left => (a, left)) = .ok (held, left)) :
    left.length < text.length := by
  have hle := length_skipGap_le text
  rw [hs, List.length_cons] at hle
  cases hk : keyword ks rest with
  | error fault => simp [hk, Except.map] at h
  | ok behind =>
    simp only [hk, Except.map, Except.ok.injEq, Prod.mk.injEq] at h
    have hkl := length_keyword_le hk
    rw [← h.2]
    omega

theorem length_readString_lt {text left : List Char} {held : String}
    (h : readString text = .ok (held, left)) : left.length < text.length := by
  have hle := length_skipGap_le text
  unfold readString at h
  split at h
  · next rest hs =>
    rw [hs, List.length_cons] at hle
    refine length_map_lt (fun cs behind ht => ?_) h
    have hlt := length_readText_lt ht
    omega
  · cases h

theorem Kind.length_read_lt {kind : Kind} {text left : List Char} {held : kind.Held}
    (h : kind.read text = .ok (held, left)) : left.length < text.length := by
  have hle := length_skipGap_le text
  cases kind with
  | flag =>
    simp only [read, readFlag] at h
    split at h
    · next hs => exact length_keyword_map_lt hs h
    · next hs => exact length_keyword_map_lt hs h
    · cases h
  | text => exact length_readString_lt h
  | optionalText =>
    simp only [read, readOptional] at h
    split at h
    · next hs => exact length_keyword_map_lt hs h
    · refine length_map_lt (fun string behind hr => ?_) h
      have hlt := length_readString_lt hr
      omega
  | lenientText =>
    simp only [read, readLenient] at h
    exact length_map_lt (fun found behind hr => length_readValue_lt hr) h

/-! ## Records -/

namespace Schema

variable {schema : Schema}

/-- The failure at a key that names a field for the second time.  A closing brace that comes next is
read before the failure is placed. -/
def repeated (field : schema.Field) (text : List Char) : Fault :=
  let cause := Cause.repeatedField (schema.name field)
  match skipGap text with
  | '}' :: rest => .behind cause rest
  | rest => .behind cause rest

/-- Reads one member behind the opening quotation mark of its key. -/
def readMember (found : schema.Found) (text : List Char) :
    Except Fault (schema.Found × List Char) := do
  let (key, rest) ← readText text
  match schema.fieldOf (String.ofList key) with
  | none =>
    let left ← Fate.skipped.passValue (← colon rest)
    return (found, left)
  | some field =>
    if (found field).isSome then throw (repeated field rest)
    let (held, left) ← (schema.kind field).read (← colon rest)
    return (found.put field held, left)

theorem length_readMember_lt {found found' : schema.Found} {text left : List Char}
    (h : readMember found text = .ok (found', left)) : left.length < text.length := by
  simp only [readMember, bind, Except.bind, pure, Except.pure] at h
  split at h
  · cases h
  · next p hk =>
    have hkey := length_readText_lt hk
    split at h
    · split at h
      · cases h
      · next behind hc =>
        have hcolon := length_colon_lt hc
        split at h
        · cases h
        · next rest hv =>
          rw [Except.ok.injEq, Prod.mk.injEq] at h
          have hvalue := Fate.length_passValue_lt hv
          rw [← h.2]
          omega
    · split at h
      · cases h
      · split at h
        · cases h
        · next behind hc =>
          have hcolon := length_colon_lt hc
          split at h
          · cases h
          · next q hv =>
            rw [Except.ok.injEq, Prod.mk.injEq] at h
            have hvalue := Kind.length_read_lt hv
            rw [← h.2]
            omega

/-- Reads the members of an object up to its closing brace. -/
def readMembers (first : Bool) (found : schema.Found) (text : List Char) :
    Except Fault (schema.Found × List Char) :=
  match _h : nextMember .kept first text with
  | .error fault => .error fault
  | .ok (.close, rest) => .ok (found, rest)
  | .ok (.item, rest) =>
    match _hm : readMember found rest with
    | .error fault => .error fault
    | .ok (found', left) => readMembers false found' left
termination_by text.length
decreasing_by
  exact Nat.lt_trans (length_readMember_lt _hm) (length_nextMember_lt _h)

/-- Reads the closing bracket of a list behind the last field. -/
def closeList (text : List Char) : Except Fault (List Char) :=
  match skipGap text with
  | [] => .error (.next .endInList [])
  | ']' :: rest => .ok rest
  | ',' :: rest =>
    match skipGap rest with
    | ']' :: more => .error (.next .danglingComma (']' :: more))
    | other => .error (.next .excess other)
  | other => .error (.next .excess other)

/-- Reads the elements of a list into the given fields, up to the closing bracket. -/
def readElements : List schema.Field → Bool → schema.Found → List Char →
    Except Fault (schema.Found × List Char)
  | [], _, found, text => (closeList text).map fun rest => (found, rest)
  | field :: fields, first, found, text => do
    match ← nextElement .kept first text with
    | (.close, rest) => return (found, rest)
    | (.item, rest) =>
      let (held, left) ← (schema.kind field).read rest
      readElements fields false (found.put field held) left

variable (schema)

/-- Reads a record in either form. -/
def readRecord (text : List Char) : Except Fault (schema.Found × List Char) :=
  match skipGap text with
  | '{' :: rest => readMembers true schema.nothing rest
  | '[' :: rest => readElements schema.fields true schema.nothing rest
  | start => .error (misfit schema.title start)

/-- Reads a text that holds one record and nothing else. -/
def readWhole (text : List Char) : Except Fault schema.Found := do
  let (found, rest) ← schema.readRecord text
  match skipGap rest with
  | [] => return found
  | excess => throw (.next .excess excess)

/-- Reads a record from a text. -/
def read (text : String) : Except ReadError schema.Found :=
  match schema.readWhole text.toList with
  | .ok found => .ok found
  | .error fault => .error (fault.locate text.toList)

end Schema

end ChatPanel.Json
