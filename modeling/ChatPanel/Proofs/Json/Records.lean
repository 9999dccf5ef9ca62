import ChatPanel.Proofs.Json.Fields
import Mathlib.Data.List.Nodup
import Mathlib.Data.List.Pairwise

/-!
# What a record says

A record that is written as an object is read member by member, and the reader fails at the first
offence.  What comes of it can be said without the reader and without an order: every field is given
the values of the members that name it (`given`), and gets what `Kind.gets` makes of them.

* `Found.Collects` — what was read is what some members give to the fields.
* `Refuses` — some field is given too many values, or one that it does not admit.
* **`read_object`** — the record is read, and collects its members, or it is refused, and its members
  are to blame.

**The invariant** of the loop is `Found.Collects`, for the members so far.  A field that they spoil
stays spoilt (`Refuses.append`), so that the first offence decides although more members follow.
-/

namespace ChatPanel.Json

variable {tokens : List Token} {text : List Char}

/-! ## What the fields get -/

/-- The values of the members with these keys. -/
def given (keys : List String) (members : List Member) : List Value :=
  (members.filter fun member => member.key ∈ keys).map Member.value

lemma given_append (keys : List String) (members members' : List Member) :
    given keys (members ++ members') = given keys members ++ given keys members' := by
  simp [given]

lemma given_of_mem {keys : List String} {member : Member} (h : member.key ∈ keys) :
    given keys [member] = [member.value] := by
  simp [given, h]

lemma given_of_not_mem {keys : List String} {member : Member} (h : member.key ∉ keys) :
    given keys [member] = [] := by
  simp [given, h]

/-- The order of the members, and members with other keys, play no part. -/
lemma given_perm {keys known : List String} (hkeys : ∀ key ∈ keys, key ∈ known)
    {members members' : List Member}
    (h : (members'.filter fun member => member.key ∈ known).Perm
      (members.filter fun member => member.key ∈ known)) :
    (given keys members').Perm (given keys members) := by
  have hknown (all : List Member) :
      given keys all = given keys (all.filter fun member => member.key ∈ known) := by
    rw [given, given, List.filter_filter]
    congr 2
    funext member
    by_cases hkey : member.key ∈ keys
    · simp [hkey, hkeys _ hkey]
    · simp [hkey]
  rw [hknown members, hknown members']
  exact (h.filter _).map _

namespace Schema

variable {schema : Schema}

/-- All names of a field. -/
def names (schema : Schema) (field : schema.Field) : List String :=
  schema.name field :: schema.aliases field

/-- No key names two fields, and every field can be named. -/
def Distinct (schema : Schema) : Prop :=
  ∀ key field, schema.fieldOf key = some field ↔ key ∈ schema.names field

/-- A key is looked up among the names of each field. -/
lemma mem_names_of_fieldOf {key : String} {field : schema.Field}
    (h : schema.fieldOf key = some field) : key ∈ schema.names field := by
  have hnames := List.find?_some h
  simpa [names] using hnames

lemma distinct_of_nodup (hall : ∀ field, field ∈ schema.fields)
    (hnames : (schema.fields.flatMap schema.names).Nodup) : schema.Distinct := by
  have hdisjoint := (List.nodup_flatMap.mp hnames).2
  have : Std.Symm (Function.onFun List.Disjoint schema.names) := ⟨fun _ _ => List.disjoint_symm⟩
  refine fun key field => ⟨mem_names_of_fieldOf, fun hkey => ?_⟩
  cases hfield : schema.fieldOf key with
  | some field' =>
      by_contra hne
      have hkey' := mem_names_of_fieldOf hfield
      exact hdisjoint.forall (hall field) (hall field') (fun heq => hne (heq ▸ rfl)) hkey hkey'
  | none =>
      have hnot := List.find?_eq_none.mp hfield field (hall field)
      exact absurd (by simpa [names] using hkey) hnot

/-- What was read is what these members give to the fields. -/
def Found.Collects (found : schema.Found) (members : List Member) : Prop :=
  ∀ field, (schema.kind field).gets (given (schema.names field) members) = some (found field)

/-- What was read is determined by what the fields are given. -/
lemma Found.Collects.eq {found found' : schema.Found} {members members' : List Member}
    (h : found.Collects members) (h' : found'.Collects members')
    (hgiven : ∀ field,
      given (schema.names field) members = given (schema.names field) members') :
    found = found' := by
  funext field
  rw [← Option.some_inj, ← h, ← h', hgiven]

/-- These members give too much to some field, or what it does not admit. -/
def Refuses (schema : Schema) (members : List Member) : Prop :=
  ∃ field, (schema.kind field).gets (given (schema.names field) members) = none

lemma collects_nothing : schema.nothing.Collects [] := fun _ => rfl

/-- A member more does not help. -/
lemma Refuses.append {members : List Member} (h : schema.Refuses members) (more : List Member) :
    schema.Refuses (members ++ more) := by
  obtain ⟨field, hfield⟩ := h
  exact ⟨field, by rw [given_append]; exact gets_append_eq_none hfield _⟩

@[simp] lemma Found.put_self (found : schema.Found) (field : schema.Field)
    (held : (schema.kind field).Held) : found.put field held field = some held := by
  simp [Found.put]

lemma Found.put_ne (found : schema.Found) {field other : schema.Field} (h : field ≠ other)
    (held : (schema.kind field).Held) : found.put field held other = found other := by
  simp [Found.put, h]

/-- A member that names no field changes nothing. -/
lemma Found.Collects.unknown {found : schema.Found} {members : List Member}
    (hfound : found.Collects members) (hschema : schema.Distinct) {member : Member}
    (h : schema.fieldOf member.key = none) : found.Collects (members ++ [member]) := by
  intro field
  have hmem : member.key ∉ schema.names field := by
    rw [← hschema, h]
    simp
  rw [given_append, given_of_not_mem hmem, List.append_nil]
  exact hfound field

/-- A member that names a field puts its value there. -/
lemma Found.Collects.put {found : schema.Found} {members : List Member}
    (hfound : found.Collects members) (hschema : schema.Distinct) {member : Member}
    {field : schema.Field} (h : schema.fieldOf member.key = some field)
    (hnone : found field = none) {held : (schema.kind field).Held}
    (hheld : (schema.kind field).held member.value = some held) :
    (found.put field held).Collects (members ++ [member]) := by
  intro other
  rw [given_append]
  by_cases hother : field = other
  · subst hother
    have hnothing := hfound field
    rw [hnone] at hnothing
    rw [given_of_mem ((hschema _ _).mp h), gets_append_singleton hnothing, hheld, put_self]
    rfl
  · have hmem : member.key ∉ schema.names other := by
      rw [← hschema, h]
      exact fun heq => hother (Option.some.inj heq)
    rw [given_of_not_mem hmem, List.append_nil, put_ne _ hother]
    exact hfound other

/-- A member that names a field which was named before is one too many. -/
lemma Found.Collects.refuses_again {found : schema.Found} {members : List Member}
    (hfound : found.Collects members) (hschema : schema.Distinct) {member : Member}
    {field : schema.Field} (h : schema.fieldOf member.key = some field)
    (hsome : (found field).isSome = true) : schema.Refuses (members ++ [member]) := by
  obtain ⟨held, hheld⟩ := Option.isSome_iff_exists.mp hsome
  have hgets := hfound field
  rw [hheld] at hgets
  refine ⟨field, ?_⟩
  rw [given_append, given_of_mem ((hschema _ _).mp h)]
  exact gets_append_eq_none_of_some hgets _

/-- A member whose value the field does not admit is refused. -/
lemma Found.Collects.refuses_value {found : schema.Found} {members : List Member}
    (hfound : found.Collects members) (hschema : schema.Distinct) {member : Member}
    {field : schema.Field} (h : schema.fieldOf member.key = some field)
    (hnone : found field = none) (hheld : (schema.kind field).held member.value = none) :
    schema.Refuses (members ++ [member]) := by
  have hnothing := hfound field
  rw [hnone] at hnothing
  refine ⟨field, ?_⟩
  rw [given_append, given_of_mem ((hschema _ _).mp h), gets_append_singleton hnothing, hheld]
  rfl

/-! ## Reading the members -/

/-- What a reader makes of these members in front of the given tokens: what they give to the fields,
or a failure if they spoil a field. -/
def Reads (members : List Member) (tokens : List Token)
    (result : Except Fault (schema.Found × List Char)) : Prop :=
  (∃ found rest, result = .ok (found, rest) ∧ found.Collects members ∧ Laid tokens rest) ∨
    (∃ fault, result = .error fault) ∧ schema.Refuses members

lemma readMember_eq (found : schema.Found) {key : String} {body rest behind : List Char}
    (hkey : Spelled key.toList body) (hcolon : colon rest = .ok behind) :
    readMember found (body ++ '"' :: rest)
      = match schema.fieldOf key with
        | none => (Fate.skipped.passValue behind).map fun left => (found, left)
        | some field =>
          if (found field).isSome then .error (repeated field rest)
          else ((schema.kind field).read behind).map fun (held, left) =>
            (found.put field held, left) := by
  simp only [readMember, bind, Except.bind, pure, Except.pure, readText_of_spelled hkey, hcolon,
    String.ofList_toList]
  cases schema.fieldOf key with
  | none => cases Fate.skipped.passValue behind <;> rfl
  | some field =>
      cases (found field).isSome with
      | true => rfl
      | false => cases (schema.kind field).read behind <;> rfl

/-- **One member**, behind the quotation mark that opens its key. -/
theorem reads_readMember {found : schema.Found} {members : List Member} {member : Member}
    {body rest : List Char} (hschema : schema.Distinct) (hfound : found.Collects members)
    (hkey : Spelled member.key.toList body)
    (h : Laid (.mark ':' :: (member.value.tokens ++ tokens)) rest) (hcloses : Closes tokens) :
    Reads (members ++ [member]) tokens (readMember found (body ++ '"' :: rest)) := by
  obtain ⟨behind, hcolon, hbehind⟩ := colon_ok h
  rw [readMember_eq found hkey hcolon]
  cases hfield : schema.fieldOf member.key with
  | none =>
      obtain ⟨left, hpass, hleft⟩ := passValue_skipped hbehind hcloses
      exact .inl ⟨found, left, by simp [hpass, Except.map], hfound.unknown hschema hfield, hleft⟩
  | some field =>
      cases hsome : (found field).isSome with
      | true =>
          exact .inr ⟨⟨repeated field rest, by simp [hsome]⟩,
            hfound.refuses_again hschema hfield hsome⟩
      | false =>
          have hnone : found field = none := by simpa using hsome
          have hvalue := yields_read (schema.kind field) hbehind hcloses
          simp only [hsome, Bool.false_eq_true, if_false]
          cases hheld : (schema.kind field).held member.value with
          | none =>
              rw [hheld] at hvalue
              obtain ⟨fault, hfault⟩ := hvalue
              exact .inr ⟨⟨fault, by simp [hfault, Except.map]⟩,
                hfound.refuses_value hschema hfield hnone hheld⟩
          | some held =>
              rw [hheld] at hvalue
              obtain ⟨left, hleft, hvalue⟩ := hvalue
              exact .inl ⟨found.put field held, left, by simp [hvalue, Except.map],
                hfound.put hschema hfield hnone hheld, hleft⟩

lemma readMembers_close {first : Bool} {rest : List Char} (found : schema.Found)
    (h : nextMember .kept first text = .ok (.close, rest)) :
    readMembers first found text = .ok (found, rest) := by
  rw [readMembers]
  split
  · next he => cases h.symm.trans he
  · next he =>
      cases h.symm.trans he
      rfl
  · next he => cases h.symm.trans he

lemma readMembers_item {first : Bool} {rest : List Char} (found : schema.Found)
    (h : nextMember .kept first text = .ok (.item, rest)) :
    readMembers first found text
      = match readMember found rest with
        | .error fault => .error fault
        | .ok (found', left) => readMembers false found' left := by
  conv_lhs => rw [readMembers]
  split
  · next he => cases h.symm.trans he
  · next he => cases h.symm.trans he
  · next he =>
      cases h.symm.trans he
      split <;> next hmember => rw [hmember]

/-- A member, and then the ones behind it. -/
lemma Reads.next {found : schema.Found} {first : Bool} {members more : List Member} {member : Member}
    {tokens' : List Token} {rest : List Char}
    (hnext : nextMember .kept first text = .ok (.item, rest))
    (hmember : Reads (members ++ [member]) tokens' (readMember found rest))
    (hmore : ∀ (found' : schema.Found) (left : List Char), found'.Collects (members ++ [member]) →
      Laid tokens' left → Reads (members ++ [member] ++ more) tokens (readMembers false found' left)) :
    Reads (members ++ member :: more) tokens (readMembers first found text) := by
  rw [readMembers_item found hnext, List.append_cons]
  rcases hmember with ⟨found', left, hread, hfound', hleft⟩ | ⟨⟨fault, hread⟩, hrefuses⟩
  · rw [hread]
    exact hmore found' left hfound' hleft
  · rw [hread]
    exact .inr ⟨⟨fault, rfl⟩, hrefuses.append more⟩

/-- **The members behind the first ones**, up to the closing brace. -/
theorem reads_readMembers (hschema : schema.Distinct) (more : List Member) {found : schema.Found}
    {members : List Member} (hfound : found.Collects members)
    (h : Laid ((Value.memberTokens (more.map fun member => (some member.key.toList, member.value))
      ).flatMap (.mark ',' :: ·) ++ .mark '}' :: tokens) text) :
    Reads (members ++ more) tokens (readMembers false found text) := by
  -- what was read of the members before goes along, as the invariant
  induction more generalizing found members text with
  | nil =>
      obtain ⟨rest, hnext, hrest⟩ := @nextMember_close .kept _ _ false h
      rw [readMembers_close found hnext, List.append_nil]
      exact .inl ⟨found, rest, rfl, hfound, hrest⟩
  | cons member more ih =>
      simp only [List.map_cons, Value.memberTokens, List.flatMap_cons, List.cons_append,
        List.append_assoc] at h
      obtain ⟨body, rest, hnext, hbody, hrest⟩ := @nextMember_comma .kept _ _ _ h
      exact (reads_readMember hschema hfound hbody hrest (closes_groups _ _ _)).next hnext
        fun found' left hfound' hleft => ih hfound' hleft

/-- What comes of a text that stands for these members: the record is read and collects them, or it is
refused, and they are to blame. -/
def ReadsAs (schema : Schema) (members : List Member) (text : String) : Prop :=
  (∃ found, schema.read text = .ok found ∧ found.Collects members) ∨
    (∃ error, schema.read text = .error error) ∧ schema.Refuses members

/-- Nothing may stand behind the record. -/
lemma readsAs_of_reads {members : List Member} {text : String}
    (h : Reads members [] (schema.readRecord text.toList)) : schema.ReadsAs members text := by
  rcases h with ⟨found, rest, hread, hfound, hrest⟩ | ⟨⟨fault, hread⟩, hrefuses⟩
  · refine .inl ⟨found, ?_, hfound⟩
    simp [read, readWhole, hread, hrest.skipGap_nil, bind, Except.bind, pure, Except.pure]
  · refine .inr ⟨⟨fault.locate text.toList, ?_⟩, hrefuses⟩
    simp [read, readWhole, hread, bind, Except.bind]

/-- **What a record says.**  A text that is an object is read, and every field has what the members
give to it, unless some field cannot have what they give to it, and then the text is refused. -/
theorem read_object (hschema : schema.Distinct) {members : List Member} {text : String}
    (h : IsObject members text) : schema.ReadsAs members text := by
  -- the first member has no comma in front, and the others are read as any members behind it
  apply readsAs_of_reads
  simp only [IsObject, Value.tokens] at h
  obtain ⟨rest, hskip, hrest⟩ := h.skipGap_mark
  rw [readRecord, hskip]
  cases members with
  | nil =>
      obtain ⟨behind, hnext, hbehind⟩ := @nextMember_close .kept _ _ true hrest
      exact .inl ⟨schema.nothing, behind, readMembers_close _ hnext, collects_nothing, hbehind⟩
  | cons member more =>
      simp only [List.map_cons, Value.memberTokens, separated, List.cons_append,
        List.append_assoc] at hrest
      obtain ⟨body, behind, hnext, hbody, hbehind⟩ := @nextMember_first .kept _ _ _ hrest
      exact (reads_readMember hschema collects_nothing hbody hbehind (closes_groups _ _ _)).next
        hnext fun found' left hfound' hleft => reads_readMembers hschema more hfound' hleft

end Schema

end ChatPanel.Json
