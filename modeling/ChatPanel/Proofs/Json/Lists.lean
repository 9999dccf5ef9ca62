import ChatPanel.Proofs.Json.Accepted.Records
import ChatPanel.Proofs.Json.Records

/-!
# Records that are written as lists

A list is read as a record too: its elements fill the fields in their order, and the fields at the end
may be missing.  So a list stands for an object, the one that names each element after the field at
its place (`named`), and what comes of the list is what comes of these members.

* **`read_list`** — a list that has no more elements than there are fields is read as its members are.
* **`read_longList`** — a longer one is refused, whatever its elements are.
-/

namespace ChatPanel.Json

variable {tokens : List Token} {text : List Char}

lemma nextElement_item {first : Bool} {v : Value}
    (h : Laid (comma first ++ (v.tokens ++ tokens)) text) :
    ∃ rest, nextElement .kept first text = .ok (.item, rest) ∧ Laid (v.tokens ++ tokens) rest := by
  cases first with
  | true => exact nextElement_first h
  | false => exact nextElement_comma h

/-- The members of these names that have the elements of a list as their values, one after another. -/
def inOrder (names : List String) (items : List Value) : List Member :=
  names.zipWith Member.mk items

namespace Schema

variable {schema : Schema}

/-- The members that the elements of a list stand for, if these are the fields to fill. -/
def named (fields : List schema.Field) (items : List Value) : List Member :=
  inOrder (fields.map schema.name) items

/-! ## Reading the elements -/

lemma readElements_close (fields : List schema.Field) (first : Bool) (found : schema.Found)
    (h : Laid (.mark ']' :: tokens) text) :
    ∃ rest, readElements fields first found text = .ok (found, rest) ∧ Laid tokens rest := by
  cases fields with
  | nil =>
      obtain ⟨rest, hskip, hrest⟩ := h.skipGap_mark
      exact ⟨rest, by simp [readElements, closeList, hskip, Except.map], hrest⟩
  | cons field fields =>
      obtain ⟨rest, hnext, hrest⟩ := @nextElement_close .kept _ _ first h
      exact ⟨rest, by simp [readElements, hnext, bind, Except.bind, pure, Except.pure], hrest⟩

/-- Behind the last field there may be no further element. -/
lemma readElements_nil_item {first : Bool} {found : schema.Found} {v : Value}
    (h : Laid (comma first ++ (v.tokens ++ tokens)) text) :
    ∃ fault, readElements [] first found text = .error fault := by
  have hne : ∀ rest, skipGap text ≠ ']' :: rest := by
    intro rest hskip
    cases first with
    | true =>
        obtain ⟨c, behind, hskip', hc⟩ := Laid.skipGap_value h
        rw [hskip] at hskip'
        cases hskip'
        exact hc.ne_close rfl
    | false =>
        obtain ⟨behind, hskip', -⟩ := Laid.skipGap_mark h
        rw [hskip] at hskip'
        cases hskip'
  have hclose : ∃ fault, closeList text = .error fault := by
    unfold closeList
    split
    · exact ⟨_, rfl⟩
    · next rest hskip => exact absurd hskip (hne rest)
    · split <;> exact ⟨_, rfl⟩
    · exact ⟨_, rfl⟩
  obtain ⟨fault, hfault⟩ := hclose
  exact ⟨fault, by simp [readElements, hfault, Except.map]⟩

lemma readElements_item {field : schema.Field} {fields : List schema.Field} {first : Bool}
    {found : schema.Found} {rest : List Char}
    (h : nextElement .kept first text = .ok (.item, rest)) :
    readElements (field :: fields) first found text
      = ((schema.kind field).read rest).bind fun (held, left) =>
          readElements fields false (found.put field held) left := by
  simp only [readElements, h, bind, Except.bind]

/-- **The elements of a list**, as far as there are fields for them. -/
theorem reads_readElements (hschema : schema.Distinct) {fields : List schema.Field}
    (hnodup : fields.Nodup) {items : List Value} (hlength : items.length ≤ fields.length)
    {first : Bool} {found : schema.Found} {members : List Member} (hfound : found.Collects members)
    (hfresh : ∀ field ∈ fields, found field = none)
    (h : Laid (itemsFrom first (Value.itemTokens items) ++ .mark ']' :: tokens) text) :
    Reads (members ++ named fields items) tokens (readElements fields first found text) := by
  -- the fields that are left to fill are fresh, and each element fills the first of them
  induction fields generalizing items first found members text with
  | nil =>
      obtain rfl : items = [] := List.length_eq_zero_iff.mp (Nat.le_zero.mp hlength)
      simp only [Value.itemTokens, itemsFrom_nil, List.nil_append] at h
      obtain ⟨rest, hread, hrest⟩ := readElements_close [] first found h
      rw [named, List.map_nil, inOrder, List.zipWith_nil_left, List.append_nil]
      exact .inl ⟨found, rest, hread, hfound, hrest⟩
  | cons field fields ih =>
      cases items with
      | nil =>
          simp only [Value.itemTokens, itemsFrom_nil, List.nil_append] at h
          obtain ⟨rest, hread, hrest⟩ :=
            readElements_close (field :: fields) first found h
          rw [named, inOrder, List.zipWith_nil_right, List.append_nil]
          exact .inl ⟨found, rest, hread, hfound, hrest⟩
      | cons item items =>
          simp only [Value.itemTokens, itemsFrom_cons, List.append_assoc] at h
          obtain ⟨rest, hnext, hrest⟩ := nextElement_item h
          obtain ⟨hnot, hnodup⟩ := List.nodup_cons.mp hnodup
          have hnone := hfresh field List.mem_cons_self
          have hname : schema.fieldOf (Member.mk (schema.name field) item).key = some field :=
            (hschema _ _).mpr (by simp [names])
          have hmore : members ++ named (field :: fields) (item :: items)
              = members ++ [⟨schema.name field, item⟩] ++ named fields items := by
            simp [named, inOrder]
          rw [readElements_item hnext, hmore]
          have hvalue := yields_read (schema.kind field) hrest (closes_groups _ _ _)
          cases hheld : (schema.kind field).held item with
          | none =>
              rw [hheld] at hvalue
              obtain ⟨fault, hread⟩ := hvalue
              rw [hread]
              have hrefuses := hfound.refuses_value hschema hname hnone hheld
              exact .inr ⟨⟨fault, rfl⟩, hrefuses.append _⟩
          | some held =>
              rw [hheld] at hvalue
              obtain ⟨left, hleft, hread⟩ := hvalue
              rw [hread]
              refine ih hnodup (Nat.le_of_succ_le_succ hlength)
                (hfound.put hschema hname hnone hheld) ?_ hleft
              intro other hother
              have hne : field ≠ other := by
                rintro rfl
                exact hnot hother
              rw [found.put_ne hne]
              exact hfresh other (List.mem_cons_of_mem _ hother)

/-- **An element too many** is a failure, whatever the elements in front of it are. -/
theorem readElements_long {fields : List schema.Field} {items : List Value}
    (hlength : fields.length < items.length) {first : Bool} (found : schema.Found)
    (h : Laid (itemsFrom first (Value.itemTokens items) ++ .mark ']' :: tokens) text) :
    ∃ fault, readElements fields first found text = .error fault := by
  induction fields generalizing items first found text with
  | nil =>
      cases items with
      | nil => cases hlength
      | cons item items =>
          simp only [Value.itemTokens, itemsFrom_cons, List.append_assoc] at h
          exact readElements_nil_item h
  | cons field fields ih =>
      cases items with
      | nil => cases hlength
      | cons item items =>
          simp only [Value.itemTokens, itemsFrom_cons, List.append_assoc] at h
          obtain ⟨rest, hnext, hrest⟩ := nextElement_item h
          rw [readElements_item hnext]
          have hvalue := yields_read (schema.kind field) hrest (closes_groups _ _ _)
          cases hheld : (schema.kind field).held item with
          | none =>
              rw [hheld] at hvalue
              obtain ⟨fault, hread⟩ := hvalue
              exact ⟨fault, by rw [hread]; rfl⟩
          | some held =>
              rw [hheld] at hvalue
              obtain ⟨left, hleft, hread⟩ := hvalue
              rw [hread]
              exact ih (Nat.lt_of_succ_lt_succ hlength) _ hleft

/-! ## Whole lists -/

lemma readRecord_list (schema : Schema) {items : List Value} (h : Laid (Value.list items).tokens text) :
    ∃ rest, schema.readRecord text = readElements schema.fields true schema.nothing rest ∧
      Laid (itemsFrom true (Value.itemTokens items) ++ [.mark ']']) rest := by
  simp only [Value.tokens] at h
  obtain ⟨rest, hskip, hrest⟩ := h.skipGap_mark
  refine ⟨rest, ?_, hrest⟩
  rw [readRecord, hskip]
  rfl

/-- **A list is read as its members are**, each named after the field at its place. -/
theorem read_list (hschema : schema.Distinct) (hnodup : schema.fields.Nodup) {items : List Value}
    (hlength : items.length ≤ schema.fields.length) {text : String} (h : IsList items text) :
    schema.ReadsAs (named schema.fields items) text := by
  obtain ⟨rest, hread, hrest⟩ := readRecord_list schema h
  apply readsAs_of_reads
  rw [hread]
  exact reads_readElements hschema hnodup hlength collects_nothing (fun _ _ => rfl) hrest

/-- **A list with more elements than there are fields is refused.** -/
theorem read_longList {items : List Value} (hlength : schema.fields.length < items.length)
    {text : String} (h : IsList items text) : ∃ error, schema.read text = .error error := by
  obtain ⟨rest, hread, hrest⟩ := readRecord_list schema h
  obtain ⟨fault, hfault⟩ := readElements_long hlength schema.nothing hrest
  refine ⟨fault.locate text.toList, ?_⟩
  simp [read, readWhole, hread, hfault, bind, Except.bind]

end Schema

end ChatPanel.Json
