import ChatPanel.Json.Record
import ChatPanel.Proofs.Json.Accepted.Tokens

/-!
# Only records are read

Whatever text a record is read from, it is an object or a list of the grammar: no other value, no
text behind the record, and nothing that only looks like one.

* `Remaining` — the tokens that the reader of a value still has to find: those of the value it stands
  at, and for every open bracket the further items and the closing one.
* **`spans_pass`** — the reader succeeds only where it finds them.  The induction is along the
  reader, whose open brackets turn back into the parts of a tree, one at each closing bracket.
* **`isObject_or_isList_of_read`** — the same for whole records, in either form.
-/

namespace ChatPanel.Json

variable {fate : Fate} {tokens : List Token} {text rest left : List Char} {first : Bool}

/-! ## Values -/

/-- The tokens of the items that follow inside a bracket, with their commas. -/
def itemsFrom (first : Bool) (groups : List (List Token)) : List Token :=
  if first then separated groups else groups.flatMap (.mark ',' :: ·)

lemma itemsFrom_nil (first : Bool) : itemsFrom first [] = [] := by
  cases first <;> rfl

lemma itemsFrom_cons (first : Bool) (group : List Token) (groups : List (List Token)) :
    itemsFrom first (group :: groups) = comma first ++ (group ++ itemsFrom false groups) := by
  cases first <;> simp [itemsFrom, comma, separated]

/-- The tokens that a reader inside these brackets still has to find. -/
inductive Remaining : Due → List Bracket → List Token → Prop where
  | none {first : Bool} : Remaining (.item first) [] []
  | value {opened : List Bracket} {tokens : List Token} (v : Value)
      (h : Remaining (.item false) opened tokens) : Remaining .value opened (v.tokens ++ tokens)
  | items {first : Bool} {outer : List Bracket} {tokens : List Token} (items : List Value)
      (h : Remaining (.item false) outer tokens) :
      Remaining (.item first) (.list :: outer)
        (itemsFrom first (Value.itemTokens items) ++ .mark ']' :: tokens)
  | members {first : Bool} {outer : List Bracket} {tokens : List Token}
      (members : List (Option (List Char) × Value)) (h : Remaining (.item false) outer tokens) :
      Remaining (.item first) (.object :: outer)
        (itemsFrom first (Value.memberTokens members) ++ .mark '}' :: tokens)

/-- One more item in front. -/
lemma Remaining.cons_item {outer : List Bracket} (h : Remaining .value (.list :: outer) tokens)
    (first : Bool) : Remaining (.item first) (.list :: outer) (comma first ++ tokens) := by
  cases h with
  | value v h =>
      cases h with
      | items items h =>
          have hcons := @Remaining.items first _ _ (v :: items) h
          rw [Value.itemTokens, itemsFrom_cons] at hcons
          simpa using hcons

/-- One more member in front. -/
lemma Remaining.cons_member {outer : List Bracket} (h : Remaining .value (.object :: outer) tokens)
    (first : Bool) (key : Option (List Char)) :
    Remaining (.item first) (.object :: outer)
      (comma first ++ ([.string key, .mark ':'] ++ tokens)) := by
  cases h with
  | value v h =>
      cases h with
      | members members h =>
          have hcons := @Remaining.members first _ _ ((key, v) :: members) h
          rw [Value.memberTokens, itemsFrom_cons] at hcons
          simpa using hcons

/-- The items behind an opening bracket make up a list. -/
lemma Remaining.open_list {opened : List Bracket}
    (h : Remaining (.item true) (.list :: opened) tokens) :
    Remaining .value opened (.mark '[' :: tokens) := by
  cases h with
  | items items h =>
      have hvalue := Remaining.value (.list items) h
      simpa [Value.tokens, itemsFrom] using hvalue

/-- The members behind an opening brace make up an object. -/
lemma Remaining.open_object {opened : List Bracket}
    (h : Remaining (.item true) (.object :: opened) tokens) :
    Remaining .value opened (.mark '{' :: tokens) := by
  cases h with
  | members members h =>
      have hvalue := Remaining.value (.object members) h
      simpa [Value.tokens, itemsFrom] using hvalue

/-- **The reader of a value succeeds only where the tokens are that it still has to find.** -/
theorem spans_pass {due : Due} {opened : List Bracket} (h : pass fate due opened text = .ok rest) :
    ∃ tokens, Remaining due opened tokens ∧ Spans tokens text rest := by
  fun_induction pass fate due opened text with
  | case1 =>
      cases h
      exact ⟨[], .none, .refl _⟩
  | case2 => cases h
  | case3 first outer text behind hclose ih =>
      obtain ⟨tokens, hremaining, hspans⟩ := ih h
      refine ⟨.mark ']' :: tokens, ?_, (spans_nextElement_close hclose).trans hspans⟩
      simpa [Value.itemTokens, itemsFrom_nil] using @Remaining.items first _ _ [] hremaining
  | case4 first outer text behind hitem ih =>
      obtain ⟨tokens, hremaining, hspans⟩ := ih h
      exact ⟨_, hremaining.cons_item first, (spans_nextElement_item hitem).trans hspans⟩
  | case5 => cases h
  | case6 first outer text behind hclose ih =>
      obtain ⟨tokens, hremaining, hspans⟩ := ih h
      refine ⟨.mark '}' :: tokens, ?_, (spans_nextMember_close hclose).trans hspans⟩
      simpa [Value.memberTokens, itemsFrom_nil] using
        @Remaining.members first _ _ [] hremaining
  | case7 => cases h
  | case8 first outer text behind hitem value hkey ih =>
      obtain ⟨tokens, hremaining, hspans⟩ := ih h
      obtain ⟨key, hkey⟩ := spans_passKey hkey
      exact ⟨_, hremaining.cons_member first key,
        (spans_nextMember_item hitem).trans (hkey.trans hspans)⟩
  | case9 => cases h
  | case10 opened text behind hskip _ ih =>
      obtain ⟨tokens, hremaining, hspans⟩ := ih h
      exact ⟨_, hremaining.open_list, (spans_mark (by decide) hskip).trans hspans⟩
  | case11 => cases h
  | case12 opened text behind hskip _ ih =>
      obtain ⟨tokens, hremaining, hspans⟩ := ih h
      exact ⟨_, hremaining.open_object, (spans_mark (by decide) hskip).trans hspans⟩
  | case13 => cases h
  | case14 opened text _ _ behind hscalar ih =>
      obtain ⟨tokens, hremaining, hspans⟩ := ih h
      obtain ⟨v, hv⟩ := spans_passScalar hscalar
      exact ⟨_, hremaining.value v, (hv.of_skipGap rfl).trans hspans⟩

theorem spans_passValue (h : fate.passValue text = .ok rest) :
    ∃ v : Value, Spans v.tokens text rest := by
  obtain ⟨tokens, hremaining, hspans⟩ := spans_pass h
  cases hremaining with
  | value v hremaining =>
      cases hremaining with
      | none => exact ⟨v, by simpa using hspans⟩

/-! ## Fields -/

lemma spans_readString {s : String} (h : readString text = .ok (s, left)) :
    ∃ v : Value, Spans v.tokens text left := by
  unfold readString at h
  split at h
  · next behind hskip =>
      obtain ⟨⟨cs, behind'⟩, hread, heq⟩ := ok_of_map_eq_ok h
      cases heq
      exact ⟨.string (some cs), (spans_readText hread).of_skipGap hskip⟩
  · cases h

lemma spans_keyword {ks behind : List Char} {c : Char} {α : Type} {a found : α}
    (hword : c :: ks ∈ keywords) (hskip : skipGap text = c :: behind)
    (h : ((keyword ks behind).map fun left => (a, left)) = .ok (found, left)) :
    Spans [.word (c :: ks)] text left := by
  obtain ⟨behind', hread, heq⟩ := ok_of_map_eq_ok h
  cases heq
  exact (spans_word hword hread).of_skipGap hskip

/-- **A field is read only where there is a value.** -/
theorem spans_read_kind {kind : Kind} {held : kind.Held} (h : kind.read text = .ok (held, left)) :
    ∃ v : Value, Spans v.tokens text left := by
  cases kind with
  | flag =>
      simp only [Kind.read, readFlag] at h
      split at h
      · next hskip => exact ⟨.flag true, spans_keyword (by decide) hskip h⟩
      · next hskip => exact ⟨.flag false, spans_keyword (by decide) hskip h⟩
      · cases h
  | text => exact spans_readString h
  | optionalText =>
      simp only [Kind.read, readOptional] at h
      split at h
      · next hskip => exact ⟨.null, spans_keyword (by decide) hskip h⟩
      · obtain ⟨⟨s, behind⟩, hread, heq⟩ := ok_of_map_eq_ok h
        cases heq
        obtain ⟨v, hv⟩ := spans_readString hread
        exact ⟨v, hv.of_skipGap rfl⟩
  | lenientText =>
      simp only [Kind.read, readLenient] at h
      obtain ⟨⟨found, behind⟩, hread, heq⟩ := ok_of_map_eq_ok h
      cases heq
      unfold readValue at hread
      split at hread
      · next hskip =>
          obtain ⟨⟨cs, behind'⟩, htext, heq⟩ := ok_of_map_eq_ok hread
          cases heq
          exact ⟨.string (some cs), (spans_readText htext).of_skipGap hskip⟩
      · obtain ⟨behind', hpass, heq⟩ := ok_of_map_eq_ok hread
        cases heq
        obtain ⟨v, hv⟩ := spans_passValue hpass
        exact ⟨v, hv.of_skipGap rfl⟩

/-! ## Records -/

namespace Schema

variable {schema : Schema} {found found' : schema.Found}

/-- The tokens of a member. -/
def memberGroup (member : Member) : List Token :=
  .string (some member.key.toList) :: .mark ':' :: member.value.tokens

lemma memberTokens_map (members : List Member) :
    Value.memberTokens (members.map fun member => (some member.key.toList, member.value))
      = members.map memberGroup := by
  induction members with
  | nil => rfl
  | cons member members ih =>
      rw [List.map_cons, Value.memberTokens, ih]
      rfl

lemma spans_readMember (h : readMember found text = .ok (found', left)) :
    ∃ member, Spans (memberGroup member) ('"' :: text) left := by
  simp only [readMember, bind, Except.bind, pure, Except.pure] at h
  split at h
  · cases h
  · next key hkey =>
      have hname : Spans [.string (some (String.ofList key.1).toList)] ('"' :: text) key.2 := by
        rw [String.toList_ofList]
        exact spans_readText hkey
      -- whether the key names a field or not, a colon and a value follow it
      have hbehind {behind : List Char} (hcolon : colon key.2 = .ok behind)
          (hvalue : ∃ v : Value, Spans v.tokens behind left) :
          ∃ member, Spans (memberGroup member) ('"' :: text) left := by
        obtain ⟨v, hv⟩ := hvalue
        exact ⟨⟨String.ofList key.1, v⟩, hname.trans ((spans_colon hcolon).trans hv)⟩
      split at h
      · split at h
        · cases h
        · next behind hcolon =>
            split at h
            · cases h
            · next behind' hpass =>
                cases h
                exact hbehind hcolon (spans_passValue hpass)
      · split at h
        · cases h
        · split at h
          · cases h
          · next behind hcolon =>
              split at h
              · cases h
              · next held hread =>
                  cases h
                  exact hbehind hcolon (spans_read_kind hread)

lemma spans_readMembers (h : readMembers first found text = .ok (found', left)) :
    ∃ members : List Member,
      Spans (itemsFrom first (members.map memberGroup) ++ [.mark '}']) text left := by
  fun_induction readMembers first found text with
  | case1 => cases h
  | case2 first found text rest hclose =>
      cases h
      refine ⟨[], ?_⟩
      rw [List.map_nil, itemsFrom_nil]
      exact spans_nextMember_close hclose
  | case3 => cases h
  | case4 first found text rest hitem found'' behind hmember ih =>
      obtain ⟨member, hspans⟩ := spans_readMember hmember
      obtain ⟨members, hmembers⟩ := ih h
      refine ⟨member :: members, ?_⟩
      rw [List.map_cons, itemsFrom_cons, List.append_assoc, List.append_assoc]
      exact (spans_nextMember_item hitem).trans (hspans.trans hmembers)

lemma spans_closeList (h : closeList text = .ok rest) : Spans [.mark ']'] text rest := by
  unfold closeList at h
  split at h
  · cases h
  · next hskip =>
      cases h
      exact spans_mark (by decide) hskip
  · split at h <;> cases h
  · cases h

lemma spans_readElements {fields : List schema.Field}
    (h : readElements fields first found text = .ok (found', left)) :
    ∃ items : List Value,
      Spans (itemsFrom first (Value.itemTokens items) ++ [.mark ']']) text left := by
  induction fields generalizing first found text with
  | nil =>
      obtain ⟨behind, hclose, heq⟩ := ok_of_map_eq_ok h
      cases heq
      exact ⟨[], by simpa [Value.itemTokens, itemsFrom_nil] using spans_closeList hclose⟩
  | cons field fields ih =>
      simp only [readElements, bind, Except.bind, pure, Except.pure] at h
      split at h
      · cases h
      · next step hstep =>
          split at h
          · next behind =>
              cases h
              exact ⟨[], by simpa [Value.itemTokens, itemsFrom_nil] using
                spans_nextElement_close hstep⟩
          · next behind =>
              split at h
              · cases h
              · next held hread =>
                  obtain ⟨v, hv⟩ := spans_read_kind hread
                  obtain ⟨items, hitems⟩ := ih h
                  refine ⟨v :: items, ?_⟩
                  rw [Value.itemTokens, itemsFrom_cons, List.append_assoc, List.append_assoc]
                  exact (spans_nextElement_item hstep).trans (hv.trans hitems)

/-- **A record is read only from a text that is an object or a list.** -/
theorem isObject_or_isList_of_read {text : String} (h : schema.read text = .ok found) :
    (∃ members, IsObject members text) ∨ ∃ items, IsList items text := by
  simp only [read, readWhole, bind, Except.bind, pure, Except.pure] at h
  split at h
  · next whole hwhole =>
      split at hwhole
      · cases hwhole
      · next record hrecord =>
          split at hwhole
          · next hend =>
              -- nothing but a gap stands behind the record
              have hgap : Laid [] record.2 := by
                apply spans_skipGap record.2
                rw [hend]
                exact .nil (by simp [IsSpace])
              unfold readRecord at hrecord
              split at hrecord
              · next behind hskip =>
                  obtain ⟨members, hmembers⟩ := spans_readMembers hrecord
                  left
                  refine ⟨members, ?_⟩
                  have hlaid := (spans_mark (by decide) hskip).trans hmembers [] hgap
                  simpa [IsObject, Value.tokens, memberTokens_map, itemsFrom] using hlaid
              · next behind hskip =>
                  obtain ⟨items, hitems⟩ := spans_readElements hrecord
                  right
                  refine ⟨items, ?_⟩
                  have hlaid := (spans_mark (by decide) hskip).trans hitems [] hgap
                  simpa [IsList, Value.tokens, itemsFrom] using hlaid
              · cases hrecord
          · cases hwhole
  · cases h

end Schema

end ChatPanel.Json
