import ChatPanel.Proofs.Json.Accepted.Records
import ChatPanel.Proofs.Json.Extended.Tokens
import ChatPanel.Proofs.Json.Records

/-!
# A record is read by what it consists of

The readers of values and of records, like those of tokens: what they have read once they read again
in any longer text.

* **`pass_longer`** — a value of any shape.  The induction is along the reader, and every step that
  it took it takes again, since each one leaves a rest for the steps behind it.
* `read_kind_longer`, `readMembers_longer`, `readElements_longer` — fields, and the two forms of a
  record.  A record ends at a bracket, so here nothing needs to be left.
* **`read_append`** — what comes of a whole text when more is put behind it: the same record if that
  is space, and otherwise a failure at the first character that is not.
-/

namespace ChatPanel.Json

variable {fate : Fate} {text rest left : List Char} {first : Bool}

/-! ## Values -/

lemma skipGap_eq_nil_iff : skipGap text = [] ↔ IsSpace text := by
  simp only [skipGap, List.dropWhile_eq_nil_iff, isGap_iff, IsSpace]

lemma skipGap_append_of_ne_nil (h : skipGap text ≠ []) (more : List Char) :
    skipGap (text ++ more) = skipGap text ++ more := by
  obtain ⟨c, rest, hskip⟩ := List.exists_cons_of_ne_nil h
  rw [skipGap_longer hskip, hskip, List.cons_append]

/-- The first character behind the gap is the same in a longer text. -/
lemma skipGap_longer_ne {c : Char} (h : skipGap text ≠ [])
    (hc : ∀ behind, skipGap text = c :: behind → False) (more behind : List Char) :
    skipGap (text ++ more) ≠ c :: behind := by
  obtain ⟨d, start, hstart⟩ := List.exists_cons_of_ne_nil h
  intro hskip
  rw [skipGap_longer hstart more] at hskip
  cases hskip
  exact hc start hstart

/-- **What was passed over once is passed over in any longer text**, if it left a rest. -/
theorem pass_longer {due : Due} {opened : List Bracket}
    (h : pass fate due opened text = .ok rest) (hrest : rest ≠ []) (more : List Char) :
    pass fate due opened (text ++ more) = .ok (rest ++ more) := by
  fun_induction pass fate due opened text with
  | case1 =>
      cases h
      rw [pass]
  | case2 => cases h
  | case3 first outer text behind hclose ih =>
      rw [pass_listClose (nextElement_longer hclose more)]
      exact ih h
  | case4 first outer text behind hitem ih =>
      rw [pass_listItem (nextElement_longer hitem more)]
      exact ih h
  | case5 => cases h
  | case6 first outer text behind hclose ih =>
      rw [pass_objectClose (nextMember_longer hclose more)]
      exact ih h
  | case7 => cases h
  | case8 first outer text behind hitem value hkey ih =>
      rw [pass_objectItem (nextMember_longer hitem more), passKey_longer hkey more]
      exact ih h
  | case9 => cases h
  | case10 opened text behind hskip hfull ih =>
      rw [pass_list (skipGap_longer hskip more), if_neg hfull]
      exact ih h
  | case11 => cases h
  | case12 opened text behind hskip hfull ih =>
      rw [pass_object (skipGap_longer hskip more), if_neg hfull]
      exact ih h
  | case13 => cases h
  | case14 opened text behind _ _ hscalar ih =>
      -- the scalar leaves at least what is left in the end, so it has ended
      have hlength := length_pass_lt h
      have hpos := List.length_pos_of_ne_nil hrest
      have hbehind : behind ≠ [] := by
        apply List.ne_nil_of_length_pos
        simp only [Due.rank] at hlength
        omega
      have hskip : skipGap text ≠ [] := by
        intro hnil
        rw [hnil] at hscalar
        cases hscalar
      have hlonger := passScalar_longer hscalar hbehind more
      rw [← skipGap_append_of_ne_nil hskip] at hlonger
      rw [pass_scalar hlonger]
      exact ih h

lemma passValue_longer (h : fate.passValue text = .ok rest) (hrest : rest ≠ [])
    (more : List Char) : fate.passValue (text ++ more) = .ok (rest ++ more) :=
  pass_longer h hrest more

lemma readValue_longer {found : Option (List Char)} (h : readValue text = .ok (found, left))
    (hleft : left ≠ []) (more : List Char) :
    readValue (text ++ more) = .ok (found, left ++ more) := by
  unfold readValue at h
  split at h
  · next behind hskip =>
      obtain ⟨⟨cs, behind'⟩, hread, heq⟩ := ok_of_map_eq_ok h
      cases heq
      simp [readValue, skipGap_longer hskip more, readText_longer hread more, Except.map]
  · next hquote =>
      obtain ⟨behind, hpass, heq⟩ := ok_of_map_eq_ok h
      cases heq
      have hlonger := passValue_longer hpass hleft more
      have hskip : skipGap text ≠ [] := by
        intro hnil
        rw [hnil] at hpass
        simp [Fate.passValue, pass, skipGap, passScalar] at hpass
      rw [← skipGap_append_of_ne_nil hskip] at hlonger
      rw [readValue]
      split
      · next hskip' => exact absurd hskip' (skipGap_longer_ne hskip hquote more _)
      · rw [hlonger]
        rfl

/-! ## Fields -/

lemma readString_longer {s : String} (h : readString text = .ok (s, left)) (more : List Char) :
    readString (text ++ more) = .ok (s, left ++ more) := by
  unfold readString at h
  split at h
  · next behind hskip =>
      obtain ⟨⟨cs, behind'⟩, hread, heq⟩ := ok_of_map_eq_ok h
      cases heq
      simp [readString, skipGap_longer hskip more, readText_longer hread more, Except.map]
  · cases h

lemma keyword_map_longer {α : Type} {ks : List Char} {a found : α}
    (h : ((keyword ks text).map fun left => (a, left)) = .ok (found, left)) (more : List Char) :
    ((keyword ks (text ++ more)).map fun left => (a, left)) = .ok (found, left ++ more) := by
  obtain ⟨behind, hword, heq⟩ := ok_of_map_eq_ok h
  cases heq
  simp [keyword_longer hword more, Except.map]

lemma readFlag_longer {value : Bool} (h : readFlag text = .ok (value, left)) (more : List Char) :
    readFlag (text ++ more) = .ok (value, left ++ more) := by
  unfold readFlag at h
  split at h
  · next hskip => simpa [readFlag, skipGap_longer hskip more] using keyword_map_longer h more
  · next hskip => simpa [readFlag, skipGap_longer hskip more] using keyword_map_longer h more
  · cases h

lemma readOptional_longer {found : Option String} (h : readOptional text = .ok (found, left))
    (more : List Char) : readOptional (text ++ more) = .ok (found, left ++ more) := by
  unfold readOptional at h
  split at h
  · next hskip => simpa [readOptional, skipGap_longer hskip more] using keyword_map_longer h more
  · next hnull =>
      obtain ⟨⟨s, behind⟩, hread, heq⟩ := ok_of_map_eq_ok h
      cases heq
      have hlonger := readString_longer hread more
      have hskip : skipGap text ≠ [] := by
        intro hnil
        rw [hnil] at hread
        cases hread
      rw [← skipGap_append_of_ne_nil hskip] at hlonger
      rw [readOptional]
      split
      · next hskip' => exact absurd hskip' (skipGap_longer_ne hskip hnull more _)
      · rw [hlonger]
        rfl

/-- **A field is read by what it consists of.** -/
theorem read_kind_longer {kind : Kind} {held : kind.Held} (h : kind.read text = .ok (held, left))
    (hleft : left ≠ []) (more : List Char) :
    kind.read (text ++ more) = .ok (held, left ++ more) := by
  cases kind with
  | flag => exact readFlag_longer h more
  | text => exact readString_longer h more
  | optionalText => exact readOptional_longer h more
  | lenientText =>
      obtain ⟨⟨found, behind⟩, hread, heq⟩ := ok_of_map_eq_ok h
      cases heq
      simp [Kind.read, readLenient, readValue_longer hread hleft more, Except.map]

/-! ## Records -/

namespace Schema

variable {schema : Schema} {found found' : schema.Found}

lemma readMember_longer (h : readMember found text = .ok (found', left)) (hleft : left ≠ [])
    (more : List Char) : readMember found (text ++ more) = .ok (found', left ++ more) := by
  simp only [readMember, bind, Except.bind, pure, Except.pure] at h
  split at h
  · cases h
  · next key hkey =>
      split at h
      · next hfield =>
          split at h
          · cases h
          · next behind hcolon =>
              split at h
              · cases h
              · next behind' hpass =>
                  cases h
                  simp [readMember, readText_longer hkey more, hfield, colon_longer hcolon more,
                    passValue_longer hpass hleft more, bind, Except.bind, pure, Except.pure]
      · next field hfield =>
          split at h
          · cases h
          · next hnone =>
              split at h
              · cases h
              · next behind hcolon =>
                  split at h
                  · cases h
                  · next held hread =>
                      cases h
                      simp [readMember, readText_longer hkey more, hfield, hnone,
                        colon_longer hcolon more, read_kind_longer hread hleft more, bind,
                        Except.bind, pure, Except.pure]

lemma readMembers_longer (h : readMembers first found text = .ok (found', left))
    (more : List Char) : readMembers first found (text ++ more) = .ok (found', left ++ more) := by
  fun_induction readMembers first found text with
  | case1 => cases h
  | case2 first found text rest hclose =>
      cases h
      exact readMembers_close _ (nextMember_longer hclose more)
  | case3 => cases h
  | case4 first found text rest hitem found'' behind hmember ih =>
      -- a closing brace still follows the member
      have hbehind : behind ≠ [] := by
        rintro rfl
        simp [readMembers, nextMember, skipGap] at h
      rw [readMembers_item found (nextMember_longer hitem more),
        readMember_longer hmember hbehind more]
      exact ih h

lemma closeList_longer (h : closeList text = .ok rest) (more : List Char) :
    closeList (text ++ more) = .ok (rest ++ more) := by
  unfold closeList at h
  split at h
  · cases h
  · next hskip =>
      cases h
      simp [closeList, skipGap_longer hskip more]
  · split at h <;> cases h
  · cases h

lemma readElements_longer {fields : List schema.Field}
    (h : readElements fields first found text = .ok (found', left)) (more : List Char) :
    readElements fields first found (text ++ more) = .ok (found', left ++ more) := by
  induction fields generalizing first found text with
  | nil =>
      obtain ⟨behind, hclose, heq⟩ := ok_of_map_eq_ok h
      cases heq
      simp [readElements, closeList_longer hclose more, Except.map]
  | cons field fields ih =>
      simp only [readElements, bind, Except.bind, pure, Except.pure] at h ⊢
      split at h
      · cases h
      · next step hstep =>
          rw [nextElement_longer hstep more]
          split at h
          · next behind =>
              cases h
              rfl
          · next behind =>
              split at h
              · cases h
              · next held hread =>
                  have hbehind : held.2 ≠ [] := by
                    intro hnil
                    rw [hnil] at h
                    cases fields <;>
                      simp [readElements, closeList, nextElement, skipGap, bind, Except.bind,
                        Except.map] at h
                  simp only [read_kind_longer hread hbehind more]
                  exact ih h

lemma readRecord_longer (h : schema.readRecord text = .ok (found, left)) (more : List Char) :
    schema.readRecord (text ++ more) = .ok (found, left ++ more) := by
  unfold readRecord at h
  split at h
  · next behind hskip =>
      simpa [readRecord, skipGap_longer hskip more] using readMembers_longer h more
  · next behind hskip =>
      simpa [readRecord, skipGap_longer hskip more] using readElements_longer h more
  · cases h

/-! ## Whole texts -/

/-- A record is read from a text if only space stands behind it. -/
lemma read_eq_ok_iff {text : String} :
    schema.read text = .ok found ↔
      ∃ rest, schema.readRecord text.toList = .ok (found, rest) ∧ IsSpace rest := by
  simp only [read, readWhole, bind, Except.bind, pure, Except.pure]
  cases hrecord : schema.readRecord text.toList with
  | error fault => simp
  | ok record =>
      obtain ⟨found', rest⟩ := record
      simp only [← skipGap_eq_nil_iff]
      cases hskip : skipGap rest <;> simp [hskip]

/-- **What comes of a text that has been read when more is put behind it.**  Space changes nothing,
and anything else is refused where it begins. -/
theorem read_append {text : String} (h : schema.read text = .ok found) (more : String) :
    schema.read (text ++ more)
      = match skipGap more.toList with
        | [] => .ok found
        | excess => .error ((Fault.next .excess excess).locate (text ++ more).toList) := by
  obtain ⟨rest, hrecord, hrest⟩ := read_eq_ok_iff.mp h
  have hlonger := readRecord_longer hrecord more.toList
  rw [← String.toList_append] at hlonger
  simp only [read, readWhole, hlonger, bind, Except.bind, pure, Except.pure,
    skipGap_append hrest]
  cases skipGap more.toList <;> rfl

end Schema

end ChatPanel.Json
