import ChatPanel.Proofs.Json.Accepted.Records

/-!
# One member of an object

An object with a member picked out falls into three parts: the tokens up to the member's value, the
value, and the tokens behind it.  Each part may be laid out for itself, with gaps wherever there may
be any and with every key in any of its spellings, and put together they are the object
(`isObject_of_parts`).  So a way of writing a value can be looked at inside any object at all.
-/

namespace ChatPanel.Json

variable {tokens tokens' : List Token} {chars chars' : List Char}

/-- Texts that hold tokens hold them all when one is put behind the other. -/
lemma Laid.append (h : Laid tokens chars) (h' : Laid tokens' chars') :
    Laid (tokens ++ tokens') (chars ++ chars') := by
  induction h with
  | nil hspace =>
      -- the gap at the end of the first text goes in front of the second one
      rename_i space
      induction space with
      | nil => exact h'
      | cons c space ih =>
          obtain ⟨hc, hspace⟩ := List.forall_mem_cons.mp hspace
          exact (ih hspace).gap (isGap_iff.mpr hc)
  | cons hspace hchars _ ih =>
      rw [List.append_assoc, List.append_assoc]
      exact .cons hspace hchars ih

/-- The tokens of an object up to the value of a member: the members in front of it, and its key. -/
def tokensBefore (before : List Member) (key : String) : List Token :=
  .mark '{' :: (before.flatMap fun member => Schema.memberGroup member ++ [.mark ',']) ++
    [.string (some key.toList), .mark ':']

/-- The tokens of an object behind the value of a member. -/
def tokensBehind (after : List Member) : List Token :=
  (after.flatMap fun member => .mark ',' :: Schema.memberGroup member) ++ [.mark '}']

lemma separated_middle (groups groups' : List (List Token)) (group : List Token) :
    separated (groups ++ group :: groups')
      = groups.flatMap (· ++ [.mark ',']) ++ (group ++ groups'.flatMap (.mark ',' :: ·)) := by
  induction groups with
  | nil => rfl
  | cons first groups ih =>
      -- the comma is one behind the first group, and one in front of those that follow it
      have hshift : ((groups ++ group :: groups').flatMap (.mark ',' :: ·))
          = .mark ',' :: separated (groups ++ group :: groups') := by
        cases groups <;> simp [separated]
      rw [List.cons_append, separated, hshift, ih]
      simp

/-- **An object is put together from its parts**: what stands up to the value of a member, the value,
and what stands behind it. -/
theorem isObject_of_parts {before after : List Member} {key : String} {v : Value}
    {front value behind : List Char} (hfront : Laid (tokensBefore before key) front)
    (hvalue : Laid v.tokens value) (hbehind : Laid (tokensBehind after) behind) :
    IsObject (before ++ ⟨key, v⟩ :: after) (String.ofList (front ++ (value ++ behind))) := by
  have hlaid := hfront.append (hvalue.append hbehind)
  rw [IsObject, String.toList_ofList, Value.tokens, Schema.memberTokens_map, List.map_append,
    List.map_cons, separated_middle]
  simpa [tokensBefore, tokensBehind, Schema.memberGroup, List.flatMap_map] using hlaid

end ChatPanel.Json
