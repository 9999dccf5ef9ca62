import ChatPanel.Proofs.Exchange.OtherTypes
import ChatPanel.Proofs.Json.Encode
import ChatPanel.Proofs.Json.Members

/-!
# A reply does not depend on how it is spelled

Services write one and the same text in many ways: as it is, with letters behind backslashes, or with
`\u` escapes for whatever is not ASCII, in pairs above the basic plane.  The ways may be mixed from
one character to the next, and the name of a member may be written like that as well.

* `Gives` — the texts that are an object in which a member is given in certain spellings of its name
  and its value, with other members around it.
* **`decode_of_spelled`** — all these texts are read as one and the same reply, and no text is if what
  stands between the quotation marks spells something else.
-/

namespace ChatPanel.Reply

open Json

variable {before after : List Member} {field : Field} {key body : List Char} {text : String}

/-! ## A member in its spelling -/

/-- The tokens of an object up to the name of a member: the members in front of it. -/
def tokensUpTo (before : List Member) : List Json.Token :=
  .mark '{' :: before.flatMap fun member => Schema.memberGroup member ++ [.mark ',']

/-- The text is an object in which `key` and `body` stand between the quotation marks of a member's
name and of its value, with these members in front of it and behind it. -/
structure Gives (before : List Member) (key body : List Char) (after : List Member) (text : String) :
    Prop where
  exists_parts : ∃ front gap gap' behind : List Char,
    Laid (tokensUpTo before) front ∧ IsSpace gap ∧ IsSpace gap' ∧ Laid (tokensBehind after) behind ∧
    text.toList
      = front ++ ('"' :: (key ++ '"' :: (gap ++ ':' :: (gap' ++ ('"' :: body ++ ['"'] ++ behind)))))

/-- Such a text is an object with the member, if its name is spelled right. -/
lemma Gives.isObject (h : Gives before key body after text) (hkey : Spelled field.name.toList key)
    {content : Option (List Char)}
    (hvalue : (Json.Token.string content).Written ('"' :: body ++ ['"'])) :
    IsObject (before ++ ⟨field.name, .string content⟩ :: after) text := by
  obtain ⟨front, gap, gap', behind, hfront, hgap, hgap', hbehind, htext⟩ := h.exists_parts
  have hcolon : Laid [.mark ':'] (gap ++ ([':'] ++ gap')) :=
    .cons hgap (.mark (by decide)) (.nil hgap')
  have hname : Laid (tokensBefore before field.name)
      (front ++ ('"' :: (key ++ '"' :: (gap ++ ([':'] ++ gap'))))) :=
    hfront.append (hcolon.string hkey)
  have hend : Laid [] [] := .nil (by simp [IsSpace])
  have hstring : Laid (Value.string content).tokens ('"' :: body ++ ['"']) := by
    simpa [Value.tokens] using hend.token hvalue
  have hobject := isObject_of_parts hname hstring hbehind
  have hparts : String.ofList (front ++ ('"' :: (key ++ '"' :: (gap ++ ([':'] ++ gap')))) ++
      ('"' :: body ++ ['"'] ++ behind)) = text := by
    rw [← String.toList_inj, String.toList_ofList, htext]
    simp
  rwa [hparts] at hobject

/-! ## One reply for all spellings -/

/-- Members that can be read say something. -/
lemma exists_says {members : List Member} (h : IsReadable members) :
    ∃ reply : Reply, reply.Says members := by
  have hgets (field : Field) : ∃ found,
      (schema.kind field).gets (given (schema.names field) members) = some found := by
    by_contra hnone
    have hrefused := Option.eq_none_iff_forall_ne_some.mpr (not_exists.mp hnone)
    exact refuses_iff.mp ⟨field, hrefused⟩ h
  choose found hfound using hgets
  exact ⟨ofFound found, says_ofFound hfound⟩

/-- **A text survives every spelling.**  Whatever the other members of an object are, as long as they
do not spoil it, there is one reply for all ways to spell a text under the name of a member: it has
the text there, and says what the other members say.  If anything else stands between the quotation
marks, the object is not read as that reply. -/
theorem decode_of_spelled (field : Field) (t : String) (before after : List Member)
    (hread : IsReadable (before ++ ⟨field.name, .null⟩ :: after)) :
    ∃ reply : Reply, reply.under field = some t ∧
      reply.Says (before ++ ⟨field.name, .string (some t.toList)⟩ :: after) ∧
      ∀ (key body : List Char) (text : String), Spelled field.name.toList key →
        Gives before key body after text →
        (Spelled t.toList body → decode text = .ok reply) ∧
        (StringBody body → decode text = .ok reply → Spelled t.toList body) := by
  have hreadable (cs : List Char) :
      IsReadable (before ++ ⟨field.name, .string (some cs)⟩ :: after) := isReadable_string.mpr hread
  have honce (cs : List Char) := (isReadable_iff.mp (hreadable cs)).1
  obtain ⟨reply, hreply⟩ := exists_says (hreadable t.toList)
  have hunder : reply.under field = some t :=
    (hreply.under_eq_some_iff_of_namesOnce (honce _) t).mpr rfl
  refine ⟨reply, hunder, hreply, fun key body text hkey hgives => ⟨fun hbody => ?_, ?_⟩⟩
  · have hobject := hgives.isObject hkey (.text hbody)
    exact (decode_eq_ok_iff (Schema.read_object distinct_schema hobject)).mpr
      ⟨hreadable t.toList, hreply⟩
  · intro hbody hok
    by_cases hspelled : ∃ cs, Spelled cs body
    · -- the reply has what the string stands for, and that is the text
      obtain ⟨cs, hcs⟩ := hspelled
      have hobject := hgives.isObject hkey (.text hcs)
      have hmeans := ((decode_eq_ok_iff (Schema.read_object distinct_schema hobject)).mp hok).2
      rwa [(hmeans.under_eq_some_iff_of_namesOnce (honce cs) t).mp hunder]
    · -- a string that stands for nothing cannot be held
      have hobject := hgives.isObject hkey (.noText hbody (not_exists.mp hspelled))
      have hread' := ((decode_eq_ok_iff (Schema.read_object distinct_schema hobject)).mp hok).1
      obtain ⟨honce', hheld⟩ := isReadable_iff.mp hread'
      have hcan : (Value.string none).CanBeHeld := by
        apply hheld field
        rw [given_eq_singleton honce']
        exact List.mem_singleton_self _
      have hsome := hcan.strings none (by simp [Value.strings])
      simp at hsome

/-- A letter of the name by its number, and a text by a number, by a pair of numbers in digits of
both cases and by a letter behind a backslash. -/
theorem decode_of_spelled_mixed :
    IsReadable [⟨"content", .null⟩] ∧ Spelled "content".toList "\\u0063ontent".toList ∧
      Spelled "é😀/".toList "\\u00E9\\uD83d\\uDe00\\/".toList ∧
      ∃ reply : Reply, reply.content = some "é😀/" ∧ reply.loginNotice = none ∧
        decode "\x7b\"\\u0063ontent\": \"\\u00E9\\uD83d\\uDe00\\/\"\x7d" = .ok reply := by
  have hread : IsReadable [⟨"content", .null⟩] := by
    simp [IsReadable, names, given, Value.fits]
  have hquad (w x y z : Fin 16) (a b c d : Char)
      (h : ∀ p ∈ [(a, w), (b, x), (c, y), (d, z)],
        p.1 = hexChar p.2 ∨ p.1 = (hexChar p.2).toUpper) :
      Quad (((w.val * 16 + x) * 16 + y) * 16 + z) [a, b, c, d] := by
    simp only [List.forall_mem_cons] at h
    exact .mk ⟨w.2, h.1⟩ ⟨x.2, h.2.1⟩ ⟨y.2, h.2.2.1⟩ ⟨z.2, h.2.2.2.1⟩
  have hc : Spelling 'c' "\\u0063".toList := .unit (hquad 0 0 6 3 '0' '0' '6' '3' (by decide))
  have hkey : Spelled "content".toList "\\u0063ontent".toList :=
    .cons hc (@spelled_self "ontent".toList (by simp [IsPlain]))
  have hacute : Spelling 'é' "\\u00E9".toList := .unit (hquad 0 0 14 9 '0' '0' 'E' '9' (by decide))
  have hsmile : Spelling '😀' "\\uD83d\\uDe00".toList :=
    .pair (by decide) (by decide) (by decide) (hquad 13 8 3 13 'D' '8' '3' 'd' (by decide))
      (hquad 13 14 0 0 'D' 'e' '0' '0' (by decide))
  have hslash : Spelling '/' "\\/".toList := .short (by decide)
  have hbody : Spelled "é😀/".toList "\\u00E9\\uD83d\\uDe00\\/".toList :=
    .cons hacute (.cons hsmile (.cons hslash .nil))
  have hgives : Gives [] "\\u0063ontent".toList "\\u00E9\\uD83d\\uDe00\\/".toList []
      "\x7b\"\\u0063ontent\": \"\\u00E9\\uD83d\\uDe00\\/\"\x7d" := by
    have hend : Laid [] [] := .nil (by simp [IsSpace])
    exact ⟨['{'], [], [' '], ['}'], hend.mark (by decide), by simp [IsSpace], by simp [IsSpace],
      hend.mark (by decide), by decide⟩
  obtain ⟨reply, hcontent, hmeans, hread'⟩ := decode_of_spelled .content "é😀/" [] [] hread
  refine ⟨hread, hkey, hbody, reply, hcontent, ?_, (hread' _ _ _ hkey hgives).1 hbody⟩
  rw [Option.eq_none_iff_forall_ne_some]
  intro s hs
  simpa [given, Field.name] using (hmeans.loginNotice s).mp hs

end ChatPanel.Reply
