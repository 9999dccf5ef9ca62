import ChatPanel.Proofs.Exchange.OtherTypes
import ChatPanel.Proofs.Json.Encode
import ChatPanel.Proofs.Json.Members

/-!
# A message survives being written and read

Requests and replies are not written by the same side, but they meet in one place: what a request
writes for its message is a string like those of a reply.  A service that sends the message back
word for word, in whatever object of its own, therefore sends back the message.

**An echo is empty.**  A service that sends the whole request back sends an object whose only member
is no member of a reply.  The member is passed over by the reader that keeps nothing, and that reader
too has to find the end of the string, whatever quotes and braces the message holds.

* `literal` — what is written for a message.
* **`roundTrips_and_injective`** — it is read back as the message under either name and inside any
  reply, the echo of a request is an empty reply, and different messages make different requests.
-/

namespace ChatPanel.Request

open Json

/-- What a request writes for its message. -/
def literal (message : String) : String :=
  String.ofList (encodeText message.toList)

@[simp] lemma toList_literal (message : String) :
    (literal message).toList = encodeText message.toList :=
  String.toList_ofList

lemma toList_encode (message : String) :
    (Request.mk message).encode.toList
      = "\x7b\"message\":".toList ++ encodeText message.toList ++ ['}'] :=
  String.toList_ofList

lemma encode_eq (message : String) :
    (Request.mk message).encode = "\x7b\"message\":" ++ literal message ++ "\x7d" := by
  have hbrace : "\x7d".toList = ['}'] := rfl
  rw [← String.toList_inj, toList_encode, String.toList_append, String.toList_append, hbrace,
    toList_literal]

/-- What is written for a message is a string that stands for it. -/
lemma laid_literal (message : String) :
    Laid (Value.string (some message.toList)).tokens (literal message).toList := by
  have hend : Laid [] [] := .nil (by simp [IsSpace])
  simpa [Value.tokens] using hend.token (written_encodeText message.toList)

/-- An object with one member, without gaps, up to the value. -/
lemma laid_tokensBefore_nil (key : String) (h : ∀ c ∈ key.toList, IsPlain c) :
    Laid (tokensBefore [] key) ("\x7b\"" ++ key ++ "\":").toList := by
  have hend : Laid [] [] := .nil (by simp [IsSpace])
  have hkey := ((hend.mark (c := ':') (by decide)).string (spelled_self h)).mark (c := '{') (by decide)
  simpa [tokensBefore] using hkey

lemma laid_tokensBehind_nil : Laid (tokensBehind []) "\x7d".toList := by
  have hend : Laid [] [] := .nil (by simp [IsSpace])
  exact hend.mark (c := '}') (by decide)

/-- A request is an object with one member. -/
lemma isObject_encode (message : String) :
    IsObject [⟨"message", .string (some message.toList)⟩] (Request.mk message).encode := by
  have hfront := laid_tokensBefore_nil "message" (by simp [IsPlain])
  have hobject := isObject_of_parts hfront (laid_literal message) laid_tokensBehind_nil
  have htext : (Request.mk message).encode = String.ofList ("\x7b\"message\":".toList ++
      ((literal message).toList ++ "\x7d".toList)) := by
    rw [encode_eq, ← String.toList_inj, String.toList_ofList]
    simp
  rw [htext]
  exact hobject

/-! ## Reading back -/

/-- What becomes of a message that is written and read. -/
structure RoundTrips (message : String) : Prop where
  /-- The request holds the message and nothing else. -/
  encode_eq : (Request.mk message).encode = "\x7b\"message\":" ++ literal message ++ "\x7d"
  /-- Nothing in it is a control character. -/
  space_le : ∀ c ∈ (literal message).toList, ' ' ≤ c
  /-- A reply that gives it to one of its members, in whatever object, has the message there, and it
  says what its members say. -/
  read_back : ∀ (field : Reply.Field) (before after : List Member) (front behind : String),
    Laid (tokensBefore before field.name) front.toList →
    Laid (tokensBehind after) behind.toList →
    Reply.IsReadable (before ++ ⟨field.name, .null⟩ :: after) →
    ∃ reply, Reply.decode (front ++ literal message ++ behind) = .ok reply ∧
      reply.under field = some message ∧
      reply.Says (before ++ ⟨field.name, .string (some message.toList)⟩ :: after)
  /-- A request that is sent back is a reply without an answer and without a notice. -/
  echo : Reply.decode (Request.mk message).encode = .ok ⟨none, none⟩

lemma read_back_literal (message : String) {field : Reply.Field} {before after : List Member}
    {front behind : String} (hfront : Laid (tokensBefore before field.name) front.toList)
    (hbehind : Laid (tokensBehind after) behind.toList)
    (hread : Reply.IsReadable (before ++ ⟨field.name, .null⟩ :: after)) :
    ∃ reply, Reply.decode (front ++ literal message ++ behind) = .ok reply ∧
      reply.under field = some message ∧
      reply.Says (before ++ ⟨field.name, .string (some message.toList)⟩ :: after) := by
  have hobject := isObject_of_parts hfront (laid_literal message) hbehind
  have htext : String.ofList (front.toList ++ ((literal message).toList ++ behind.toList))
      = front ++ literal message ++ behind := by
    rw [← String.toList_inj]
    simp
  rw [htext] at hobject
  -- a string can be held, and so the object is as readable as with `null` in its place
  have hreadable : Reply.IsReadable
      (before ++ ⟨field.name, .string (some message.toList)⟩ :: after) :=
    Reply.isReadable_string.mpr hread
  have honce := (Reply.isReadable_iff.mp hreadable).1
  obtain ⟨reply, hok, hmeans⟩ := Reply.decode_readable hobject hreadable
  exact ⟨reply, hok, (hmeans.under_eq_some_iff_of_namesOnce honce message).mpr rfl, hmeans⟩

lemma decode_encode (message : String) :
    Reply.decode (Request.mk message).encode = .ok ⟨none, none⟩ := by
  have hread : Reply.IsReadable [⟨"message", .string (some message.toList)⟩] := by
    simp [Reply.IsReadable, Reply.names, given]
  refine (Reply.decode_eq_ok_iff (Schema.read_object Reply.distinct_schema
    (isObject_encode message))).mpr ⟨hread, ?_, ?_⟩ <;> simp [given]

lemma encode_injective : Function.Injective encode := by
  rintro ⟨message⟩ ⟨message'⟩ h
  have hliteral : encodeText message.toList = encodeText message'.toList := by
    rw [encode_eq, encode_eq, ← String.toList_inj] at h
    simpa using h
  rw [String.toList_inj.mp (encodeText_injective hliteral)]

/-- **A message survives being written and read**, and no two of them are written alike. -/
theorem roundTrips_and_injective :
    (∀ message, RoundTrips message) ∧ Function.Injective encode := by
  refine ⟨fun message => ⟨encode_eq message, ?_, ?_, decode_encode message⟩, encode_injective⟩
  · intro c hc
    exact space_le_of_mem_encodeText (by simpa using hc)
  · intro field before after front behind hfront hbehind hread
    exact read_back_literal message hfront hbehind hread

/-- A message that looks like the end of an object and a further member is still one message. -/
theorem roundTrips_quoted_member :
    ∃ reply, Reply.decode ("\x7b\"content\":" ++ literal "\",\"not_auth_msg\":\"\n" ++ "\x7d")
      = .ok reply ∧ reply.content = some "\",\"not_auth_msg\":\"\n" ∧ reply.loginNotice = none := by
  have hfront := laid_tokensBefore_nil "content" (by simp [IsPlain])
  have hread : Reply.IsReadable [⟨"content", .null⟩] := by
    simp [Reply.IsReadable, Reply.names, given, Value.fits]
  obtain ⟨reply, hok, hcontent, hmeans⟩ :=
    (roundTrips_and_injective.1 "\",\"not_auth_msg\":\"\n").read_back .content [] [] _ _ hfront
      laid_tokensBehind_nil hread
  refine ⟨reply, hok, hcontent, ?_⟩
  rw [Option.eq_none_iff_forall_ne_some]
  intro s hs
  simpa [given, Reply.Field.name] using (hmeans.loginNotice s).mp hs

end ChatPanel.Request
