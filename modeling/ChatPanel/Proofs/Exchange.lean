import ChatPanel.Exchange
import ChatPanel.Proofs.Json.Held
import ChatPanel.Proofs.Json.Records

/-!
# What a reply says

The service's reply is an object of which two members matter.  Each of the two is read leniently: a
string counts, and any other value counts as no member at all.  So a reply fails only if a member is
repeated, or if its value cannot be held at all.

* `Reply.getD_gets_lenient` — what a member says.
* `Reply.IsReadable` — what the reader asks of the two members, and `Reply.WithinLimits` — what is
  enough for it.
* **`Reply.decode_of_isObject`** — the meaning of a reply, for every text that is an object: the order
  of the members, gaps between the tokens and members of other names have no part in it.
* `Reply.decode_near_greatest` — the limits end below the greatest binary64 value, as they have to.
-/

namespace ChatPanel.Reply

open Json

variable {members members' : List Member} {text : String}

/-! ## One member -/

/-- A member says what its value is, if that is a string. -/
lemma getD_gets_lenient {values : List Value} {found : Option (Option String)}
    (h : Kind.lenientText.gets values = some found) (s : String) :
    found.getD none = some s ↔ .string (some s.toList) ∈ values := by
  rcases gets_eq_some_iff.mp h with ⟨rfl, rfl⟩ | ⟨v, held, rfl, hheld, rfl⟩
  · simp
  · rw [Option.getD_some, List.mem_singleton, @eq_comm _ (Value.string _),
      ← held_lenientText_eq_some_some_iff, hheld]
    exact Option.some_inj.symm

/-! ## The whole reply -/

lemma distinct_schema : schema.Distinct := by
  have hall (field : Field) : field ∈ [Field.content, Field.loginNotice] := by
    cases field <;> decide
  exact Schema.distinct_of_nodup hall (by decide)

/-- The names of the members that matter. -/
def names : List String :=
  ["content", "not_auth_msg"]

/-- The two members occur once at most, and their values can be held. -/
def IsReadable (members : List Member) : Prop :=
  ∀ name ∈ names, (given [name] members).length ≤ 1 ∧
    ∀ v ∈ given [name] members, v.fits .kept 0 = true

/-- The two members occur once at most, and their values are within the limits. -/
def WithinLimits (members : List Member) : Prop :=
  ∀ name ∈ names, (given [name] members).length ≤ 1 ∧ ∀ v ∈ given [name] members, v.WithinLimits

/-- Whatever is within the limits is readable. -/
lemma WithinLimits.isReadable (h : WithinLimits members) : IsReadable members := by
  intro name hname
  obtain ⟨hlength, hvalues⟩ := h name hname
  exact ⟨hlength, fun v hv => Value.canBeHeld_iff.mp (hvalues v hv).canBeHeld⟩

/-- The reply has the strings that the members give, and nothing else. -/
structure Says (reply : Reply) (members : List Member) : Prop where
  content (s : String) :
    reply.content = some s ↔ .string (some s.toList) ∈ given ["content"] members
  loginNotice (s : String) :
    reply.loginNotice = some s ↔ .string (some s.toList) ∈ given ["not_auth_msg"] members

/-- What was read of the members is what they say. -/
lemma says_ofFound {found : schema.Found} (h : found.Collects members) :
    (ofFound found).Says members where
  content s := getD_gets_lenient (h Field.content) s
  loginNotice s := getD_gets_lenient (h Field.loginNotice) s

/-- What the record refuses is what is not readable. -/
lemma refuses_iff : schema.Refuses members ↔ ¬ IsReadable members := by
  constructor
  · rintro ⟨field, hfield⟩ hread
    have hname : field.name ∈ names := by cases field <;> simp [names, Field.name]
    obtain ⟨hlength, hfits⟩ := hread _ hname
    rcases gets_eq_none_iff.mp hfield with hmany | ⟨v, hv, hnone⟩
    · exact absurd hmany (Nat.not_lt.mpr hlength)
    · have hnot := held_lenientText_eq_none_iff.mp hnone
      exact absurd (hfits v hv) (by simp [hnot])
  · intro hread
    simp only [IsReadable, not_forall] at hread
    obtain ⟨name, hname, hbad⟩ := hread
    obtain ⟨field, rfl⟩ : ∃ field : Field, name = field.name := by
      simp only [names, List.mem_cons, List.not_mem_nil, or_false] at hname
      rcases hname with rfl | rfl
      · exact ⟨.content, rfl⟩
      · exact ⟨.loginNotice, rfl⟩
    refine ⟨field, gets_eq_none_iff.mpr ?_⟩
    rw [not_and_or, Nat.not_le] at hbad
    rcases hbad with hmany | hfits
    · exact .inl hmany
    · simp only [not_forall] at hfits
      obtain ⟨v, hv, hnot⟩ := hfits
      exact .inr ⟨v, hv, held_lenientText_eq_none_iff.mpr (by simpa using hnot)⟩

/-- A text that stands for these members is read as what they say, or no reply, as they are readable
or not. -/
lemma decode_of_readsAs (h : schema.ReadsAs members text) :
    (∃ reply, decode text = .ok reply ∧ reply.Says members) ∧ IsReadable members ∨
      (∃ reason, decode text = .error (.decode reason)) ∧ ¬ IsReadable members := by
  rcases h with ⟨found, hok, hfound⟩ | ⟨⟨error, hread⟩, hrefuses⟩
  · refine .inl ⟨⟨ofFound found, by rw [decode, hok], says_ofFound hfound⟩, ?_⟩
    by_contra hnot
    obtain ⟨field, hfield⟩ := refuses_iff.mpr hnot
    exact absurd ((hfound field).symm.trans hfield) (by simp)
  · exact .inr ⟨⟨error.message, by rw [decode, hread]⟩, refuses_iff.mp hrefuses⟩

lemma decode_readable (h : IsObject members text) (hread : IsReadable members) :
    ∃ reply, decode text = .ok reply ∧ reply.Says members := by
  rcases decode_of_readsAs (Schema.read_object distinct_schema h) with ⟨hok, -⟩ | ⟨-, hnot⟩
  · exact hok
  · exact absurd hread hnot

lemma decode_repeated (h : IsObject members text) {name : String} (hname : name ∈ names)
    (hmany : 1 < (given [name] members).length) :
    ∃ reason, decode text = .error (.decode reason) := by
  rcases decode_of_readsAs (Schema.read_object distinct_schema h) with ⟨-, hread⟩ | ⟨herror, -⟩
  · exact absurd (hread name hname).1 (Nat.not_le.mpr hmany)
  · exact herror

/-- Two objects with the same members of these names, in whatever order. -/
def SameMembers (members members' : List Member) : Prop :=
  (members'.filter fun member => member.key ∈ names).Perm
    (members.filter fun member => member.key ∈ names)

lemma SameMembers.given_perm (h : SameMembers members members') {name : String}
    (hname : name ∈ names) : (given [name] members').Perm (given [name] members) :=
  Json.given_perm (by simpa using hname) h

lemma SameMembers.isReadable (h : SameMembers members members') (hread : IsReadable members) :
    IsReadable members' := by
  intro name hname
  have hgiven := h.given_perm hname
  obtain ⟨hlength, hfits⟩ := hread name hname
  exact ⟨hgiven.length_eq ▸ hlength, fun v hv => hfits v (hgiven.mem_iff.mp hv)⟩

/-- The members determine what the reply says. -/
lemma Says.eq {reply reply' : Reply} (h : reply.Says members) (h' : reply'.Says members')
    (hsame : SameMembers members members') : reply' = reply := by
  have hcontent : reply'.content = reply.content := by
    ext s
    rw [h'.content, h.content, (hsame.given_perm (by simp [names])).mem_iff]
  have hnotice : reply'.loginNotice = reply.loginNotice := by
    ext s
    rw [h'.loginNotice, h.loginNotice, (hsame.given_perm (by simp [names])).mem_iff]
  cases reply
  cases reply'
  simp_all

/-- The replies that are read from a text are the ones that its members say. -/
lemma decode_eq_ok_iff (h : schema.ReadsAs members text) {reply : Reply} :
    decode text = .ok reply ↔ IsReadable members ∧ reply.Says members := by
  rcases decode_of_readsAs h with ⟨⟨reply', hok, hmeans⟩, hread⟩ | ⟨⟨reason, herror⟩, hnot⟩
  · rw [hok]
    constructor
    · intro heq
      cases heq
      exact ⟨hread, hmeans⟩
    · rintro ⟨-, hmeans'⟩
      rw [hmeans'.eq hmeans (.refl _)]
  · rw [herror]
    constructor
    · intro heq
      cases heq
    · rintro ⟨hread, -⟩
      exact absurd hread hnot

/-! ## A reply with a notice -/

lemma laid_notice : Laid [.mark ',', .string (some "not_auth_msg".toList), .mark ':',
    .string (some ['n']), .mark '}'] ",\"not_auth_msg\":\"n\"\x7d".toList := by
  have hend : Laid [] [] := .nil (by simp [IsSpace])
  have hstring : Laid [.string (some ['n']), .mark '}'] "\"n\"\x7d".toList :=
    (hend.mark (by decide)).string (@spelled_self ['n'] (by simp [IsPlain]))
  exact ((hstring.mark (by decide)).string (spelled_self (by simp [IsPlain]))).mark (by decide)

/-- A value under `content`, and a notice behind it. -/
lemma laid_content_notice {v : Value} (chars : List Char)
    (hv : ∀ tokens rest, Laid (.mark ',' :: tokens) rest →
      Laid (v.tokens ++ .mark ',' :: tokens) (chars ++ rest)) :
    Laid (.string (some "content".toList) :: .mark ':' :: (v.tokens ++
        [.mark ',', .string (some "not_auth_msg".toList), .mark ':', .string (some ['n']),
          .mark '}']))
      ("\"content\":".toList ++ (chars ++ ",\"not_auth_msg\":\"n\"\x7d".toList)) :=
  ((hv _ _ laid_notice).mark (by decide)).string (spelled_self (by simp [IsPlain]))

lemma isObject_content_notice {v : Value} (chars : List Char)
    (hv : ∀ tokens rest, Laid (.mark ',' :: tokens) rest →
      Laid (v.tokens ++ .mark ',' :: tokens) (chars ++ rest)) :
    IsObject [⟨"content", v⟩, ⟨"not_auth_msg", .string (some ['n'])⟩]
      (String.ofList ("\x7b\"content\":".toList ++
        (chars ++ ",\"not_auth_msg\":\"n\"\x7d".toList))) := by
  have hbrace : '{' ∈ marks := by decide
  have hmember := (laid_content_notice chars hv).mark hbrace
  simpa [IsObject, Value.tokens, Value.memberTokens, separated] using hmember

/-! ## The meaning of a reply -/

/-- **The meaning of a reply.**  A text that is an object is a reply if its two members occur once at
most and their values are within the limits, and exactly if the members are readable.  The reply is what
the two members say, and every text with the same two members is read as the same reply.  A text that
repeats one of them is no reply, whatever the values. -/
theorem decode_of_isObject {members : List Member} {text : String} (h : IsObject members text) :
    (WithinLimits members → ∃ reply, decode text = .ok reply) ∧
    ((∃ reply, decode text = .ok reply) ↔ IsReadable members) ∧
    (∀ reply, decode text = .ok reply → reply.Says members ∧
      ∀ members' text', SameMembers members members' → IsObject members' text' →
        decode text' = .ok reply) ∧
    ((∃ name ∈ names, 1 < (given [name] members).length) →
      ∃ reason, decode text = .error (.decode reason)) := by
  have hreads := Schema.read_object distinct_schema h
  have hread_of_readable (hread : IsReadable members) : ∃ reply, decode text = .ok reply := by
    obtain ⟨reply, hok, -⟩ := decode_readable h hread
    exact ⟨reply, hok⟩
  refine ⟨fun hlimits => hread_of_readable hlimits.isReadable, ⟨?_, hread_of_readable⟩, ?_, ?_⟩
  · rintro ⟨reply, hok⟩
    exact ((decode_eq_ok_iff hreads).mp hok).1
  · intro reply hok
    obtain ⟨hread, hmeans⟩ := (decode_eq_ok_iff hreads).mp hok
    refine ⟨hmeans, fun members' text' hsame h' => ?_⟩
    obtain ⟨reply', hok', hmeans'⟩ := decode_readable h' (hsame.isReadable hread)
    rw [hok', hmeans.eq hmeans' hsame]
  · rintro ⟨name, hname, hmany⟩
    exact decode_repeated h hname hmany

/-- A list counts as no answer if it is within the limits, and a member of another name is passed over,
although its number could not be held. -/
theorem decode_of_isObject_unknown :
    IsObject [⟨"a", .number ⟨false, ['1'], none, some (false, ['9', '9', '9'])⟩⟩,
        ⟨"content", .list [.number ⟨true, ['1'], some ['5'], some (false, ['3'])⟩, .object []]⟩,
        ⟨"not_auth_msg", .string (some ['n'])⟩]
      "\x7b\"a\":1e999, \"content\":[-1.5e3,\x7b\x7d],\"not_auth_msg\":\"n\"\x7d" ∧
    ∃ reply, decode
        "\x7b\"a\":1e999, \"content\":[-1.5e3,\x7b\x7d],\"not_auth_msg\":\"n\"\x7d" = .ok reply ∧
      reply.content = none ∧ reply.loginNotice = some "n" := by
  have hfar : Numeral.Written ⟨false, ['1'], none, some (false, ['9', '9', '9'])⟩ "1e999".toList :=
    .mk (.inr ⟨by simp [IsDigits], by simp⟩) .none (.some (.inl rfl) .none (by simp [IsDigits]))
  have hnear : Numeral.Written ⟨true, ['1'], some ['5'], some (false, ['3'])⟩ "-1.5e3".toList :=
    .mk (.inr ⟨by simp [IsDigits], by simp⟩) (.some (by simp [IsDigits]))
      (.some (.inl rfl) .none (by simp [IsDigits]))
  have hlist {tokens : List Json.Token} {rest : List Char} (h : Laid tokens rest) :
      Laid ((Value.list [.number ⟨true, ['1'], some ['5'], some (false, ['3'])⟩,
        .object []]).tokens ++ tokens) ("[-1.5e3,\x7b\x7d]".toList ++ rest) :=
    (((((h.mark (by decide)).mark (by decide)).mark (by decide)).mark (by decide)).token
      (.numeral hnear)).mark (by decide)
  have hcontent := laid_content_notice _ fun _ _ h => hlist h
  have hobject : IsObject [⟨"a", .number ⟨false, ['1'], none, some (false, ['9', '9', '9'])⟩⟩,
        ⟨"content", .list [.number ⟨true, ['1'], some ['5'], some (false, ['3'])⟩, .object []]⟩,
        ⟨"not_auth_msg", .string (some ['n'])⟩]
      "\x7b\"a\":1e999, \"content\":[-1.5e3,\x7b\x7d],\"not_auth_msg\":\"n\"\x7d" :=
    (((((hcontent.gap (by decide)).mark (by decide)).token (.numeral hfar)).mark (by decide)).string
      (@spelled_self ['a'] (by simp [IsPlain]))).mark (by decide)
  have hrange : Numeral.InRange ⟨true, ['1'], some ['5'], some (false, ['3'])⟩ :=
    @Numeral.inRange_of_le _ 4 (by decide) (by decide +kernel) (by decide)
  have hlistLimits : Value.WithinLimits
      (.list [.number ⟨true, ['1'], some ['5'], some (false, ['3'])⟩, .object []]) := by
    refine ⟨by decide, ?_, ?_⟩
    · simpa [Value.numerals, Value.itemsNumerals, Value.membersNumerals] using hrange
    · simp [Value.strings, Value.itemsStrings, Value.membersStrings]
  have htextLimits : Value.WithinLimits (.string (some ['n'])) :=
    ⟨by decide, by simp [Value.numerals], by simp [Value.strings]⟩
  have hlimits : WithinLimits [⟨"a", .number ⟨false, ['1'], none, some (false, ['9', '9', '9'])⟩⟩,
      ⟨"content", .list [.number ⟨true, ['1'], some ['5'], some (false, ['3'])⟩, .object []]⟩,
      ⟨"not_auth_msg", .string (some ['n'])⟩] := by
    intro name hname
    simp only [names, List.mem_cons, List.not_mem_nil, or_false] at hname
    rcases hname with rfl | rfl
    · simpa [given] using hlistLimits
    · simpa [given] using htextLimits
  obtain ⟨hread, -, hmeans, -⟩ := decode_of_isObject hobject
  obtain ⟨reply, hok⟩ := hread hlimits
  refine ⟨hobject, reply, hok, ?_, ((hmeans reply hok).1.loginNotice "n").mpr (by simp [given])⟩
  rw [Option.eq_none_iff_forall_ne_some]
  intro s hs
  simpa [given] using ((hmeans reply hok).1.content s).mp hs

/-- The greatest value is no bound for what is read: a number below it spoils a reply. -/
theorem decode_near_greatest :
    IsObject [⟨"content", .number .nearGreatest⟩, ⟨"not_auth_msg", .string (some ['n'])⟩]
      "\x7b\"content\":1.797693134862315708e308,\"not_auth_msg\":\"n\"\x7d" ∧
    Numeral.nearGreatest.magnitude < (2 ^ 53 - 1) * 2 ^ 971 ∧
    ∃ reason, decode "\x7b\"content\":1.797693134862315708e308,\"not_auth_msg\":\"n\"\x7d"
      = .error (.decode reason) := by
  have hwritten : Numeral.nearGreatest.Written "1.797693134862315708e308".toList :=
    .mk (.inr ⟨by simp [IsDigits], by simp⟩) (.some (by simp [IsDigits]))
      (.some (.inl rfl) .none (by simp [IsDigits]))
  have hobject : IsObject [⟨"content", .number .nearGreatest⟩,
        ⟨"not_auth_msg", .string (some ['n'])⟩]
      "\x7b\"content\":1.797693134862315708e308,\"not_auth_msg\":\"n\"\x7d" := by
    refine isObject_content_notice "1.797693134862315708e308".toList fun tokens rest h => ?_
    exact h.token (.numeral hwritten)
  refine ⟨hobject, Numeral.magnitude_nearGreatest_lt, ?_⟩
  rcases decode_of_readsAs (Schema.read_object distinct_schema hobject) with ⟨-, hread⟩ | ⟨herror, -⟩
  · have hfits := (hread "content" (by simp [names])).2
    simp [given, Value.fits, Numeral.isOk_value_nearGreatest] at hfits
  · exact herror

end ChatPanel.Reply
