import ChatPanel.Proofs.Exchange

/-!
# Members of a type that nobody asked for

A reply's member that is no string counts as missing, but it has to be held before it can be dropped,
and not every value can be.  So such a member is either as good as `null`, or it spoils the whole
reply.

* `AllHeld` — the members that matter have values that can be held (`Value.CanBeHeld`).
* **`decode_of_other_type`** — the two cases, for every object that names each member once at most.
* `decode_out_of_range` — a number too large under `content` takes the notice away with it.
-/

namespace ChatPanel.Reply

open Json

variable {before after members : List Member} {field : Field} {v : Value} {text : String}

/-! ## One member in the place of another -/

/-- What a reply has of a member. -/
def under (reply : Reply) : Field → Option String
  | .content => reply.content
  | .loginNotice => reply.loginNotice

/-- No member is given more than once. -/
def NamesOnce (members : List Member) : Prop :=
  ∀ field : Field, (given [field.name] members).length ≤ 1

/-- Every member that matters can be held. -/
def AllHeld (members : List Member) : Prop :=
  ∀ field : Field, ∀ w ∈ given [field.name] members, w.CanBeHeld

lemma isReadable_iff : IsReadable members ↔ NamesOnce members ∧ AllHeld members := by
  have hnames (P : String → Prop) : (∀ name ∈ names, P name) ↔ ∀ field : Field, P field.name := by
    constructor
    · intro h field
      cases field <;> exact h _ (by simp [names, Field.name])
    · intro h
      simp only [names, List.mem_cons, List.not_mem_nil, or_false, forall_eq_or_imp, forall_eq]
      exact ⟨h .content, h .loginNotice⟩
  simp only [IsReadable, hnames, ← Value.canBeHeld_iff, NamesOnce, AllHeld, forall_and]

lemma Says.under_eq_some_iff {reply : Reply} (h : reply.Says members) (field : Field) (s : String) :
    reply.under field = some s ↔ .string (some s.toList) ∈ given [field.name] members := by
  cases field with
  | content => exact h.content s
  | loginNotice => exact h.loginNotice s

lemma given_middle (keys : List String) (member : Member) :
    given keys (before ++ member :: after)
      = given keys before ++ (given keys [member] ++ given keys after) := by
  rw [← given_append, ← given_append]
  rfl

lemma namesOnce_null : NamesOnce (before ++ ⟨field.name, v⟩ :: after) ↔
    NamesOnce (before ++ ⟨field.name, .null⟩ :: after) := by
  have hlength (keys : List String) : (given keys [⟨field.name, v⟩]).length
      = (given keys [⟨field.name, .null⟩]).length := by
    by_cases hmem : field.name ∈ keys <;> simp [given, hmem]
  simp only [NamesOnce, given_middle, List.length_append, hlength]

lemma allHeld_null (hv : v.CanBeHeld) : AllHeld (before ++ ⟨field.name, v⟩ :: after) ↔
    AllHeld (before ++ ⟨field.name, .null⟩ :: after) := by
  have hnull : Value.null.CanBeHeld := Value.canBeHeld_iff.mpr rfl
  have hmiddle (w : Value) (hw : w.CanBeHeld) :
      AllHeld (before ++ ⟨field.name, w⟩ :: after) ↔ AllHeld before ∧ AllHeld after := by
    have hsingle (other : Field) : ∀ u ∈ given [other.name] [⟨field.name, w⟩], u.CanBeHeld := by
      by_cases hmem : field.name = other.name <;> simp [given, hmem, hw]
    simp only [AllHeld, given_middle, List.forall_mem_append, forall_and]
    tauto
  rw [hmiddle v hv, hmiddle .null hnull]

/-- A string in the place of `null` makes an object neither more nor less readable. -/
lemma isReadable_string {cs : List Char} :
    IsReadable (before ++ ⟨field.name, .string (some cs)⟩ :: after) ↔
      IsReadable (before ++ ⟨field.name, .null⟩ :: after) := by
  have hcan : (Value.string (some cs)).CanBeHeld := Value.canBeHeld_iff.mpr (by simp [Value.fits])
  rw [isReadable_iff, isReadable_iff, namesOnce_null, allHeld_null hcan]

/-- A value that is no string says as much as `null`. -/
lemma says_null (hv : ∀ content, v ≠ .string content) {reply : Reply} :
    reply.Says (before ++ ⟨field.name, v⟩ :: after) ↔
      reply.Says (before ++ ⟨field.name, .null⟩ :: after) := by
  have hsame (keys : List String) (content : Option (List Char)) :
      Value.string content ∈ given keys (before ++ ⟨field.name, v⟩ :: after) ↔
        Value.string content ∈ given keys (before ++ ⟨field.name, .null⟩ :: after) := by
    have hsingle : Value.string content ∉ given keys [⟨field.name, v⟩] := by
      by_cases hmem : field.name ∈ keys
      · simpa [given, hmem] using (hv content).symm
      · simp [given, hmem]
    have hnull : Value.string content ∉ given keys [⟨field.name, .null⟩] := by
      by_cases hmem : field.name ∈ keys <;> simp [given, hmem]
    simp only [given_middle, List.mem_append, hsingle, hnull]
  constructor
  · intro h
    exact ⟨fun s => (h.content s).trans (hsame _ _), fun s => (h.loginNotice s).trans (hsame _ _)⟩
  · intro h
    exact ⟨fun s => (h.content s).trans (hsame _ _).symm,
      fun s => (h.loginNotice s).trans (hsame _ _).symm⟩

/-- What a member gives that is named once is its value. -/
lemma given_eq_singleton (honce : NamesOnce (before ++ ⟨field.name, v⟩ :: after)) :
    given [field.name] (before ++ ⟨field.name, v⟩ :: after) = [v] := by
  have hlength := honce field
  have hself : given [field.name] [⟨field.name, v⟩] = [v] := given_of_mem (by simp)
  simp only [given_middle, hself, List.length_append, List.length_singleton] at hlength ⊢
  have hbefore : given [field.name] before = [] := List.length_eq_zero_iff.mp (by omega)
  have hafter : given [field.name] after = [] := List.length_eq_zero_iff.mp (by omega)
  rw [hbefore, hafter]
  rfl

/-- What a reply has of a member that is given once is the string that is given. -/
lemma Says.under_eq_some_iff_of_namesOnce {reply : Reply} {cs : List Char}
    (h : reply.Says (before ++ ⟨field.name, .string (some cs)⟩ :: after))
    (honce : NamesOnce (before ++ ⟨field.name, .string (some cs)⟩ :: after)) (s : String) :
    reply.under field = some s ↔ s.toList = cs := by
  rw [h.under_eq_some_iff, given_eq_singleton honce, List.mem_singleton]
  simp

/-! ## The two cases -/

/-- **A member that is no string**, in an object that names each member once at most.  The text is a
reply if all the members that matter can be held.  If this one cannot, the text is none, whatever the
other is.  If it can, the text is read as the one that has `null` in its place, and the member is
missing from the reply. -/
theorem decode_of_other_type {before after : List Member} {field : Field} {v : Value}
    {text : String} (h : IsObject (before ++ ⟨field.name, v⟩ :: after) text)
    (honce : NamesOnce (before ++ ⟨field.name, v⟩ :: after)) (hv : ∀ content, v ≠ .string content) :
    ((∃ reply, decode text = .ok reply) ↔ AllHeld (before ++ ⟨field.name, v⟩ :: after)) ∧
    (¬ v.CanBeHeld → ∃ reason, decode text = .error (.decode reason)) ∧
    (v.CanBeHeld → ∀ text', IsObject (before ++ ⟨field.name, .null⟩ :: after) text' →
      (∀ reply, decode text = .ok reply ↔ decode text' = .ok reply) ∧
      ∀ reply, decode text = .ok reply → reply.under field = none) := by
  have hreads := Schema.read_object distinct_schema h
  refine ⟨?_, ?_, ?_⟩
  · rcases decode_of_readsAs hreads with ⟨⟨reply, hok, -⟩, hread⟩ | ⟨⟨reason, herror⟩, hnot⟩
    · exact iff_of_true ⟨reply, hok⟩ (isReadable_iff.mp hread).2
    · refine iff_of_false ?_ fun hheld => hnot (isReadable_iff.mpr ⟨honce, hheld⟩)
      rintro ⟨reply, hok⟩
      rw [herror] at hok
      cases hok
  · intro hnot
    rcases decode_of_readsAs hreads with ⟨-, hread⟩ | ⟨herror, -⟩
    · have hheld := (isReadable_iff.mp hread).2 field
      rw [given_eq_singleton honce] at hheld
      exact absurd (hheld v (List.mem_singleton_self v)) hnot
    · exact herror
  · intro hcan text' h'
    have hreads' := Schema.read_object distinct_schema h'
    constructor
    · intro reply
      rw [decode_eq_ok_iff hreads, decode_eq_ok_iff hreads', isReadable_iff, isReadable_iff,
        namesOnce_null, allHeld_null hcan, says_null hv]
    · intro reply hok
      have hmeans := ((decode_eq_ok_iff hreads).mp hok).2
      rw [Option.eq_none_iff_forall_ne_some]
      intro s hs
      rw [hmeans.under_eq_some_iff, given_eq_singleton honce, List.mem_singleton] at hs
      exact hv _ hs.symm

/-- A list counts as no answer, and the notice beside it is read. -/
theorem decode_of_other_type_list :
    IsObject [⟨"content", .list [.null]⟩, ⟨"not_auth_msg", .string (some ['n'])⟩]
      "\x7b\"content\":[null],\"not_auth_msg\":\"n\"\x7d" ∧
    ∃ reply, decode "\x7b\"content\":[null],\"not_auth_msg\":\"n\"\x7d" = .ok reply ∧
      reply.content = none ∧ reply.loginNotice = some "n" := by
  have hobject : IsObject [⟨"content", .list [.null]⟩, ⟨"not_auth_msg", .string (some ['n'])⟩]
      "\x7b\"content\":[null],\"not_auth_msg\":\"n\"\x7d" := by
    refine isObject_content_notice "[null]".toList fun tokens rest h => ?_
    exact ((h.mark (by decide)).token (.word (by decide))).mark (by decide)
  have hnull : IsObject [⟨"content", .null⟩, ⟨"not_auth_msg", .string (some ['n'])⟩]
      "\x7b\"content\":null,\"not_auth_msg\":\"n\"\x7d" := by
    refine isObject_content_notice "null".toList fun tokens rest h => ?_
    exact h.token (.word (by decide))
  have honce : NamesOnce [⟨"content", .list [.null]⟩, ⟨"not_auth_msg", .string (some ['n'])⟩] := by
    rintro (_ | _) <;> simp [given, Field.name]
  have hheld : AllHeld [⟨"content", .list [.null]⟩, ⟨"not_auth_msg", .string (some ['n'])⟩] := by
    rintro (_ | _) <;>
      simp [given, Field.name, Value.canBeHeld_iff, Value.fits, Value.itemsFit, deepest]
  obtain ⟨hreply, -, hcan⟩ :=
    @decode_of_other_type [] _ .content _ _ hobject honce (by simp)
  obtain ⟨reply, hok⟩ := hreply.mpr hheld
  have hcontent := (hcan (hheld .content _ (by simp [given, Field.name])) _ hnull).2 reply hok
  have hmeans := ((decode_eq_ok_iff (Schema.read_object distinct_schema hobject)).mp hok).2
  exact ⟨hobject, reply, hok, hcontent, (hmeans.loginNotice "n").mpr (by simp [given])⟩

/-- A number that is too large takes the notice away with it. -/
theorem decode_out_of_range :
    IsObject [⟨"content", .number ⟨false, ['1'], none, some (false, ['9', '9', '9'])⟩⟩,
        ⟨"not_auth_msg", .string (some ['n'])⟩]
      "\x7b\"content\":1e999,\"not_auth_msg\":\"n\"\x7d" ∧
    ∃ reason, decode "\x7b\"content\":1e999,\"not_auth_msg\":\"n\"\x7d"
      = .error (.decode reason) := by
  have hwritten : Numeral.Written ⟨false, ['1'], none, some (false, ['9', '9', '9'])⟩
      "1e999".toList :=
    .mk (.inr ⟨by simp [IsDigits], by simp⟩) .none (.some (.inl rfl) .none (by simp [IsDigits]))
  have hobject : IsObject [⟨"content", .number ⟨false, ['1'], none, some (false, ['9', '9', '9'])⟩⟩,
        ⟨"not_auth_msg", .string (some ['n'])⟩]
      "\x7b\"content\":1e999,\"not_auth_msg\":\"n\"\x7d" := by
    refine isObject_content_notice "1e999".toList fun tokens rest h => ?_
    exact h.token (.numeral hwritten)
  have hvalue : (Numeral.value ⟨false, ['1'], none, some (false, ['9', '9', '9'])⟩).isOk = false := by
    decide +kernel
  refine ⟨hobject, ?_⟩
  rcases decode_of_readsAs (Schema.read_object distinct_schema hobject) with ⟨-, hread⟩ | ⟨herror, -⟩
  · have hfits := (hread "content" (by simp [names])).2
    simp [given, Value.fits, hvalue] at hfits
  · exact herror

end ChatPanel.Reply
