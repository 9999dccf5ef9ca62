import ChatPanel.Proofs.Conversation.Steps

/-!
# The service's side of a conversation

What the replies of a run have shown, told from the list of the replies alone.

**The rule.**  A notice is shown once: by the first reply that carries one to read, directly above
the text of that reply.  Every other reply shows its text and nothing else.  `serviceSide` states
the rule over the whole history of replies and looks at no state.

**The conversation.**  A conversation keeps a single flag instead.  `noticePhase_after` says what the
flag remembers, and `ServiceSide` says that this is enough:

* **`serviceSide_of_replies`** — every run that puts no entry in by hand shows the service's side
  of its replies, whatever was submitted between them and whatever failed.
-/

namespace ChatPanel

/-! ## The rule -/

/-- Is the entry an answer of the service?  A notice is none. -/
def Entry.isAnswer (entry : Entry) : Bool :=
  entry.sender = .bot ∧ entry.kind = .message

namespace Reply

/-- Does the reply carry a notice to read? -/
def carriesNotice (reply : Reply) : Bool :=
  match reply.loginNotice with
  | some text => text ≠ ""
  | none => false

lemma notice_eq (reply : Reply) :
    reply.notice = if reply.carriesNotice then some (reply.loginNotice.getD "") else none := by
  rw [notice, carriesNotice]
  cases reply.loginNotice with
  | none => rfl
  | some text => by_cases h : text = "" <;> simp [h]

end Reply

/-- The place of the first reply that carries a notice to read. -/
def firstNotice (replies : List Reply) : Option ℕ :=
  replies.findIdx? Reply.carriesNotice

/-- What the reply at a place of the history shows. -/
def showing (replies : List Reply) (place : ℕ) (reply : Reply) : List (Entry.Kind × String) :=
  if firstNotice replies = some place then
    [(.notice, reply.loginNotice.getD ""), (.message, reply.content.getD "")]
  else [(.message, reply.content.getD "")]

/-- What the replies of a history show, one after the other. -/
def serviceSide (replies : List Reply) : List (Entry.Kind × String) :=
  replies.zipIdx.flatMap fun (reply, place) => showing replies place reply

lemma firstNotice_append (replies : List Reply) (reply : Reply) :
    firstNotice (replies ++ [reply])
      = (firstNotice replies).or (if reply.carriesNotice then some replies.length else none) := by
  rw [firstNotice, List.findIdx?_append, firstNotice]
  by_cases h : reply.carriesNotice <;> simp [h]

lemma firstNotice_lt {replies : List Reply} {place : ℕ} (h : firstNotice replies = some place) :
    place < replies.length :=
  (List.findIdx?_eq_some_iff_getElem.mp h).1

lemma firstNotice_eq_none_iff {replies : List Reply} :
    firstNotice replies = none ↔ ∀ reply ∈ replies, reply.carriesNotice = false := by
  simp [firstNotice, List.findIdx?_eq_none_iff]

/-- A later reply does not change which of the earlier ones is the first. -/
lemma firstNotice_append_eq_iff {replies : List Reply} {reply : Reply} {place : ℕ}
    (h : place < replies.length) :
    firstNotice (replies ++ [reply]) = some place ↔ firstNotice replies = some place := by
  rw [firstNotice_append]
  cases hfirst : firstNotice replies with
  | some first => simp
  | none =>
      by_cases hcarries : reply.carriesNotice
      · simp [hcarries]; omega
      · simp [hcarries]

/-- The last reply is the first with a notice if it carries one and no earlier reply does. -/
lemma firstNotice_append_length_iff {replies : List Reply} {reply : Reply} :
    firstNotice (replies ++ [reply]) = some replies.length
      ↔ firstNotice replies = none ∧ reply.carriesNotice = true := by
  rw [firstNotice_append]
  cases hfirst : firstNotice replies with
  | some first =>
      have hlt := firstNotice_lt hfirst
      simp; omega
  | none => by_cases hcarries : reply.carriesNotice <;> simp [hcarries]

lemma serviceSide_append (replies : List Reply) (reply : Reply) :
    serviceSide (replies ++ [reply])
      = serviceSide replies ++ showing (replies ++ [reply]) replies.length reply := by
  simp only [serviceSide, List.zipIdx_append, List.flatMap_append]
  congr 1
  · refine List.flatMap_congr fun ⟨earlier, place⟩ hmem => ?_
    have hlt : place < replies.length := (List.mem_zipIdx' hmem).1
    simp only [showing, firstNotice_append_eq_iff hlt]
  · simp

namespace Conversation

/-! ## What the flag remembers -/

lemma replies_append (ops : List Op) (op : Op) :
    replies (ops ++ [op]) = replies ops ++ op.reply.toList := by
  rw [replies, List.filterMap_append]
  cases h : op.reply <;> simp [replies, h]

/-- The notice is pending as long as no reply has carried one to read. -/
lemma noticePhase_after (ops : List Op) :
    (after ops).noticePhase = if firstNotice (replies ops) = none then .pending else .shown := by
  induction ops using List.reverseRecOn with
  | nil => rfl
  | append_singleton ops op ih =>
      rw [after_append, noticePhase_perform, replies_append]
      cases hreply : op.reply with
      | none => simpa [hreply] using ih
      | some reply =>
          rw [Option.toList_some, firstNotice_append, Option.bind_some, dueNotice, ih,
            Reply.notice_eq]
          cases hfirst : firstNotice (replies ops) with
          | some first => simp
          | none => by_cases hcarries : reply.carriesNotice <;> simp [hcarries]

/-- The notice is due exactly with the first reply that carries one. -/
lemma dueNotice_after (ops : List Op) (reply : Reply) :
    (after ops).dueNotice reply
      = if firstNotice (replies ops ++ [reply]) = some (replies ops).length
        then some (reply.loginNotice.getD "") else none := by
  rw [dueNotice, noticePhase_after, Reply.notice_eq]
  simp only [firstNotice_append_length_iff]
  cases hfirst : firstNotice (replies ops) with
  | some first => simp
  | none => by_cases hcarries : reply.carriesNotice <;> simp [hcarries]

/-- What a reply adds, told by the history of replies. -/
lemma shown_after (ops : List Op) (reply : Reply) :
    ∃ id, (after ops).shown reply
      = (if firstNotice (replies ops ++ [reply]) = some (replies ops).length
          then [⟨(after ops).freshId, reply.loginNotice.getD "", .bot, .notice⟩] else [])
        ++ [⟨id, reply.content.getD "", .bot, .message⟩] := by
  simp only [shown, dueNotice_after]
  by_cases h : firstNotice (replies ops ++ [reply]) = some (replies ops).length
  · rw [if_pos h, if_pos h]
    exact ⟨(after ops).freshId + 1, rfl⟩
  · rw [if_neg h, if_neg h]
    exact ⟨(after ops).freshId, rfl⟩

/-! ## The statement -/

/-- What the entries of a run show of its replies. -/
structure ServiceSide (ops : List Op) : Prop where
  /-- The service's entries are the service's side of the replies. -/
  entries : ((after ops).entries.filter (·.sender = .bot)).map (fun entry => (entry.kind, entry.text))
    = serviceSide (replies ops)
  /-- Directly above the text of a reply stands its notice, if it is the first that carries one, and
  no notice otherwise.  The answers further up are those of the earlier replies. -/
  above : ∀ (i : ℕ) (reply : Reply), (replies ops)[i]? = some reply →
    ∃ above id below,
      (after ops).entries = above ++ ⟨id, reply.content.getD "", .bot, .message⟩ :: below ∧
      above.countP Entry.isAnswer = i ∧
      (firstNotice (replies ops) = some i →
        ∃ id, above.getLast? = some ⟨id, reply.loginNotice.getD "", .bot, .notice⟩) ∧
      (∀ entry, above.getLast? = some entry → entry.kind = .notice →
        firstNotice (replies ops) = some i)
  /-- There is one notice at most. -/
  once : (after ops).entries.countP (·.kind = .notice) ≤ 1
  /-- The flag is up exactly if a reply carried a notice to read. -/
  flag : (after ops).noticePhase = .shown ↔ ∃ reply ∈ replies ops, reply.carriesNotice = true
  /-- The flag is up exactly if a notice is shown. -/
  visible : (after ops).noticePhase = .shown ↔ ∃ entry ∈ (after ops).entries, entry.kind = .notice
  /-- An exchange that failed leaves the entries and the flag as they were. -/
  failed : ∀ (i : ℕ) (failure : Failure), ops[i]? = some (.conclude (.error failure)) →
    (after (ops.take (i + 1))).entries = (after (ops.take i)).entries ∧
    (after (ops.take (i + 1))).noticePhase = (after (ops.take i)).noticePhase

/-- No operation of the run puts an entry in by hand. -/
def Unscripted (ops : List Op) : Prop :=
  ∀ op ∈ ops, op.byHand = false

instance (ops : List Op) : Decidable (Unscripted ops) :=
  inferInstanceAs (Decidable (∀ op ∈ ops, op.byHand = false))

lemma unscripted_append {ops : List Op} {op : Op} (h : Unscripted (ops ++ [op])) :
    Unscripted ops ∧ op.byHand = false :=
  ⟨fun o hmem => h o (List.mem_append_left [op] hmem),
    h op (List.mem_append_right ops (List.mem_singleton.mpr rfl))⟩

/-- An operation without a reply adds nothing of the service's. -/
lemma sender_of_mem_added {c : Conversation} {op : Op} (h : op.reply = none)
    (hand : op.byHand = false) {entry : Entry} (hmem : entry ∈ c.added op) :
    entry.sender = .user ∧ entry.kind = .message := by
  rw [added_of_none h hand, List.mem_map] at hmem
  obtain ⟨text, _, rfl⟩ := hmem
  exact ⟨rfl, rfl⟩

/-- So nothing is among its entries that no message of the visitor is. -/
lemma filter_added {c : Conversation} {op : Op} (h : op.reply = none) (hand : op.byHand = false)
    {p : Entry → Bool} (hp : ∀ entry, entry.sender = .user → entry.kind = .message → ¬p entry) :
    (c.added op).filter p = [] := by
  refine List.filter_eq_nil_iff.mpr ?_
  intro entry hmem
  obtain ⟨hsender, hkind⟩ := sender_of_mem_added h hand hmem
  exact hp entry hsender hkind

/-- The service's entries, as a step adds to them. -/
lemma serviceEntries_perform (ops : List Op) {op : Op} (hand : op.byHand = false) :
    (((after ops).added op).filter (·.sender = .bot)).map (fun entry => (entry.kind, entry.text))
      = op.reply.elim [] fun reply => showing (replies ops ++ [reply]) (replies ops).length reply := by
  cases hreply : op.reply with
  | none =>
      rw [filter_added hreply hand (by simp +contextual)]
      rfl
  | some reply =>
      obtain ⟨id, hshown⟩ := shown_after ops reply
      rw [added_of_reply hreply, hshown]
      simp only [Option.elim, showing]
      split <;> rfl

lemma serviceEntries_after {ops : List Op} (h : Unscripted ops) :
    ((after ops).entries.filter (·.sender = .bot)).map (fun entry => (entry.kind, entry.text))
      = serviceSide (replies ops) := by
  induction ops using List.reverseRecOn with
  | nil => rfl
  | append_singleton ops op ih =>
      obtain ⟨hops, hop⟩ := unscripted_append h
      rw [after_append, entries_perform, List.filter_append, List.map_append, ih hops,
        serviceEntries_perform ops hop, replies_append]
      cases op.reply with
      | none => simp
      | some reply => rw [Option.elim, Option.toList_some, serviceSide_append]

/-- The answers are the texts of the replies. -/
lemma answers_after {ops : List Op} (h : Unscripted ops) :
    ((after ops).entries.filter Entry.isAnswer).map Entry.text = (replies ops).map Reply.body := by
  induction ops using List.reverseRecOn with
  | nil => rfl
  | append_singleton ops op ih =>
      obtain ⟨hops, hop⟩ := unscripted_append h
      rw [after_append, entries_perform, List.filter_append, List.map_append, ih hops,
        replies_append, List.map_append]
      congr 1
      cases hreply : op.reply with
      | none =>
          rw [filter_added hreply hop (by simp +contextual [Entry.isAnswer])]
          rfl
      | some reply =>
          rw [added_of_reply hreply, shown]
          split <;> rfl

lemma countP_isAnswer {ops : List Op} (h : Unscripted ops) :
    (after ops).entries.countP Entry.isAnswer = (replies ops).length := by
  have hlen := congrArg List.length (answers_after h)
  rwa [List.length_map, ← List.countP_eq_length_filter, List.length_map] at hlen

/-- A run does not end in a notice: what follows it came with it. -/
lemma getLast?_entries {ops : List Op} (h : Unscripted ops) {entry : Entry}
    (hlast : (after ops).entries.getLast? = some entry) : entry.kind = .message := by
  induction ops using List.reverseRecOn with
  | nil => cases hlast
  | append_singleton ops op ih =>
      obtain ⟨hops, hop⟩ := unscripted_append h
      rw [after_append, entries_perform, List.getLast?_append] at hlast
      cases hreply : op.reply with
      | none =>
          cases hadded : ((after ops).added op).getLast? with
          | none => exact ih hops (by simpa [hadded] using hlast)
          | some last =>
              rw [hadded, Option.some_or, Option.some.injEq] at hlast
              subst hlast
              exact (sender_of_mem_added hreply hop (List.mem_of_getLast? hadded)).2
      | some reply =>
          obtain ⟨id, hshown⟩ := shown_after ops reply
          rw [added_of_reply hreply, hshown, List.getLast?_concat, Option.some_or,
            Option.some.injEq] at hlast
          subst hlast
          rfl

/-- What stands directly above the text of a reply. -/
lemma exists_above {ops : List Op} (h : Unscripted ops) {i : ℕ} {reply : Reply}
    (hget : (replies ops)[i]? = some reply) :
    ∃ above id below,
      (after ops).entries = above ++ ⟨id, reply.content.getD "", .bot, .message⟩ :: below ∧
      above.countP Entry.isAnswer = i ∧
      (firstNotice (replies ops) = some i →
        ∃ id, above.getLast? = some ⟨id, reply.loginNotice.getD "", .bot, .notice⟩) ∧
      (∀ entry, above.getLast? = some entry → entry.kind = .notice →
        firstNotice (replies ops) = some i) := by
  induction ops using List.reverseRecOn with
  | nil => cases hget
  | append_singleton ops op ih =>
      obtain ⟨hops, hop⟩ := unscripted_append h
      rw [after_append, entries_perform]
      rw [replies_append] at hget ⊢
      cases hreply : op.reply with
      | none =>
          rw [hreply, Option.toList_none, List.append_nil] at hget
          obtain ⟨above, id, below, hentries, hrest⟩ := ih hops hget
          refine ⟨above, id, below ++ (after ops).added op, ?_, ?_⟩
          · rw [hentries, List.append_assoc, List.cons_append]
          · rwa [Option.toList_none, List.append_nil]
      | some last =>
          rw [hreply, Option.toList_some] at hget
          rw [Option.toList_some]
          by_cases hlt : i < (replies ops).length
          · -- an earlier reply: its entries stay, and so does its rank among the notices
            rw [List.getElem?_append_left hlt] at hget
            obtain ⟨above, id, below, hentries, hrest⟩ := ih hops hget
            refine ⟨above, id, below ++ (after ops).added op, ?_, ?_⟩
            · rw [hentries, List.append_assoc, List.cons_append]
            · simpa only [firstNotice_append_eq_iff hlt] using hrest
          · -- the reply of this very step
            have hi : i = (replies ops).length := by
              have := (List.getElem?_eq_some_iff.mp hget).1
              simp only [List.length_append, List.length_singleton] at this
              omega
            subst hi
            rw [List.getElem?_concat_length, Option.some.injEq] at hget
            subst hget
            obtain ⟨id, hshown⟩ := shown_after ops last
            rw [added_of_reply hreply, hshown, ← List.append_assoc]
            refine ⟨_, id, [], rfl, ?_, ?_, ?_⟩
            · rw [List.countP_append, countP_isAnswer hops]
              split <;> rfl
            · intro hfirst
              rw [if_pos hfirst]
              exact ⟨_, List.getLast?_concat⟩
            · intro entry hlast hkind
              by_contra hfirst
              rw [if_neg hfirst, List.append_nil] at hlast
              rw [getLast?_entries hops hlast] at hkind
              cases hkind

lemma countP_notice {ops : List Op} (h : Unscripted ops) :
    (after ops).entries.countP (·.kind = .notice)
      = if firstNotice (replies ops) = none then 0 else 1 := by
  induction ops using List.reverseRecOn with
  | nil => rfl
  | append_singleton ops op ih =>
      obtain ⟨hops, hop⟩ := unscripted_append h
      rw [after_append, entries_perform, List.countP_append, ih hops, replies_append]
      cases hreply : op.reply with
      | none =>
          rw [List.countP_eq_length_filter (l := (after ops).added op),
            filter_added hreply hop (by simp +contextual), Option.toList_none, List.append_nil]
          rfl
      | some reply =>
          obtain ⟨id, hshown⟩ := shown_after ops reply
          rw [added_of_reply hreply, hshown, Option.toList_some, List.countP_append]
          rw [firstNotice_append]
          cases hfirst : firstNotice (replies ops) with
          | some first =>
              have hlt := firstNotice_lt hfirst
              simp; omega
          | none => by_cases hcarries : reply.carriesNotice <;> simp [hcarries]

lemma noticePhase_eq_shown_iff (ops : List Op) :
    (after ops).noticePhase = .shown ↔ firstNotice (replies ops) ≠ none := by
  rw [noticePhase_after]
  by_cases h : firstNotice (replies ops) = none <;> simp [h]

/-- **The service's side of every run is that of its replies.** -/
theorem serviceSide_of_replies (ops : List Op) (h : Unscripted ops) : ServiceSide ops where
  entries := serviceEntries_after h
  above _ _ hget := exists_above h hget
  once := by
    rw [countP_notice h]
    split <;> omega
  flag := by
    simp only [noticePhase_eq_shown_iff, ne_eq, firstNotice_eq_none_iff, not_forall, exists_prop,
      Bool.not_eq_false]
  visible := by
    have hcount := countP_notice h
    rw [noticePhase_eq_shown_iff]
    constructor
    · intro hfirst
      rw [if_neg hfirst] at hcount
      obtain ⟨entry, hmem, hkind⟩ := List.countP_pos_iff.mp (hcount ▸ Nat.one_pos)
      exact ⟨entry, hmem, by simpa using hkind⟩
    · rintro ⟨entry, hmem, hkind⟩ hnone
      rw [if_pos hnone, List.countP_eq_zero] at hcount
      exact hcount entry hmem (by simpa using hkind)
  failed i failure hget := by
    rw [after_take_succ hget]
    exact ⟨by rw [entries_perform, added, List.append_nil], by rw [noticePhase_perform]; rfl⟩

/-- An empty notice and a failure do not use up the notice, and a reply without a question shows
it. -/
theorem serviceSide_notice_late :
    Unscripted [.submit "one", .conclude (.ok ⟨some "1", some ""⟩), .conclude (.error .unavailable),
        .receive ⟨none, some "Log in"⟩, .conclude (.ok ⟨some "2", some "Log in"⟩)] ∧
      ServiceSide [.submit "one", .conclude (.ok ⟨some "1", some ""⟩),
        .conclude (.error .unavailable), .receive ⟨none, some "Log in"⟩,
        .conclude (.ok ⟨some "2", some "Log in"⟩)] :=
  ⟨by decide, serviceSide_of_replies _ (by decide)⟩

end Conversation

end ChatPanel
