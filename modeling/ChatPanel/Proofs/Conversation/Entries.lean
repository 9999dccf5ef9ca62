import ChatPanel.Proofs.Conversation.Steps
import Mathlib.Data.List.Nodup

/-!
# The entries only grow, and stand under their numbers

A view of a conversation keeps one row for each entry and tells the rows apart by their numbers.  It
relies on two things that no operation checks: a row that is there is never changed or moved, and no
number is used twice.

* `Grows` — what one operation does to the entries: the ones before stay where they are, and how many
  are added depends on the operation and on what it returned.
* `entries_take_isPrefix` — so the entries after some steps of a run stand in front of those at its end.
* `Numbered` — the invariant: the numbers in use are those below the next one, each once and in order.
* **`grows_of_step`** — after every step of every run, whatever operations it is made of, the entries
  have grown in this way, every number is the place of its entry, and every notice is the service's.

Operations come to the list by different routes and some add two entries at once.  What they share is
said by `added`: the new entries take the numbers from the next one on (`ids_added`).
-/

namespace ChatPanel.Conversation

/-! ## One operation -/

/-- The entries that are added take the numbers from the next one on. -/
lemma ids_added (c : Conversation) (op : Op) :
    (c.added op).map Entry.id = List.range' c.freshId (c.added op).length := by
  have hshown (reply : Reply) :
      (c.shown reply).map Entry.id = List.range' c.freshId (c.shown reply).length := by
    rw [shown]
    split <;> rfl
  cases op with
  | addMessage text sender => rfl
  | addNotice text => rfl
  | submit raw =>
      by_cases hblank : Text.trim raw = ""
      · simp [added, acceptedTexts_blank hblank]
      · simp [added, acceptedTexts_text hblank]
  | markSent => rfl
  | receive reply => exact hshown reply
  | conclude result =>
      cases result with
      | ok reply => exact hshown reply
      | error failure => rfl

/-- A notice that is added is the service's. -/
lemma sender_of_mem_added_of_notice {c : Conversation} {op : Op} {entry : Entry}
    (hmem : entry ∈ c.added op) (hkind : entry.kind = .notice) : entry.sender = .bot := by
  have hshown (reply : Reply) : ∀ entry ∈ c.shown reply, entry.sender = .bot := by
    intro entry hmem
    rw [shown] at hmem
    split at hmem
    · rcases List.mem_pair.mp hmem with rfl | rfl <;> rfl
    · obtain rfl := List.mem_singleton.mp hmem
      rfl
  cases op with
  | addMessage text sender =>
      obtain rfl := List.mem_singleton.mp hmem
      cases hkind
  | addNotice text =>
      obtain rfl := List.mem_singleton.mp hmem
      rfl
  | submit raw =>
      obtain ⟨text, _, rfl⟩ := List.mem_map.mp hmem
      cases hkind
  | markSent => cases hmem
  | receive reply => exact hshown reply entry hmem
  | conclude result =>
      cases result with
      | ok reply => exact hshown reply entry hmem
      | error failure => cases hmem

/-- How many entries an operation adds, told from what it returned. -/
def Adds : Op → Outcome → ℕ → Prop
  | .addMessage _ _, .added _, n => n = 1
  | .addNotice _, .added _, n => n = 1
  | .submit _, .verdict verdict, n => n = if verdict = .refused then 0 else 1
  | .markSent, .done, n => n = 0
  | .receive _, .done, n => n = 1 ∨ n = 2
  | .conclude (.ok _), .next _, n => n = 1 ∨ n = 2
  | .conclude (.error _), .next _, n => n = 0
  | _, _, _ => False

lemma adds_perform (c : Conversation) (op : Op) :
    Adds op (c.perform op).1 (c.added op).length := by
  have hshown (reply : Reply) : (c.shown reply).length = 1 ∨ (c.shown reply).length = 2 := by
    rw [shown]
    split
    · exact .inr rfl
    · exact .inl rfl
  cases op with
  | addMessage text sender => rfl
  | addNotice text => rfl
  | submit raw =>
      have hrefused : (c.submit raw).1 = .refused ↔ acceptedTexts [raw] = [] := by
        rw [← Outbox.accepted_eq_none_iff, fst_submit, Outbox.accepted_submit,
          List.head?_eq_none_iff]
      simp only [perform, Adds, added, List.length_map, hrefused]
      by_cases hblank : Text.trim raw = ""
      · simp [acceptedTexts_blank hblank]
      · simp [acceptedTexts_text hblank]
  | markSent => rfl
  | receive reply => exact hshown reply
  | conclude result =>
      cases result with
      | ok reply => exact hshown reply
      | error failure => rfl

/-- What an operation that returned something does to the entries. -/
structure Grows (before : Conversation) (op : Op) (outcome : Outcome) (last : Conversation) :
    Prop where
  /-- No entry is removed, changed or moved, and so many are added at the end. -/
  kept : ∃ more, last.entries = before.entries ++ more ∧ Adds op outcome more.length
  /-- A number that is returned is that of the last entry. -/
  returned : ∀ id, outcome = .added id →
    ∃ entry, last.entries.getLast? = some entry ∧ entry.id = id

lemma grows_perform (c : Conversation) (op : Op) :
    Grows c op (c.perform op).1 (c.perform op).2 where
  kept := ⟨c.added op, entries_perform c op, adds_perform c op⟩
  returned := by
    intro id hid
    rw [entries_perform]
    cases op with
    | addMessage text sender =>
        cases hid
        exact ⟨_, List.getLast?_concat, rfl⟩
    | addNotice text =>
        cases hid
        exact ⟨_, List.getLast?_concat, rfl⟩
    | _ => cases hid

/-! ## Every run -/

/-- A run keeps the entries of its beginning. -/
lemma entries_isPrefix_append (ops more : List Op) :
    (after ops).entries <+: (after (ops ++ more)).entries := by
  induction more using List.reverseRecOn with
  | nil => simp
  | append_singleton more op ih =>
      rw [← List.append_assoc, after_append, entries_perform]
      exact ih.trans (List.prefix_append _ _)

lemma entries_take_isPrefix (ops : List Op) (n : ℕ) :
    (after (ops.take n)).entries <+: (after ops).entries := by
  have hprefix := entries_isPrefix_append (ops.take n) (ops.drop n)
  rwa [List.take_append_drop] at hprefix

/-- The numbers in use are those below the next one, each of them once and in order. -/
def Numbered (c : Conversation) : Prop :=
  c.entries.map Entry.id = List.range c.freshId

lemma Numbered.perform {c : Conversation} (h : c.Numbered) (op : Op) :
    (c.perform op).2.Numbered := by
  rw [Numbered, entries_perform, freshId_perform, List.map_append, h, ids_added,
    List.range_eq_range', List.range_eq_range', ← List.range'_append_1, Nat.zero_add]

theorem numbered_after (ops : List Op) : (after ops).Numbered := by
  induction ops using List.reverseRecOn with
  | nil => rfl
  | append_singleton ops op ih =>
      rw [after_append]
      exact ih.perform op

lemma sender_of_notice_after {ops : List Op} {entry : Entry} (hmem : entry ∈ (after ops).entries)
    (hkind : entry.kind = .notice) : entry.sender = .bot := by
  induction ops using List.reverseRecOn with
  | nil => cases hmem
  | append_singleton ops op ih =>
      rw [after_append, entries_perform] at hmem
      rcases List.mem_append.mp hmem with hold | hnew
      · exact ih hold
      · exact sender_of_mem_added_of_notice hnew hkind

/-- The entries of a conversation as rows under their numbers. -/
structure Rows (c : Conversation) : Prop where
  /-- The next number is the number of entries. -/
  freshId : c.freshId = c.entries.length
  /-- Every entry has its place as its number. -/
  place : ∀ (i : ℕ) (entry : Entry), c.entries[i]? = some entry → entry.id = i
  /-- The numbers increase. -/
  increasing : (c.entries.map Entry.id).Pairwise (· < ·)
  /-- No two rows have the same number. -/
  distinct : (c.entries.map Entry.id).Nodup
  /-- A counter of 64 bits counts the same, as long as there are fewer entries than it can count. -/
  counter : c.entries.length < UInt64.size → (UInt64.ofNat c.freshId).toNat = c.freshId
  /-- Every notice is the service's. -/
  notice : ∀ entry ∈ c.entries, entry.kind = .notice → entry.sender = .bot

lemma rows_after (ops : List Op) : Rows (after ops) := by
  have hids := numbered_after ops
  rw [Numbered] at hids
  have hlength : (after ops).freshId = (after ops).entries.length := by
    have hlen := congrArg List.length hids
    rw [List.length_map, List.length_range] at hlen
    exact hlen.symm
  exact {
    freshId := hlength
    place := by
      intro i entry hget
      have hi : ((after ops).entries.map Entry.id)[i]? = some entry.id := by
        rw [List.getElem?_map, hget]
        rfl
      rw [hids] at hi
      simpa using (List.getElem?_eq_some_iff.mp hi).2.symm
    increasing := by
      rw [hids]
      exact List.pairwise_lt_range
    distinct := by
      rw [hids]
      exact List.nodup_range
    counter := by
      intro hlt
      rw [← hlength] at hlt
      exact UInt64.toNat_ofNat_of_lt' hlt
    notice := fun _ hmem hkind => sender_of_notice_after hmem hkind }

/-- **The entries only grow, and stand under their numbers**, after every step of every run. -/
theorem grows_of_step (ops : List Op) (i : ℕ) (outcome : Outcome) (c : Conversation)
    (hstep : (run ops)[i]? = some (outcome, c)) :
    ∃ op, ops[i]? = some op ∧ Grows (after (ops.take i)) op outcome c ∧ Rows c := by
  have hrows : Rows c := by
    rw [eq_after_of_getElem?_run hstep]
    exact rows_after (ops.take (i + 1))
  rw [run, getElem?_trace] at hstep
  obtain ⟨op, hop, hperform⟩ := Option.map_eq_some_iff.mp hstep
  have hgrows := grows_perform (after (ops.take i)) op
  rw [after, hperform] at hgrows
  exact ⟨op, hop, hgrows, hrows⟩

/-- A reply adds two entries behind one that was put in by hand. -/
theorem grows_notice_and_answer :
    (run [.addMessage "Hello" .bot, .markSent, .receive ⟨some "1", some "Log in"⟩])[2]?
        = some (.done, ⟨[⟨0, "Hello", .bot, .message⟩, ⟨1, "Log in", .bot, .notice⟩,
            ⟨2, "1", .bot, .message⟩], 3, .shown, .empty⟩) ∧
      ∃ op, [.addMessage "Hello" .bot, .markSent, .receive ⟨some "1", some "Log in"⟩][2]? = some op ∧
        Grows (after [.addMessage "Hello" .bot, .markSent]) op .done
          ⟨[⟨0, "Hello", .bot, .message⟩, ⟨1, "Log in", .bot, .notice⟩,
            ⟨2, "1", .bot, .message⟩], 3, .shown, .empty⟩ ∧
        Rows ⟨[⟨0, "Hello", .bot, .message⟩, ⟨1, "Log in", .bot, .notice⟩,
          ⟨2, "1", .bot, .message⟩], 3, .shown, .empty⟩ := by
  have hstep : (run [.addMessage "Hello" .bot, .markSent, .receive ⟨some "1", some "Log in"⟩])[2]?
      = some (.done, ⟨[⟨0, "Hello", .bot, .message⟩, ⟨1, "Log in", .bot, .notice⟩,
          ⟨2, "1", .bot, .message⟩], 3, .shown, .empty⟩) := by decide
  exact ⟨hstep, grows_of_step _ 2 _ _ hstep⟩

end ChatPanel.Conversation
