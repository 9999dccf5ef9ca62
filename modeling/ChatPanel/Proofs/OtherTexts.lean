import ChatPanel.Conversation
import ChatPanel.Proofs.Exchange
import ChatPanel.Proofs.Json.Lists
import ChatPanel.Proofs.Settings

/-!
# Texts that are no objects

Replies and settings are written as objects.  What comes of any other text depends on whether it is a
list: no reader asks for an object in so many words, and a list is read by the places of its elements.

* `Reply.Refused`, `Settings.Refused` — the text is no reply, and adds nothing to a conversation; it
  is no settings record.
* `Reply.ByPlace`, `Settings.ByPlace` — the elements of a list are the members, in the order of the
  fields.
* **`refused_or_byPlace`** — a text that is neither an object nor a list is refused by both readers,
  and every list is read by place.
* `read_emptyList` — the empty list is a reply without an answer, and settings without a setting.
-/

namespace ChatPanel

open Json

variable {items : List Value} {members : List Member} {text : String}

/-! ## Refusal -/

/-- The text is no reply, and a conversation that is sent it has nothing more to show. -/
structure Reply.Refused (text : String) : Prop where
  failure : ∃ reason, decode text = .error (.decode reason)
  entries (c : Conversation) : (c.conclude (decode text)).2.entries = c.entries
  noticePhase (c : Conversation) : (c.conclude (decode text)).2.noticePhase = c.noticePhase

/-- The text is no settings record. -/
def Settings.Refused (text : String) : Prop :=
  ∃ error, read text = .error (.malformed error)

lemma Reply.refused_of_decode (h : ∃ reason, decode text = .error (.decode reason)) :
    Reply.Refused text := by
  obtain ⟨reason, hdecode⟩ := h
  refine ⟨⟨reason, hdecode⟩, fun c => ?_, fun c => ?_⟩
  all_goals
    rw [hdecode]
    rfl

lemma Reply.refused_of_read (h : ∃ error, schema.read text = .error error) : Reply.Refused text := by
  obtain ⟨error, hread⟩ := h
  exact refused_of_decode ⟨error.message, by rw [decode, hread]⟩

lemma Settings.refused_of_read (h : ∃ error, schema.read text = .error error) :
    Settings.Refused text := by
  obtain ⟨error, hread⟩ := h
  exact ⟨error, by rw [read, hread]⟩

/-! ## Neither an object nor a list -/

lemma Json.Schema.read_of_neither (schema : Schema) (hobject : ∀ members, ¬ IsObject members text)
    (hlist : ∀ items, ¬ IsList items text) : ∃ error, schema.read text = .error error := by
  cases hread : schema.read text with
  | error error => exact ⟨error, rfl⟩
  | ok found =>
      rcases Schema.isObject_or_isList_of_read hread with ⟨members, h⟩ | ⟨items, h⟩
      · exact absurd h (hobject members)
      · exact absurd h (hlist items)

lemma eq_of_skipGap_mark {c mark : Char} {tokens : List Json.Token} {chars rest : List Char}
    (h : Laid (.mark mark :: tokens) chars) (hskip : skipGap chars = c :: rest) : c = mark := by
  obtain ⟨behind, hmark, -⟩ := h.skipGap_mark
  rw [hskip] at hmark
  cases hmark
  rfl

/-- An object begins with a brace. -/
lemma not_isObject_of_skipGap {c : Char} {rest : List Char} (h : skipGap text.toList = c :: rest)
    (hc : c ≠ '{') : ¬ IsObject members text := by
  intro hobject
  simp only [IsObject, Value.tokens] at hobject
  exact hc (eq_of_skipGap_mark hobject h)

/-- A list begins with a bracket. -/
lemma not_isList_of_skipGap {c : Char} {rest : List Char} (h : skipGap text.toList = c :: rest)
    (hc : c ≠ '[') : ¬ IsList items text := by
  intro hlist
  simp only [IsList, Value.tokens] at hlist
  exact hc (eq_of_skipGap_mark hlist h)

/-- A value without parts is neither. -/
lemma neither_of_isScalar {v : Value} (hv : v.IsScalar) (h : Laid v.tokens text.toList) :
    (∀ members, ¬ IsObject members text) ∧ ∀ items, ¬ IsList items text := by
  rw [← List.append_nil v.tokens] at h
  obtain ⟨c, rest, hskip, hc⟩ := h.skipGap_value
  obtain ⟨hbracket, hbrace⟩ := hc.ne_open hv
  exact ⟨fun _ => not_isObject_of_skipGap hskip hbrace,
    fun _ => not_isList_of_skipGap hskip hbracket⟩

/-! ## Lists -/

/-- A list is a reply if it has no third element and the first two can be held, and they are its two
members.  Otherwise it is refused. -/
structure Reply.ByPlace (items : List Value) (text : String) : Prop where
  read (hlength : items.length ≤ names.length) (hread : IsReadable (inOrder names items)) :
    ∃ reply, decode text = .ok reply ∧ reply.Says (inOrder names items)
  refused (h : names.length < items.length ∨ ¬ IsReadable (inOrder names items)) :
    Reply.Refused text

/-- The first names of the settings, in their order. -/
def Settings.names : List String :=
  ["authenticated", "endpoint", "title", "disclaimer", "mount_selector"]

/-- A list gives the settings if it has no sixth element and every element is of the type that is asked
for at its place.  Otherwise it is refused. -/
structure Settings.ByPlace (items : List Value) (text : String) : Prop where
  read (hlength : items.length ≤ names.length) (hgood : ¬ IsMalformed (inOrder names items)) :
    ∃ settings, settings.Reflects (inOrder names items) ∧
      Settings.read text
        = if Text.trim settings.endpoint = "" then .error .blankEndpoint else .ok settings
  refused (h : names.length < items.length ∨ IsMalformed (inOrder names items)) :
    Settings.Refused text

lemma Reply.byPlace_of_isList (h : IsList items text) : Reply.ByPlace items text := by
  have hreads (hlength : items.length ≤ names.length) :
      schema.ReadsAs (inOrder names items) text :=
    Schema.read_list distinct_schema (by decide) hlength h
  constructor
  · intro hlength hread
    rcases decode_of_readsAs (hreads hlength) with ⟨hok, -⟩ | ⟨-, hnot⟩
    · exact hok
    · exact absurd hread hnot
  · intro hbad
    rcases Nat.lt_or_ge names.length items.length with hlong | hlength
    · exact refused_of_read (Schema.read_longList hlong h)
    · rcases decode_of_readsAs (hreads hlength) with ⟨-, hread⟩ | ⟨herror, -⟩
      · rcases hbad with hlong | hnot
        · omega
        · exact absurd hread hnot
      · exact refused_of_decode herror

lemma Settings.byPlace_of_isList (h : IsList items text) : Settings.ByPlace items text := by
  have hreads (hlength : items.length ≤ names.length) :
      schema.ReadsAs (inOrder names items) text :=
    Schema.read_list distinct_schema (by decide) hlength h
  constructor
  · intro hlength hgood
    rcases read_of_readsAs (hreads hlength) with ⟨⟨found, hfound, hread⟩, -⟩ | ⟨-, hbad⟩
    · exact ⟨ofFound found, reflects_ofFound hfound, hread⟩
    · exact absurd hbad hgood
  · intro hbad
    rcases Nat.lt_or_ge names.length items.length with hlong | hlength
    · exact refused_of_read (Schema.read_longList hlong h)
    · rcases read_of_readsAs (hreads hlength) with ⟨-, hgood⟩ | ⟨herror, -⟩
      · rcases hbad with hlong | hmalformed
        · omega
        · exact absurd hmalformed hgood
      · exact herror

/-! ## All texts but objects -/

/-- **What is no object.**  A text that is neither an object nor a list is refused by both readers, and
so it adds nothing to any conversation.  No value without parts is either.  A list is read by the
places of its elements, and refused only for what they are. -/
theorem refused_or_byPlace (text : String) :
    ((∀ members, ¬ IsObject members text) → (∀ items, ¬ IsList items text) →
      Reply.Refused text ∧ Settings.Refused text) ∧
    (∀ v : Value, v.IsScalar → Laid v.tokens text.toList →
      Reply.Refused text ∧ Settings.Refused text) ∧
    ∀ items, IsList items text → Reply.ByPlace items text ∧ Settings.ByPlace items text := by
  have hneither (hobject : ∀ members, ¬ IsObject members text) (hlist : ∀ items, ¬ IsList items text) :
      Reply.Refused text ∧ Settings.Refused text :=
    ⟨Reply.refused_of_read (Reply.schema.read_of_neither hobject hlist),
      Settings.refused_of_read (Settings.schema.read_of_neither hobject hlist)⟩
  refine ⟨hneither, fun v hv h => ?_, fun items h => ?_⟩
  · obtain ⟨hobject, hlist⟩ := neither_of_isScalar hv h
    exact hneither hobject hlist
  · exact ⟨Reply.byPlace_of_isList h, Settings.byPlace_of_isList h⟩

/-- A page and a keyword are refused, but a list with one string is an answer. -/
theorem refused_or_byPlace_answer :
    Reply.Refused "<html>" ∧ Settings.Refused "null" ∧
    IsList [.string (some ['h', 'i'])] "[\"hi\"]" ∧
    ∃ reply, Reply.decode "[\"hi\"]" = .ok reply ∧ reply.content = some "hi" := by
  have hpage : skipGap "<html>".toList = '<' :: "html>".toList := by decide
  have hend : Laid [] [] := .nil (by simp [IsSpace])
  have hnull : Laid Value.null.tokens "null".toList := hend.token (.word (by decide))
  have hlist : IsList [.string (some ['h', 'i'])] "[\"hi\"]" :=
    ((hend.mark (by decide)).string (@spelled_self ['h', 'i'] (by simp [IsPlain]))).mark (by decide)
  have hread : Reply.IsReadable (inOrder Reply.names [.string (some ['h', 'i'])]) := by
    simp [Reply.IsReadable, Reply.names, inOrder, given, Value.fits]
  refine ⟨?_, ?_, hlist, ?_⟩
  · exact ((refused_or_byPlace "<html>").1 (fun _ => not_isObject_of_skipGap hpage (by decide))
      fun _ => not_isList_of_skipGap hpage (by decide)).1
  · exact ((refused_or_byPlace "null").2.1 .null trivial hnull).2
  · obtain ⟨reply, hok, hmeans⟩ :=
      ((refused_or_byPlace "[\"hi\"]").2.2 _ hlist).1.read (by decide) hread
    exact ⟨reply, hok, (hmeans.content "hi").mpr (by simp [Reply.names, inOrder, given])⟩

/-- The empty list is no object, but it is a reply without an answer, and it leaves every setting at its
default. -/
theorem read_emptyList :
    (∀ members, ¬ IsObject members "[]") ∧ Reply.decode "[]" = .ok ⟨none, none⟩ ∧
      Settings.read "[]" = .ok Settings.default := by
  have hskip : skipGap "[]".toList = '[' :: [']'] := by decide
  refine ⟨fun _ => not_isObject_of_skipGap hskip (by decide), ?_, ?_⟩
  · rfl
  · rfl

end ChatPanel
