import ChatPanel.Proofs.Markup
import ChatPanel.View.Transcript

/-!
# What a browser reads out of the entries

* **`readMarkup_transcript`** — whatever the entries hold, a browser reads one block an entry, whose
  tag depends on the sender and the kind alone, and in it the entry's lines with one line break
  between two of them.  No text becomes a tag, and no line break comes out of a text.
* So two conversations are sent as the same text exactly if their entries look the same, one by one
  (`SameLook`).

The second half needs that the blocks can be told apart again.  A block ends at its first closing
tag, since its lines are texts and the line breaks are other tags (`cut_at_first`), and the lines of
a block are every second token of it (`lineTokens_inj`).
-/

namespace ChatPanel.View

/-! ## What the entries mean -/

/-- The lines of an entry as they are shown. -/
def visibleLines (entry : Entry) : List (List Char) :=
  entry.lines.map fun line => visible line.toList

/-- The tag that opens the block of an entry. -/
def blockTag : Sender → Entry.Kind → String
  | .user, .message => "div class=\"user-message\" style=\";\""
  | .bot, .message => "div class=\"bot-message\" style=\";\""
  | .user, .notice => "div class=\"user-message\" style=\"color: #E2694F;;\""
  | .bot, .notice => "div class=\"bot-message\" style=\"color: #E2694F;;\""

/-- The tag that closes a block. -/
def blockEnd : Token :=
  .tag "/div".toList

/-- The lines of an entry, with a line break between two of them. -/
def lineTokens (entry : Entry) : List Token :=
  ((visibleLines entry).map Token.text).intersperse (.tag "br".toList)

/-- What a browser is to read for an entry. -/
def entryTokens (entry : Entry) : List Token :=
  .tag (blockTag entry.sender entry.kind).toList :: lineTokens entry ++ [blockEnd]

/-- What a browser is to read for the entries of a conversation. -/
def transcriptTokens (c : Conversation) : List Token :=
  .tag "div class=\"messages\"".toList :: c.entries.flatMap entryTokens ++ [blockEnd]

/-- Do two entries look the same?  Their numbers may differ, and so may what their texts hold as
long as the lines show the same. -/
structure SameLook (first second : Entry) : Prop where
  styleClass : first.styleClass = second.styleClass
  notice : first.kind = .notice ↔ second.kind = .notice
  lines : visibleLines first = visibleLines second

/-! ## The page is written as meant -/

/-- Texts with an empty element between two of them. -/
lemma tokensAll_intersperse (tag : String) (lines : List String) :
    Node.tokensAll ((lines.map Node.text).intersperse (.void tag [])) =
      ((lines.map fun line => visible line.toList).map Token.text).intersperse
        (.tag tag.toList) := by
  induction lines with
  | nil => rfl
  | cons line rest ih =>
      cases rest with
      | nil => rfl
      | cons next more =>
          simp only [List.map_cons, List.intersperse_cons_cons, Node.tokensAll, Node.tokens] at ih ⊢
          rw [ih]
          simp [tagContent]

/-- The tag of an entry's block. -/
lemma tagContent_entry (e : Entry) :
    tagContent "div" [.value "class" e.styleClass, .style (entryStyle e)] =
      (blockTag e.sender e.kind).toList := by
  obtain ⟨id, text, sender, kind⟩ := e
  cases sender <;> cases kind <;>
    simp [tagContent, Attribute.chars, Entry.styleClass, entryStyle, Entry.color, warningColor,
      blockTag]

lemma tokens_entry (e : Entry) : (entry e).tokens = entryTokens e := by
  rw [entry, Node.tokens, tagContent_entry, tokensAll_intersperse]
  rfl

lemma tokens_transcript (c : Conversation) : (transcript c).tokens = transcriptTokens c := by
  rw [transcript, Node.tokens, Node.tokensAll_eq_flatMap, List.flatMap_map]
  simp only [tokens_entry]
  rfl

/-! ## The page can be read back -/

/-- Two lines have a line break between them. -/
lemma isChain_apart_intersperse (tag : String) (lines : List String) :
    ((lines.map Node.text).intersperse (.void tag [])).IsChain Node.Apart := by
  induction lines with
  | nil => exact .nil
  | cons line rest ih =>
      cases rest with
      | nil => exact .singleton _
      | cons next more => exact .cons_cons (.inr rfl) (List.isChain_cons.mpr ⟨fun _ _ => .inl rfl, ih⟩)

lemma mem_of_mem_intersperse {α : Type} {between a : α} {list : List α}
    (h : a ∈ list.intersperse between) : a = between ∨ a ∈ list := by
  induction list with
  | nil => exact .inr h
  | cons first rest ih =>
      cases rest with
      | nil => exact .inr h
      | cons next more =>
          rw [List.intersperse_cons_cons] at h
          rcases List.mem_cons.mp h with rfl | h
          · exact .inr List.mem_cons_self
          rcases List.mem_cons.mp h with rfl | h
          · exact .inl rfl
          · exact (ih h).imp_right (List.mem_cons_of_mem _)

lemma isClosed_entry (e : Entry) :
    IsClosed "div" [.value "class" e.styleClass, .style (entryStyle e)] := by
  obtain ⟨id, text, sender, kind⟩ := e
  cases sender <;> cases kind <;>
    simp [Attribute.chars, Entry.styleClass, entryStyle, Entry.color, warningColor]

lemma tidy_entry (e : Entry) : (entry e).Tidy := by
  refine ⟨isClosed_entry e, isChain_apart_intersperse "br" e.lines, Node.tidyAll_iff.mpr ?_⟩
  intro node hmem
  rcases mem_of_mem_intersperse hmem with rfl | hline
  · simp
  · obtain ⟨line, _, rfl⟩ := List.mem_map.mp hline
    trivial

lemma tidy_transcript (c : Conversation) : (transcript c).Tidy := by
  have hentries {node : Node} (hmem : node ∈ c.entries.map entry) :
      node.isText = false ∧ node.Tidy := by
    obtain ⟨e, _, rfl⟩ := List.mem_map.mp hmem
    exact ⟨rfl, tidy_entry e⟩
  refine ⟨by simp [Attribute.chars], Node.isChain_apart fun _ hmem => (hentries hmem).1,
    Node.tidyAll_iff.mpr fun _ hmem => (hentries hmem).2⟩

lemma legible_transcriptTokens (c : Conversation) : Legible (transcriptTokens c) := by
  rw [← tokens_transcript]
  exact Node.legible_tokens (tidy_transcript c)

/-! ## Blocks can be told apart -/

/-- Lists that are equal are equal up to the first place where something stands, and after it. -/
lemma cut_at_first {α : Type} {mark : α} {first second : List α} {more others : List α}
    (hfirst : mark ∉ first) (hsecond : mark ∉ second)
    (h : first ++ mark :: more = second ++ mark :: others) : first = second ∧ more = others := by
  induction first generalizing second with
  | nil =>
      cases second with
      | nil => exact ⟨rfl, (List.cons.inj h).2⟩
      | cons other rest => exact absurd (List.cons.inj h).1 (List.ne_of_not_mem_cons hsecond)
  | cons a first ih =>
      cases second with
      | nil => exact absurd (List.cons.inj h).1.symm (List.ne_of_not_mem_cons hfirst)
      | cons other rest =>
          obtain ⟨rfl, htail⟩ := List.cons.inj h
          obtain ⟨rfl, hmore⟩ := ih (List.not_mem_of_not_mem_cons hfirst)
            (List.not_mem_of_not_mem_cons hsecond) htail
          exact ⟨rfl, hmore⟩

/-- What stands between two lines is not lost, and neither are the lines. -/
lemma intersperse_inj {α : Type} {between : α} {first second : List α}
    (h : first.intersperse between = second.intersperse between) : first = second := by
  refine List.ext_getElem? fun i => ?_
  have hnth := congrArg (fun tokens => tokens[2 * i]?) h
  simpa only [List.getElem?_intersperse_two_mul] using hnth

lemma lineTokens_inj {e f : Entry} (h : lineTokens e = lineTokens f) :
    visibleLines e = visibleLines f := by
  refine List.map_injective_iff.mpr ?_ (intersperse_inj h)
  intro _ _ htext
  exact Token.text.inj htext

/-- A block is not closed before its end. -/
lemma blockEnd_notMem (e : Entry) :
    blockEnd ∉ .tag (blockTag e.sender e.kind).toList :: lineTokens e := by
  intro hmem
  rcases List.mem_cons.mp hmem with hopen | hlines
  · have hcontent := Token.tag.inj hopen
    revert hcontent
    cases e.sender <;> cases e.kind <;> decide
  · rcases mem_of_mem_intersperse hlines with hbreak | htext
    · revert hbreak
      decide
    · obtain ⟨text, _, heq⟩ := List.mem_map.mp htext
      cases heq

/-- The tag of a block shows the style class and whether it is a notice, and nothing else. -/
lemma blockTag_eq_iff (e f : Entry) :
    blockTag e.sender e.kind = blockTag f.sender f.kind ↔
      e.styleClass = f.styleClass ∧ (e.kind = .notice ↔ f.kind = .notice) := by
  obtain ⟨_, _, sender, kind⟩ := e
  obtain ⟨_, _, sender', kind'⟩ := f
  cases sender <;> cases kind <;> cases sender' <;> cases kind' <;>
    simp [blockTag, Entry.styleClass]

/-- Two blocks, whatever follows them, are equal exactly if they look the same and the same
follows them. -/
lemma entryTokens_append_eq_iff {e f : Entry} {more others : List Token} :
    entryTokens e ++ more = entryTokens f ++ others ↔ SameLook e f ∧ more = others := by
  simp only [entryTokens, List.append_assoc, List.singleton_append]
  constructor
  · intro h
    obtain ⟨hblock, hmore⟩ := cut_at_first (blockEnd_notMem e) (blockEnd_notMem f) h
    obtain ⟨htag, hlines⟩ := List.cons.inj hblock
    obtain ⟨hclass, hnotice⟩ :=
      (blockTag_eq_iff e f).mp (String.toList_inj.mp (Token.tag.inj htag))
    exact ⟨⟨hclass, hnotice, lineTokens_inj hlines⟩, hmore⟩
  · rintro ⟨hlook, rfl⟩
    have htag := (blockTag_eq_iff e f).mpr ⟨hlook.styleClass, hlook.notice⟩
    rw [htag, lineTokens, lineTokens, hlook.lines]

lemma entries_eq_iff (entries others : List Entry) :
    entries.flatMap entryTokens = others.flatMap entryTokens ↔
      List.Forall₂ SameLook entries others := by
  induction entries generalizing others with
  | nil =>
      cases others with
      | nil => exact iff_of_true rfl .nil
      | cons f rest => exact iff_of_false (List.cons_ne_nil _ _).symm nofun
  | cons e entries ih =>
      cases others with
      | nil => exact iff_of_false (List.cons_ne_nil _ _) nofun
      | cons f others =>
          rw [List.flatMap_cons, List.flatMap_cons, entryTokens_append_eq_iff, ih,
            List.forall₂_cons]

/-! ## What the page reveals -/

/-- **No text is markup.**  A browser reads the blocks of the entries with their lines, and two
conversations are sent as the same text exactly if their entries look the same, one by one. -/
theorem readMarkup_transcript (c : Conversation) :
    readMarkup (transcript c).render.toList = transcriptTokens c ∧
      ∀ d : Conversation, (transcript c).render = (transcript d).render ↔
        List.Forall₂ SameLook c.entries d.entries := by
  have hlegible : ∀ d : Conversation, Legible (transcript d).tokens := by
    intro d
    rw [tokens_transcript]
    exact legible_transcriptTokens d
  constructor
  · rw [Node.readMarkup_render (hlegible c), tokens_transcript]
  · intro d
    rw [Node.render_eq_iff (hlegible c) (hlegible d), tokens_transcript, tokens_transcript,
      ← entries_eq_iff, transcriptTokens, transcriptTokens, List.append_left_inj,
      List.cons_inj_right]

/-- A line break in a text is one, and a tag in a text is none. -/
example :
    readMarkup (transcript ⟨[⟨0, "<br>\r\n&lt;", .bot, .message⟩], 1, .pending, .empty⟩).render.toList
      = [.tag "div class=\"messages\"".toList,
          .tag "div class=\"bot-message\" style=\";\"".toList,
          .text "<br>".toList, .tag "br".toList, .text "&lt;".toList,
          blockEnd, blockEnd] := by
  cbv

end ChatPanel.View
