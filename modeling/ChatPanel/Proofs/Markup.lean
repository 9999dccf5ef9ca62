import ChatPanel.Markup
import Mathlib.Data.List.Chain
import Mathlib.Tactic.Lemma

/-!
# Reading markup back

A browser takes the text of a page apart into tags and the texts between them, and undoes the
references in the texts.  `readMarkup` does the same, knowing nothing of how the page was written.

* `Node.tokens` — the tags and the texts of a part of a page, as they are meant.
* `Node.chars_eq_written` — a page is written token by token.
* **`readMarkup_written`** — what was written is read back, token by token, if the tags hold no
  closing bracket and no text stands next to another (`Legible`).  What the texts hold does not
  matter: their brackets are written as references, and the references are written as ampersands
  with a reference of their own.
* `Node.render_eq_iff` — so two parts of a page are sent as the same text only if they mean the
  same.
* **`Node.legible_tokens`** — a part of a page is legible if each of its elements is in order by
  itself (`Node.Tidy`): its tag is not closed early, and its texts do not stand next to each other.
-/

namespace ChatPanel

/-! ## Tokens -/

/-- A tag, without its brackets, or a text. -/
inductive Token where
  | tag (content : List Char)
  | text (content : List Char)
  deriving DecidableEq, Repr

/-- Is the token a tag? -/
def Token.isTag : Token → Bool
  | .tag _ => true
  | .text _ => false

/-- The tags from each opening bracket to the next closing one, and the texts between them. -/
def tokenize : List Char → List Token
  | [] => []
  | '<' :: rest =>
    .tag (rest.takeWhile (· ≠ '>')) :: tokenize ((rest.dropWhile (· ≠ '>')).drop 1)
  | c :: rest => .text (c :: rest.takeWhile (· ≠ '<')) :: tokenize (rest.dropWhile (· ≠ '<'))
termination_by chars => chars.length
decreasing_by
  · have := (List.dropWhile_suffix (l := rest) (· ≠ '>')).length_le
    simp only [List.length_drop, List.length_cons]
    omega
  · have := (List.dropWhile_suffix (l := rest) (· ≠ '<')).length_le
    simp only [List.length_cons]
    omega

/-- Undoes the three references. -/
def unescape : List Char → List Char
  | [] => []
  | '&' :: 'a' :: 'm' :: 'p' :: ';' :: rest => '&' :: unescape rest
  | '&' :: 'l' :: 't' :: ';' :: rest => '<' :: unescape rest
  | '&' :: 'g' :: 't' :: ';' :: rest => '>' :: unescape rest
  | c :: rest => c :: unescape rest

/-- The token that is meant by a token as it is written. -/
def Token.read : Token → Token
  | .tag content => .tag content
  | .text content => .text (unescape content)

/-- The tags and the texts of a page, as they are meant. -/
def readMarkup (chars : List Char) : List Token :=
  (tokenize chars).map Token.read

/-! ## Texts -/

lemma unescape_cons {c : Char} (rest : List Char) (h : c ≠ '&') :
    unescape (c :: rest) = c :: unescape rest := by
  rw [unescape]
  all_goals (rintro _ rfl; exact absurd rfl h)

/-- A character has a reference or is written as it is. -/
lemma escapeChar_cases (c : Char) :
    c = '&' ∨ c = '<' ∨ c = '>' ∨ c ≠ '&' ∧ c ≠ '<' ∧ escapeChar c = [c] := by
  by_cases hamp : c = '&'
  · exact .inl hamp
  by_cases hlt : c = '<'
  · exact .inr (.inl hlt)
  by_cases hgt : c = '>'
  · exact .inr (.inr (.inl hgt))
  refine .inr (.inr (.inr ⟨hamp, hlt, ?_⟩))
  rw [escapeChar]
  exacts [hamp, hlt, hgt]

/-- What was escaped is read back. -/
lemma unescape_escape (content : List Char) : unescape (content.flatMap escapeChar) = content := by
  induction content with
  | nil => rfl
  | cons c rest ih =>
      rw [List.flatMap_cons]
      rcases escapeChar_cases c with rfl | rfl | rfl | ⟨hamp, _, heq⟩
      · simp [escapeChar, unescape, ih]
      · simp [escapeChar, unescape, ih]
      · simp [escapeChar, unescape, ih]
      · rw [heq, List.singleton_append, unescape_cons _ hamp, ih]

/-- An escaped text opens no tag. -/
lemma lt_notMem_escape (content : List Char) : '<' ∉ content.flatMap escapeChar := by
  intro hmem
  obtain ⟨c, _, hc⟩ := List.mem_flatMap.mp hmem
  rcases escapeChar_cases c with rfl | rfl | rfl | ⟨_, hlt, heq⟩
  · exact absurd hc (by decide)
  · exact absurd hc (by decide)
  · exact absurd hc (by decide)
  · rw [heq, List.mem_singleton] at hc
    exact hlt hc.symm

/-! ## What a page means -/

/-- What a text shows: an empty one shows one space. -/
def visible (content : List Char) : List Char :=
  match content with
  | [] => [' ']
  | _ => content

lemma visible_ne_nil (content : List Char) : visible content ≠ [] := by
  cases content with
  | nil => exact List.cons_ne_nil _ _
  | cons c rest => exact List.cons_ne_nil c rest

lemma escapeText_eq (content : List Char) :
    escapeText content = (visible content).flatMap escapeChar := by
  cases content <;> rfl

/-- What stands between the brackets of a tag that opens an element. -/
def tagContent (tag : String) (attributes : List Attribute) : List Char :=
  tag.toList ++ attributes.flatMap Attribute.chars

mutual

/-- The tags and the texts of a part of a page. -/
def Node.tokens : Node → List Token
  | .text content => [.text (visible content.toList)]
  | .void tag attributes => [.tag (tagContent tag attributes)]
  | .element tag attributes children =>
    .tag (tagContent tag attributes) :: (Node.tokensAll children ++ [.tag ('/' :: tag.toList)])

/-- The tags and the texts of parts of a page, one after the other. -/
def Node.tokensAll : List Node → List Token
  | [] => []
  | node :: rest => node.tokens ++ Node.tokensAll rest

end

lemma Node.tokensAll_eq_flatMap (nodes : List Node) :
    Node.tokensAll nodes = nodes.flatMap Node.tokens := by
  induction nodes with
  | nil => rw [Node.tokensAll, List.flatMap_nil]
  | cons node rest ih => rw [Node.tokensAll, ih, List.flatMap_cons]

/-- A token as it is written. -/
def Token.written : Token → List Char
  | .tag content => '<' :: content ++ ['>']
  | .text content => content.flatMap escapeChar

mutual

/-- A part of a page is written token by token. -/
theorem Node.chars_eq_written : ∀ node : Node, node.chars = node.tokens.flatMap Token.written
  | .text content => by
    simp [Node.chars, Node.tokens, Token.written, escapeText_eq]
  | .void tag attributes => by
    simp [Node.chars, Node.tokens, Token.written, openTag, tagContent]
  | .element tag attributes children => by
    simp [Node.chars, Node.tokens, Token.written, openTag, closeTag, tagContent,
      Node.charsAll_eq_written children]

lemma Node.charsAll_eq_written :
    ∀ nodes : List Node, Node.charsAll nodes = (Node.tokensAll nodes).flatMap Token.written
  | [] => by rw [Node.charsAll, Node.tokensAll, List.flatMap_nil]
  | node :: rest => by
    rw [Node.charsAll, Node.tokensAll, List.flatMap_append, Node.chars_eq_written node,
      Node.charsAll_eq_written rest]

end

/-! ## Reading back what was written -/

/-- Two tokens that can stand next to each other: two texts would be read as one. -/
def Token.Apart (first second : Token) : Prop :=
  first.isTag = true ∨ second.isTag = true

/-- A tag ends at its first closing bracket, and there is no empty text. -/
def Token.Sound : Token → Prop
  | .tag content => '>' ∉ content
  | .text content => content ≠ []

/-- Tokens that can be read back. -/
structure Legible (tokens : List Token) : Prop where
  sound : ∀ token ∈ tokens, token.Sound
  apart : tokens.IsChain Token.Apart

namespace Legible

variable {content : List Char} {first second rest : List Token}

lemma nil : Legible [] where
  sound _ hmem := absurd hmem List.not_mem_nil
  apart := .nil

/-- A tag can stand in front of everything. -/
lemma cons_tag (hclosed : '>' ∉ content) (h : Legible rest) :
    Legible (.tag content :: rest) where
  sound := List.forall_mem_cons.mpr ⟨hclosed, h.sound⟩
  apart := List.isChain_cons.mpr ⟨fun _ _ => .inl rfl, h.apart⟩

/-- A text can stand in front of a tag. -/
lemma cons_text (hfilled : content ≠ []) (htag : ∀ token ∈ rest.head?, token.isTag = true)
    (h : Legible rest) : Legible (.text content :: rest) where
  sound := List.forall_mem_cons.mpr ⟨hfilled, h.sound⟩
  apart := List.isChain_cons.mpr ⟨fun token htoken => .inr (htag token htoken), h.apart⟩

lemma append (hfirst : Legible first) (hsecond : Legible second)
    (hmeet : ∀ last ∈ first.getLast?, ∀ next ∈ second.head?, last.Apart next) :
    Legible (first ++ second) where
  sound := List.forall_mem_append.mpr ⟨hfirst.sound, hsecond.sound⟩
  apart := hfirst.apart.append hsecond.apart hmeet

lemma of_cons {token : Token} (h : Legible (token :: rest)) : Legible rest where
  sound := (List.forall_mem_cons.mp h.sound).2
  apart := h.apart.tail

end Legible

/-- A tag is read up to its own closing bracket. -/
lemma tokenize_tag {content : List Char} (rest : List Char) (h : '>' ∉ content) :
    tokenize ('<' :: (content ++ '>' :: rest)) = .tag content :: tokenize rest := by
  have hpos : ∀ c ∈ content, decide (c ≠ '>') = true := by
    intro c hc
    exact decide_eq_true fun heq => h (heq ▸ hc)
  rw [tokenize, List.takeWhile_append_of_pos hpos, List.dropWhile_append_of_pos hpos]
  simp

/-- A text is read up to the next tag. -/
lemma tokenize_text {content : List Char} (rest : List Char) (hne : content ≠ [])
    (h : '<' ∉ content) (hrest : ∀ c ∈ rest.head?, c = '<') :
    tokenize (content ++ rest) = .text content :: tokenize rest := by
  obtain ⟨c, more, rfl⟩ := List.exists_cons_of_ne_nil hne
  have hpos : ∀ d ∈ more, decide (d ≠ '<') = true := by
    intro d hd
    exact decide_eq_true fun heq => h (heq ▸ List.mem_cons_of_mem _ hd)
  have hc : c ≠ '<' := fun heq => h (heq ▸ List.mem_cons_self)
  have hstop : rest.takeWhile (· ≠ '<') = [] ∧ rest.dropWhile (· ≠ '<') = rest := by
    cases rest with
    | nil => exact ⟨rfl, rfl⟩
    | cons d more => simp [hrest d rfl]
  rw [List.cons_append, tokenize, List.takeWhile_append_of_pos hpos,
    List.dropWhile_append_of_pos hpos, hstop.1, hstop.2, List.append_nil]
  rintro rfl
  exact hc rfl

lemma escape_ne_nil {content : List Char} (h : content ≠ []) :
    content.flatMap escapeChar ≠ [] := by
  intro hnil
  have hread := unescape_escape content
  rw [hnil] at hread
  exact h hread.symm

/-- After a text comes a tag or nothing. -/
lemma head?_written {content : List Char} {rest : List Token}
    (h : Legible (.text content :: rest)) :
    ∀ c ∈ (rest.flatMap Token.written).head?, c = '<' := by
  cases rest with
  | nil => intro c hc; simp at hc
  | cons token more =>
      rcases (List.isChain_cons_cons.mp h.apart).1 with htext | htag
      · cases htext
      · cases token with
        | tag tagged => intro c hc; exact (Option.some.inj hc).symm
        | text _ => cases htag

/-- **What was written is read back**, token by token. -/
theorem readMarkup_written {tokens : List Token} (h : Legible tokens) :
    readMarkup (tokens.flatMap Token.written) = tokens := by
  induction tokens with
  | nil => rw [readMarkup, List.flatMap_nil, tokenize, List.map_nil]
  | cons token rest ih =>
      have hrest := ih h.of_cons
      have hsound := h.sound token List.mem_cons_self
      rw [readMarkup] at hrest ⊢
      cases token with
      | tag content =>
          simp only [List.flatMap_cons, Token.written, List.cons_append, List.append_assoc,
            List.nil_append]
          rw [tokenize_tag _ hsound, List.map_cons, Token.read, hrest]
      | text content =>
          rw [List.flatMap_cons, Token.written,
            tokenize_text _ (escape_ne_nil hsound) (lt_notMem_escape content)
              (head?_written h),
            List.map_cons, Token.read, unescape_escape, hrest]

/-- A browser reads the tags and the texts that are meant. -/
theorem Node.readMarkup_render {node : Node} (h : Legible node.tokens) :
    readMarkup node.render.toList = node.tokens := by
  rw [Node.render, String.toList_ofList, Node.chars_eq_written, readMarkup_written h]

/-- Two parts of a page are sent as the same text exactly if they mean the same. -/
theorem Node.render_eq_iff {node other : Node} (h : Legible node.tokens)
    (hother : Legible other.tokens) : node.render = other.render ↔ node.tokens = other.tokens := by
  constructor
  · intro heq
    rw [← readMarkup_render h, heq, readMarkup_render hother]
  · intro heq
    rw [Node.render, Node.render, Node.chars_eq_written, Node.chars_eq_written, heq]

/-! ## Tidy parts of a page -/

/-- A tag whose name and attributes do not close it early. -/
@[simp] def IsClosed (tag : String) (attributes : List Attribute) : Prop :=
  '>' ∉ tag.toList ∧ ∀ a ∈ attributes, '>' ∉ a.chars

lemma IsClosed.gt_notMem {tag : String} {attributes : List Attribute}
    (h : IsClosed tag attributes) : '>' ∉ tagContent tag attributes := by
  simpa [tagContent] using h

namespace Node

/-- Is this part of a page a text? -/
def isText : Node → Bool
  | .text _ => true
  | _ => false

@[simp] lemma isText_text (content : String) : (text content).isText = true := rfl

@[simp] lemma isText_void (tag : String) (attributes : List Attribute) :
    (void tag attributes).isText = false := rfl

@[simp] lemma isText_element (tag : String) (attributes : List Attribute) (children : List Node) :
    (element tag attributes children).isText = false := rfl

/-- Two parts of a page that can stand next to each other. -/
@[simp] def Apart (first second : Node) : Prop :=
  first.isText = false ∨ second.isText = false

mutual

/-- No tag is closed early, and no text stands next to another. -/
@[simp] def Tidy : Node → Prop
  | .text _ => True
  | .void tag attributes => IsClosed tag attributes
  | .element tag attributes children =>
    IsClosed tag attributes ∧ children.IsChain Apart ∧ TidyAll children

/-- All of the parts are tidy. -/
@[simp] def TidyAll : List Node → Prop
  | [] => True
  | node :: rest => node.Tidy ∧ TidyAll rest

end

lemma tidyAll_iff {nodes : List Node} : TidyAll nodes ↔ ∀ node ∈ nodes, node.Tidy := by
  induction nodes with
  | nil => simp
  | cons node rest ih => simp [ih]

/-- Elements can stand next to each other. -/
lemma isChain_apart {nodes : List Node} (h : ∀ node ∈ nodes, node.isText = false) :
    nodes.IsChain Apart := by
  induction nodes with
  | nil => exact .nil
  | cons node rest ih =>
      obtain ⟨hnode, hrest⟩ := List.forall_mem_cons.mp h
      exact List.isChain_cons.mpr ⟨fun _ _ => .inl hnode, ih hrest⟩

/-- An element begins and ends with a tag. -/
lemma isTag_of_isText {node : Node} (h : node.isText = false) :
    (∀ token ∈ node.tokens.head?, token.isTag = true) ∧
      ∀ token ∈ node.tokens.getLast?, token.isTag = true := by
  cases node with
  | text content => cases h
  | void tag attributes => simp [tokens, Token.isTag]
  | element tag attributes children => simp [tokens, Token.isTag, List.getLast?_cons]

/-- The first token of several parts is that of the first part. -/
lemma head?_tokensAll (node : Node) (rest : List Node) :
    (tokensAll (node :: rest)).head? = node.tokens.head? := by
  have hne : node.tokens ≠ [] := by cases node <;> simp [tokens]
  rw [tokensAll, List.head?_append_of_ne_nil _ hne]

mutual

/-- **A tidy part of a page can be read back.** -/
theorem legible_tokens : ∀ {node : Node}, node.Tidy → Legible node.tokens
  | .text content, _ => by
    rw [tokens]
    exact .cons_text (visible_ne_nil _) (by simp) .nil
  | .void tag attributes, hclosed => by
    rw [tokens]
    exact .cons_tag hclosed.gt_notMem .nil
  | .element tag attributes children, ⟨hclosed, hapart, htidy⟩ => by
    have hclose : '>' ∉ '/' :: tag.toList := by simpa using hclosed.1
    rw [tokens]
    refine .cons_tag hclosed.gt_notMem
      ((legible_tokensAll htidy hapart).append (.cons_tag hclose .nil) ?_)
    intro _ _ next hnext
    cases hnext
    exact .inr rfl

lemma legible_tokensAll :
    ∀ {nodes : List Node}, TidyAll nodes → nodes.IsChain Apart → Legible (tokensAll nodes)
  | [], _, _ => by
    rw [tokensAll]
    exact .nil
  | node :: rest, ⟨hnode, hrest⟩, hapart => by
    rw [tokensAll]
    refine (legible_tokens hnode).append (legible_tokensAll hrest hapart.tail) ?_
    intro last hlast next hnext
    cases rest with
    | nil => cases hnext
    | cons other more =>
        rw [head?_tokensAll] at hnext
        rcases (List.isChain_cons_cons.mp hapart).1 with hfirst | hsecond
        · exact .inl ((isTag_of_isText hfirst).2 last hlast)
        · exact .inr ((isTag_of_isText hsecond).1 next hnext)

end

end Node

/-! ## Tokens of a page as texts -/

/-- A tag with this content. -/
def Token.ofTag (content : String) : Token :=
  .tag content.toList

/-- A text, as it is shown. -/
def Token.shown (content : String) : Token :=
  .text (visible content.toList)

@[simp] lemma Token.isTag_ofTag (content : String) : (ofTag content).isTag = true := rfl

@[simp] lemma Token.isTag_shown (content : String) : (shown content).isTag = false := rfl

lemma Token.ofTag_inj {first second : String} : ofTag first = ofTag second ↔ first = second := by
  simp only [ofTag, Token.tag.injEq, String.toList_inj]

lemma Token.shown_inj {first second : String} :
    shown first = shown second ↔ visible first.toList = visible second.toList := by
  simp only [shown, Token.text.injEq]

/-- An attribute as it is written. -/
@[simp] def Attribute.written : Attribute → String
  | .flag name => " " ++ name
  | .value name content => " " ++ name ++ "=\"" ++ content ++ "\""
  | .style declarations => " style=\"" ++ declarations ++ ";\""

/-- What stands between the brackets of a tag that opens an element. -/
@[simp] def tagText (tag : String) (attributes : List Attribute) : String :=
  attributes.foldl (fun text a => text ++ a.written) tag

lemma toList_tagText (tag : String) (attributes : List Attribute) :
    (tagText tag attributes).toList = tagContent tag attributes := by
  have hwritten (a : Attribute) : a.written.toList = a.chars := by
    cases a <;> simp [Attribute.written, Attribute.chars]
  induction attributes generalizing tag with
  | nil => simp [tagText, tagContent]
  | cons a rest ih =>
      have hrest := ih (tag ++ a.written)
      rw [tagContent, String.toList_append, hwritten, List.append_assoc] at hrest
      rw [tagContent, List.flatMap_cons, ← hrest]
      rfl

namespace Node

@[simp] lemma tokensAll_nil : tokensAll [] = [] := by
  rw [tokensAll]

@[simp] lemma tokensAll_cons (node : Node) (rest : List Node) :
    tokensAll (node :: rest) = node.tokens ++ tokensAll rest := by
  rw [tokensAll]

@[simp] lemma tokens_text (content : String) : (Node.text content).tokens = [.shown content] := by
  rw [tokens, Token.shown]

@[simp] lemma tokens_void (tag : String) (attributes : List Attribute) :
    (Node.void tag attributes).tokens = [.ofTag (tagText tag attributes)] := by
  rw [tokens, Token.ofTag, toList_tagText]

@[simp] lemma tokens_element (tag : String) (attributes : List Attribute) (children : List Node) :
    (Node.element tag attributes children).tokens
      = .ofTag (tagText tag attributes) :: (tokensAll children ++ [.ofTag ("/" ++ tag)]) := by
  rw [tokens, Token.ofTag, Token.ofTag, toList_tagText]
  simp

end Node

end ChatPanel
