import ChatPanel.Proofs.Json.Numerals

/-!
# The next token of a text

Every reader begins by skipping the gap in front of it.  In a text that holds given tokens it then
stands at the first of them, written in one of its ways, and behind it stands a text that holds the
others (`Laid.skipGap_cons`).  No reader needs to know more of the layout than that.

A number ends at what follows it.  In a value that is always a gap, a mark or the end of the text
(`Closes`, `Laid.endsNumber`).
-/

namespace ChatPanel.Json

lemma isGap_iff {c : Char} : isGap c = true ↔ c = ' ' ∨ c = '\t' ∨ c = '\n' ∨ c = '\r' := by
  simp [isGap, or_assoc]

/-- No token starts like a gap. -/
lemma Token.Written.exists_head {token : Token} {chars : List Char} (h : token.Written chars) :
    ∃ c rest, chars = c :: rest ∧ isGap c = false := by
  cases h with
  | mark h =>
      simp only [marks, List.mem_cons, List.not_mem_nil, or_false] at h
      rcases h with rfl | rfl | rfl | rfl | rfl | rfl <;> exact ⟨_, _, rfl, by decide⟩
  | word h =>
      simp only [keywords, List.mem_cons, List.not_mem_nil, or_false] at h
      rcases h with rfl | rfl | rfl <;> exact ⟨_, _, rfl, by decide⟩
  | numeral h =>
      obtain ⟨c, rest, rfl, hc⟩ := h.exists_head
      refine ⟨c, rest, rfl, ?_⟩
      rw [← Bool.not_eq_true, isGap_iff]
      rintro (rfl | rfl | rfl | rfl) <;> exact absurd hc (by decide)
  | text h => exact ⟨'"', _, rfl, by decide⟩
  | noText h hnone => exact ⟨'"', _, rfl, by decide⟩

lemma skipGap_append {space : List Char} (h : IsSpace space) (rest : List Char) :
    skipGap (space ++ rest) = skipGap rest :=
  List.dropWhile_append_of_pos fun c hc => isGap_iff.mpr (h c hc)

/-- Behind the gap stands the first token, and then a text with the others. -/
lemma Laid.skipGap_cons {token : Token} {tokens : List Token} {text : List Char}
    (h : Laid (token :: tokens) text) :
    ∃ chars rest, skipGap text = chars ++ rest ∧ token.Written chars ∧ Laid tokens rest := by
  cases h with
  | @cons _ _ space chars rest hspace hchars hrest =>
      refine ⟨chars, rest, ?_, hchars, hrest⟩
      obtain ⟨c, more, rfl, hc⟩ := hchars.exists_head
      rw [skipGap_append hspace, skipGap, List.cons_append, List.dropWhile_cons_of_neg (by simp [hc])]

lemma Laid.skipGap_nil {text : List Char} (h : Laid [] text) : skipGap text = [] := by
  cases h with
  | nil hspace => exact List.dropWhile_eq_nil_iff.mpr fun c hc => isGap_iff.mpr (hspace c hc)

lemma Laid.skipGap_mark {c : Char} {tokens : List Token} {text : List Char}
    (h : Laid (.mark c :: tokens) text) : ∃ rest, skipGap text = c :: rest ∧ Laid tokens rest := by
  obtain ⟨chars, rest, hskip, hchars, hrest⟩ := h.skipGap_cons
  cases hchars
  exact ⟨rest, hskip, hrest⟩

lemma Laid.skipGap_word {letters : List Char} {tokens : List Token} {text : List Char}
    (h : Laid (.word letters :: tokens) text) :
    ∃ rest, skipGap text = letters ++ rest ∧ Laid tokens rest := by
  obtain ⟨chars, rest, hskip, hchars, hrest⟩ := h.skipGap_cons
  cases hchars
  exact ⟨rest, hskip, hrest⟩

lemma Laid.skipGap_numeral {n : Numeral} {tokens : List Token} {text : List Char}
    (h : Laid (.numeral n :: tokens) text) :
    ∃ chars rest, skipGap text = chars ++ rest ∧ n.Written chars ∧ Laid tokens rest := by
  obtain ⟨chars, rest, hskip, hchars, hrest⟩ := h.skipGap_cons
  cases hchars with
  | numeral hchars => exact ⟨chars, rest, hskip, hchars, hrest⟩

/-- What may stand between the quotation marks of a string with the given text. -/
def IsBody : Option (List Char) → List Char → Prop
  | some text, body => Spelled text body
  | none, body => StringBody body ∧ ∀ text, ¬ Spelled text body

lemma Laid.skipGap_string {content : Option (List Char)} {tokens : List Token} {text : List Char}
    (h : Laid (.string content :: tokens) text) :
    ∃ body rest, skipGap text = '"' :: (body ++ '"' :: rest) ∧ IsBody content body ∧
      Laid tokens rest := by
  obtain ⟨chars, rest, hskip, hchars, hrest⟩ := h.skipGap_cons
  cases hchars with
  | @text _ body hbody => exact ⟨body, rest, by simpa using hskip, hbody, hrest⟩
  | @noText body hbody hnone => exact ⟨body, rest, by simpa using hskip, ⟨hbody, hnone⟩, hrest⟩

/-- A gap in front of the first token may be left out. -/
lemma Laid.of_skipGap {tokens : List Token} {text : List Char} (h : Laid tokens text) :
    Laid tokens (skipGap text) := by
  cases tokens with
  | nil =>
      rw [h.skipGap_nil]
      exact .nil (by simp [IsSpace])
  | cons token tokens =>
      obtain ⟨chars, rest, hskip, hchars, hrest⟩ := h.skipGap_cons
      rw [hskip]
      exact @Laid.cons token tokens [] chars rest (by simp [IsSpace]) hchars hrest

/-! ## Writing a text -/

/-- A gap may be put in front. -/
lemma Laid.gap {c : Char} {tokens : List Token} {text : List Char} (h : Laid tokens text)
    (hc : isGap c = true) : Laid tokens (c :: text) := by
  have hspace {space : List Char} (h : IsSpace space) : IsSpace (c :: space) :=
    List.forall_mem_cons.mpr ⟨isGap_iff.mp hc, h⟩
  cases h with
  | nil h => exact .nil (hspace h)
  | cons h hchars hrest => exact .cons (hspace h) hchars hrest

lemma Laid.token {token : Token} {tokens : List Token} {chars rest : List Char}
    (h : Laid tokens rest) (hchars : token.Written chars) : Laid (token :: tokens) (chars ++ rest) :=
  @Laid.cons token tokens [] chars rest (by simp [IsSpace]) hchars h

lemma Laid.mark {c : Char} {tokens : List Token} {rest : List Char} (h : Laid tokens rest)
    (hc : c ∈ marks) : Laid (.mark c :: tokens) (c :: rest) :=
  h.token (.mark hc)

lemma Laid.string {content body rest : List Char} {tokens : List Token} (h : Laid tokens rest)
    (hbody : Spelled content body) :
    Laid (.string (some content) :: tokens) ('"' :: (body ++ '"' :: rest)) := by
  simpa using h.token (.text hbody)

/-- A text without special characters may be written as it is. -/
lemma spelled_self {text : List Char} (h : ∀ c ∈ text, IsPlain c) : Spelled text text := by
  induction text with
  | nil => exact .nil
  | cons c text ih =>
      obtain ⟨hc, htext⟩ := List.forall_mem_cons.mp h
      exact .cons (.plain hc) (ih htext)

/-! ## What may follow a value -/

/-- The tokens that follow begin with a mark, if there are any. -/
def Closes (tokens : List Token) : Prop :=
  ∀ token ∈ tokens.head?, ∃ c, token = .mark c

lemma closes_mark (c : Char) (tokens : List Token) : Closes (.mark c :: tokens) := by
  rintro token ⟨⟩
  exact ⟨c, rfl⟩

/-- What follows a value cannot be taken for a part of a number. -/
lemma Laid.endsNumber {tokens : List Token} {text : List Char} (h : Laid tokens text)
    (hcloses : Closes tokens) : EndsNumber text := by
  -- the text goes on with a gap, with a mark, or not at all
  have hspace {c : Char} (hc : c = ' ' ∨ c = '\t' ∨ c = '\n' ∨ c = '\r') :
      c.isDigit = false ∧ c ≠ '.' ∧ c ≠ 'e' ∧ c ≠ 'E' := by
    rcases hc with rfl | rfl | rfl | rfl <;> decide
  cases h with
  | nil h =>
      intro c hc
      exact hspace (h c (List.mem_of_mem_head? hc))
  | @cons token tokens space chars rest h hchars hrest =>
      intro c hc
      cases space with
      | cons c' space =>
          cases hc
          exact hspace (h c List.mem_cons_self)
      | nil =>
          obtain ⟨mark, rfl⟩ := hcloses token rfl
          cases hchars with
          | mark hmark =>
              cases hc
              simp only [marks, List.mem_cons, List.not_mem_nil, or_false] at hmark
              rcases hmark with rfl | rfl | rfl | rfl | rfl | rfl <;> decide

end ChatPanel.Json
