import ChatPanel.Json.Encode
import ChatPanel.Proofs.Json.Strings

/-!
# What is written is a spelling

A string is written in one way only, out of the many that the grammar admits.  Every character falls
into one of three classes: it has a letter behind a backslash, it is another control character and
gets four digits, or it stands for itself.

* **`spelled_encode`** — what is written of a text is a spelling of it, so that whatever is known of
  spellings holds of it: both readers of strings read it, and the one that keeps it reads the text.
* `space_le_of_mem_encodeText` — no control character is left in what is written.
* `encodeText_injective` — different texts are written differently.
-/

namespace ChatPanel.Json

/-! ## One character -/

lemma isHexDigit_hexChar {digit : ℕ} (h : digit < 16) : IsHexDigit (hexChar digit) digit :=
  ⟨h, .inl rfl⟩

/-- The four digits that are written for a control character. -/
lemma quad_of_control {c : Char} (h : c < ' ') :
    Quad c.toNat ['0', '0', hexChar (c.toNat / 16), hexChar (c.toNat % 16)] := by
  have hlt : c.toNat < 32 := h
  have hquad := Quad.mk (isHexDigit_hexChar (show 0 < 16 by omega))
    (isHexDigit_hexChar (show 0 < 16 by omega))
    (isHexDigit_hexChar (show c.toNat / 16 < 16 by omega))
    (isHexDigit_hexChar (show c.toNat % 16 < 16 by omega))
  rwa [show ((0 * 16 + 0) * 16 + c.toNat / 16) * 16 + c.toNat % 16 = c.toNat by omega] at hquad

/-- Every character is written in one of its ways. -/
lemma spelling_encodeChar (c : Char) : Spelling c (encodeChar c) := by
  unfold encodeChar
  split
  -- the seven characters that have a letter
  iterate 7 exact .short (by decide)
  next hquote hbackslash _ _ _ _ _ =>
    split_ifs with hcontrol
    · exact .unit (quad_of_control hcontrol)
    · exact .plain ⟨Char.not_lt.mp hcontrol, hquote, hbackslash⟩

lemma space_le_hexChar : ∀ digit : Fin 16, ' ' ≤ hexChar digit := by decide

/-- No way of writing that is chosen has a control character in it. -/
lemma space_le_of_mem_encodeChar {c d : Char} (h : d ∈ encodeChar c) : ' ' ≤ d := by
  unfold encodeChar at h
  split at h
  iterate 7
    simp only [List.mem_cons, List.not_mem_nil, or_false] at h
    rcases h with rfl | rfl <;> decide
  split_ifs at h with hcontrol
  · have hlt : c.toNat < 32 := hcontrol
    simp only [List.mem_cons, List.not_mem_nil, or_false] at h
    rcases h with rfl | rfl | rfl | rfl | rfl | rfl
    iterate 4 decide
    · exact space_le_hexChar ⟨c.toNat / 16, by omega⟩
    · exact space_le_hexChar ⟨c.toNat % 16, by omega⟩
  · rw [List.mem_singleton.mp h]
    exact Char.not_lt.mp hcontrol

/-! ## The whole string -/

/-- **What is written of a text is a spelling of it.** -/
theorem spelled_encode (text : List Char) : Spelled text (text.flatMap encodeChar) := by
  induction text with
  | nil => exact .nil
  | cons c text ih => exact .cons (spelling_encodeChar c) ih

lemma written_encodeText (text : List Char) :
    (Token.string (some text)).Written (encodeText text) :=
  .text (spelled_encode text)

/-- What is written holds no control character. -/
theorem space_le_of_mem_encodeText {text : List Char} {d : Char} (h : d ∈ encodeText text) :
    ' ' ≤ d := by
  simp only [encodeText, List.mem_append, List.mem_cons, List.mem_flatMap, List.not_mem_nil,
    or_false] at h
  rcases h with (rfl | ⟨c, -, hd⟩) | rfl
  · decide
  · exact space_le_of_mem_encodeChar hd
  · decide

/-- A spelling stands for one text only. -/
lemma Spelled.unique {text text' body : List Char} (h : Spelled text body)
    (h' : Spelled text' body) : text = text' := by
  have hread := readText_of_spelled h []
  rw [readText_of_spelled h' []] at hread
  cases hread
  rfl

/-- **Different texts are written differently.** -/
theorem encodeText_injective : Function.Injective encodeText := by
  intro text text' h
  have hbody : text.flatMap encodeChar = text'.flatMap encodeChar := by simpa [encodeText] using h
  have hspelled := spelled_encode text
  rw [hbody] at hspelled
  exact hspelled.unique (spelled_encode text')

end ChatPanel.Json
