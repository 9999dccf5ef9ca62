import ChatPanel.Json.Numeral
import ChatPanel.Proofs.Json.Grammar
import Mathlib.Data.List.TakeWhile

/-!
# Numbers are read as they are written

A number has no closing mark: it ends where the text goes on with something that cannot belong to
it.  `EndsNumber` says what that is, and the parts of a number follow each other in the same way, so
that each reader of a part needs to know of the text behind only its first character.

* **`read_of_written`** — a number is taken apart into the parts that it was written from, whether it
  is kept or passed over.  What it stands for plays no role here.
-/

namespace ChatPanel.Json

/-- The text does not go on with a digit. -/
def EndsDigits (rest : List Char) : Prop :=
  ∀ c ∈ rest.head?, c.isDigit = false

/-- The text does not go on with anything that could belong to a number. -/
def EndsNumber (rest : List Char) : Prop :=
  ∀ c ∈ rest.head?, c.isDigit = false ∧ c ≠ '.' ∧ c ≠ 'e' ∧ c ≠ 'E'

lemma EndsNumber.endsDigits {rest : List Char} (h : EndsNumber rest) : EndsDigits rest :=
  fun c hc => (h c hc).1

/-! ## Digits -/

lemma takeDigits_append {digits rest : List Char} (hdigits : ∀ c ∈ digits, c.isDigit = true)
    (hrest : EndsDigits rest) : takeDigits (digits ++ rest) = (digits, rest) := by
  rw [takeDigits, List.takeWhile_append_of_pos hdigits, List.dropWhile_append_of_pos hdigits]
  cases rest with
  | nil => simp
  | cons c rest =>
      have hc := hrest c rfl
      simp [hc]

lemma readDigits_append {fate : Fate} {digits rest : List Char} (h : IsDigits digits)
    (hrest : EndsDigits rest) : readDigits fate (digits ++ rest) = .ok (digits, rest) := by
  obtain ⟨hne, hdigits⟩ := h
  cases digits with
  | nil => exact absurd rfl hne
  | cons d digits =>
      have htake := takeDigits_append hdigits hrest
      rw [List.cons_append] at htake ⊢
      rw [readDigits, if_pos (hdigits d List.mem_cons_self), htake]

/-- A whole part is a zero, or digits that start with another one. -/
lemma readWhole_append {fate : Fate} {whole rest : List Char} (h : IsWhole whole)
    (hrest : EndsDigits rest) : readWhole fate (whole ++ rest) = .ok (whole, rest) := by
  rcases h with rfl | ⟨⟨hne, hdigits⟩, hzero⟩
  · have hnone : ¬ rest.head?.any Char.isDigit = true := by
      cases rest with
      | nil => simp
      | cons c rest => simp [hrest c rfl]
    simp [readWhole, hnone]
  · cases whole with
    | nil => exact absurd rfl hne
    | cons d digits =>
        have htake := takeDigits_append hdigits hrest
        rw [List.cons_append] at htake ⊢
        rw [readWhole, if_pos (hdigits d List.mem_cons_self), htake]
        rintro rfl
        exact hzero rfl

/-! ## Fraction and exponent -/

lemma readFraction_append {fate : Fate} {fraction : Option (List Char)} {chars rest : List Char}
    (h : WrittenFraction fraction chars) (hrest : EndsDigits rest) (hpoint : rest.head? ≠ some '.') :
    readFraction fate (chars ++ rest) = .ok (fraction, rest) := by
  cases h with
  | none =>
      rw [List.nil_append, readFraction]
      rintro behind rfl
      exact hpoint rfl
  | some h =>
      rw [List.cons_append, readFraction, readDigits_append h hrest]
      rfl

lemma takeSign_append {negative : Bool} {sign digits rest : List Char}
    (h : WrittenSign negative sign) (hdigits : IsDigits digits) :
    takeSign (sign ++ digits ++ rest) = (negative, digits ++ rest) := by
  cases h with
  | plus => rfl
  | minus => rfl
  | none =>
      obtain ⟨hne, hall⟩ := hdigits
      cases digits with
      | nil => exact absurd rfl hne
      | cons d digits =>
          have hd := hall d List.mem_cons_self
          rw [List.nil_append, List.cons_append, takeSign]
          all_goals
            intro behind heq
            cases heq
            exact absurd hd (by decide)

lemma readExponent_append {fate : Fate} {exponent : Option (Bool × List Char)}
    {chars rest : List Char} (h : WrittenExponent exponent chars) (hrest : EndsNumber rest) :
    readExponent fate (chars ++ rest) = .ok (exponent, rest) := by
  cases h with
  | none =>
      cases rest with
      | nil => rfl
      | cons c rest =>
          obtain ⟨-, -, he, hE⟩ := hrest c rfl
          rw [List.nil_append, readExponent, if_neg (by simp [he, hE])]
  | some hmark hsign h =>
      rw [List.cons_append, List.cons_append, readExponent, if_pos hmark]
      simp only [takeSign_append hsign h, readDigits_append h hrest.endsDigits]
      rfl

/-! ## The whole number -/

lemma endsDigits_exponent {exponent : Option (Bool × List Char)} {chars rest : List Char}
    (h : WrittenExponent exponent chars) (hrest : EndsNumber rest) :
    EndsDigits (chars ++ rest) ∧ (chars ++ rest).head? ≠ some '.' := by
  cases h with
  | none =>
      refine ⟨hrest.endsDigits, fun hpoint => ?_⟩
      exact (hrest '.' hpoint).2.1 rfl
  | some hmark hsign h => rcases hmark with rfl | rfl <;> simp [EndsDigits]

lemma endsDigits_fraction {fraction : Option (List Char)} {chars rest : List Char}
    (h : WrittenFraction fraction chars) (hrest : EndsDigits rest) : EndsDigits (chars ++ rest) := by
  cases h with
  | none => exact hrest
  | some h =>
      rintro c ⟨⟩
      decide

/-- A number starts with a minus sign or with a digit. -/
lemma Numeral.Written.exists_head {n : Numeral} {chars : List Char} (h : n.Written chars) :
    ∃ c rest, chars = c :: rest ∧ (c = '-' ∨ c.isDigit = true) := by
  cases h with
  | @mk negative whole fraction exponent behind behind' hwhole hfraction hexponent =>
      cases negative with
      | true => exact ⟨'-', _, rfl, .inl rfl⟩
      | false =>
          rcases hwhole with rfl | ⟨⟨hne, hdigits⟩, -⟩
          · exact ⟨'0', _, rfl, .inr (by decide)⟩
          · cases whole with
            | nil => exact absurd rfl hne
            | cons d digits => exact ⟨d, _, rfl, .inr (hdigits d List.mem_cons_self)⟩

lemma readUnsigned_append {fate : Fate} {negative : Bool} {whole behind behind' rest : List Char}
    {fraction : Option (List Char)} {exponent : Option (Bool × List Char)} (hwhole : IsWhole whole)
    (hfraction : WrittenFraction fraction behind) (hexponent : WrittenExponent exponent behind')
    (hrest : EndsNumber rest) :
    Numeral.readUnsigned fate negative (whole ++ (behind ++ (behind' ++ rest)))
      = .ok (⟨negative, whole, fraction, exponent⟩, rest) := by
  obtain ⟨hends, hpoint⟩ := endsDigits_exponent hexponent hrest
  rw [Numeral.readUnsigned, readWhole_append hwhole (endsDigits_fraction hfraction hends)]
  simp only [bind, Except.bind, readFraction_append hfraction hends hpoint,
    readExponent_append hexponent hrest]
  rfl

/-- **A number is taken apart into the parts that it was written from.** -/
theorem read_of_written {n : Numeral} {chars rest : List Char} (h : n.Written chars)
    (hrest : EndsNumber rest) (fate : Fate) : Numeral.read fate (chars ++ rest) = .ok (n, rest) := by
  cases h with
  | @mk negative whole fraction exponent behind behind' hwhole hfraction hexponent =>
      have hread := @readUnsigned_append fate negative _ _ _ _ _ _ hwhole hfraction hexponent hrest
      cases negative with
      | true =>
          simp only [if_true, List.cons_append, List.nil_append, List.append_assoc]
          rw [Numeral.read]
          exact hread
      | false =>
          have hhead : ∀ more, whole ++ (behind ++ (behind' ++ rest)) ≠ '-' :: more := by
            intro more heq
            rcases hwhole with rfl | ⟨⟨hne, hdigits⟩, -⟩
            · cases heq
            · cases whole with
              | nil => exact absurd rfl hne
              | cons d digits =>
                  cases heq
                  exact absurd (hdigits '-' List.mem_cons_self) (by decide)
          simp only [Bool.false_eq_true, if_false, List.nil_append, List.append_assoc]
          rw [Numeral.read]
          · exact hread
          · exact hhead

end ChatPanel.Json
