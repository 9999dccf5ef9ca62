import ChatPanel.Text.Spans
import ChatPanel.Proofs.Text.Lines
import Mathlib.Data.List.Forall2

/-!
# No line is cut inside a character

The search for breaks looks at single bytes and cuts a text at the offsets it stops at, and a text
can be cut between characters only.  That this is always so has one reason.

**Bytes below 128.**  UTF-8 uses none of them in the middle of a character, so a byte that reads
like a carriage return or a line feed is one (`toNat_eq_of_mem_utf8EncodeChar`).

From there two arguments meet at `lineSpans`.  A span `Covers` a line where the text in front of it
and the text up to its end are whole texts, and the spans cover the lines that are found character
by character, each its own (`forall₂_covers`).  And the search by offsets finds the same spans as
the search along the list (`walkedSpans_eq_lineSpans`), where every step keeps its two offsets in
order and inside the text (`Cursor.Ordered`).

* **`walksLines`** — at no step can a cut fail, and what is cut out are the lines.
-/

namespace ChatPanel.Text

/-! ## The bytes of characters -/

/-- The bytes that stand for some characters. -/
def encode (chars : List Char) : List UInt8 :=
  chars.flatMap String.utf8EncodeChar

lemma bytes_eq_encode (text : String) : bytes text = encode text.toList := by
  rw [bytes, String.toUTF8_eq_toByteArray, ← String.utf8Encode_toList, List.utf8Encode,
    List.toList_data_toByteArray, encode]

lemma bytes_ofList (chars : List Char) : bytes (String.ofList chars) = encode chars := by
  rw [bytes_eq_encode, String.toList_ofList]

@[simp] lemma encode_nil : encode [] = [] := rfl

lemma encode_cons (c : Char) (rest : List Char) :
    encode (c :: rest) = String.utf8EncodeChar c ++ encode rest :=
  List.flatMap_cons

@[simp] lemma encode_append (front behind : List Char) :
    encode (front ++ behind) = encode front ++ encode behind :=
  List.flatMap_append

lemma length_bytes (text : String) : (bytes text).length = text.utf8ByteSize := by
  rw [bytes, String.toUTF8_eq_toByteArray, Array.length_toList, ByteArray.size_data,
    String.size_toByteArray]

lemma length_encode (chars : List Char) :
    (encode chars).length = (String.ofList chars).utf8ByteSize := by
  rw [← bytes_ofList, length_bytes]

/-- **A byte below 128 stands for the character with its number**, and for no part of another. -/
lemma toNat_eq_of_mem_utf8EncodeChar {c : Char} {b : UInt8} (h : b ∈ String.utf8EncodeChar c)
    (hb : b.toNat < 128) : c.toNat = b.toNat := by
  have hc : c.toNat = c.val.toNat := rfl
  simp only [String.utf8EncodeChar] at h
  split_ifs at h <;> simp only [List.mem_cons, List.not_mem_nil, or_false] at h
  · subst h
    simp only [UInt8.toNat_ofNat'] at hb ⊢
    omega
  all_goals
    rcases h with rfl | rfl | rfl | rfl
    all_goals
      simp only [UInt8.toNat_ofNat'] at hb
      omega

lemma carriageReturn_notMem_utf8EncodeChar {c : Char} (h : c ≠ '\r') :
    0x0D ∉ String.utf8EncodeChar c := by
  intro hmem
  exact h (Char.toNat_inj.mp (toNat_eq_of_mem_utf8EncodeChar hmem (by decide)))

lemma lineFeed_notMem_utf8EncodeChar {c : Char} (h : c ≠ '\n') :
    0x0A ∉ String.utf8EncodeChar c := by
  intro hmem
  exact h (Char.toNat_inj.mp (toNat_eq_of_mem_utf8EncodeChar hmem (by decide)))

/-- What does not start like a line feed does not so in bytes either. -/
lemma head?_encode_ne_lineFeed {rest : List Char} (h : rest.head? ≠ some '\n') :
    (encode rest).head? ≠ some 0x0A := by
  cases rest with
  | nil => simp
  | cons c rest =>
      have hc : c ≠ '\n' := by simpa using h
      intro hhead
      rw [encode_cons, List.head?_append_of_ne_nil _ (List.ne_nil_of_length_pos
        (String.length_utf8EncodeChar c ▸ c.utf8Size_pos))] at hhead
      exact lineFeed_notMem_utf8EncodeChar hc (List.mem_of_mem_head? hhead)

/-! ## The spans along the list of bytes -/

/-- A stretch without the byte of a break is passed. -/
lemma spansFrom_append {stretch : List UInt8} (hreturn : 0x0D ∉ stretch) (hfeed : 0x0A ∉ stretch)
    (start here : Nat) (rest : List UInt8) :
    spansFrom start here (stretch ++ rest) = spansFrom start (here + stretch.length) rest := by
  induction stretch generalizing here with
  | nil => rfl
  | cons b stretch ih =>
      simp only [List.mem_cons, not_or] at hreturn hfeed
      obtain ⟨hreturn, hreturns⟩ := hreturn
      obtain ⟨hfeed, hfeeds⟩ := hfeed
      rw [List.cons_append, spansFrom, ih hreturns hfeeds]
      · congr 1
        simp only [List.length_cons]
        omega
      all_goals simp [Ne.symm hreturn, Ne.symm hfeed]

/-- A break ends a line, whichever break it is. -/
lemma spansFrom_break {b : Break} {rest : List UInt8}
    (h : b = .carriageReturn → rest.head? ≠ some 0x0A) (start here : Nat) :
    spansFrom start here (encode b.chars ++ rest) =
      ⟨start, here⟩ ::
        spansFrom (here + (encode b.chars).length) (here + (encode b.chars).length) rest := by
  cases b with
  | pair => rfl
  | lineFeed => rfl
  | carriageReturn =>
      show spansFrom start here (0x0D :: rest) = _
      rw [spansFrom]
      · rfl
      · rintro behind rfl
        exact h rfl rfl

/-! ## Spans that cover lines -/

/-- The span begins behind a part of the text and ends behind that part and the line. -/
structure Covers (text : List Char) (span : Span) (line : List Char) : Prop where
  split : ∃ front behind, text = front ++ (line ++ behind) ∧
    span = ⟨(encode front).length, (encode (front ++ line)).length⟩

/-- What is found in `rest` covers its lines, where `line` was read of the first one before. -/
def FindsLines (front line rest : List Char) : Prop :=
  List.Forall₂ (Covers (front ++ (line ++ rest)))
    (spansFrom (encode front).length (encode (front ++ line)).length (encode rest))
    ((linesOf rest).modifyHead (line ++ ·))

/-- Where a line begins, its spans are those of `rest`. -/
lemma findsLines_nil_line_iff {front rest : List Char} :
    FindsLines front [] rest ↔
      List.Forall₂ (Covers (front ++ rest))
        (spansFrom (encode front).length (encode front).length (encode rest)) (linesOf rest) := by
  have hid : (fun line : List Char => [] ++ line) = id := rfl
  rw [FindsLines, hid, List.modifyHead_id, List.append_nil, List.nil_append, id]

lemma findsLines_nil (front line : List Char) : FindsLines front line [] :=
  List.Forall₂.cons ⟨front, [], by simp, by simp⟩ .nil

/-- Behind a break the line is empty, and the break is a part of what stands in front of it. -/
lemma FindsLines.break_append {front line rest : List Char} {b : Break}
    (h : FindsLines (front ++ (line ++ b.chars)) [] rest)
    (hb : b = .carriageReturn → rest.head? ≠ some '\n') :
    FindsLines front line (b.chars ++ rest) := by
  rw [FindsLines, encode_append b.chars, spansFrom_break fun h => head?_encode_ne_lineFeed (hb h),
    linesOf_break hb]
  refine .cons ⟨front, b.chars ++ rest, by simp, by simp⟩ ?_
  simpa [findsLines_nil_line_iff, Nat.add_assoc] using h

/-- Any other character is one more in the line. -/
lemma FindsLines.cons {front line rest : List Char} {c : Char}
    (h : FindsLines front (line ++ [c]) rest) (hreturn : c ≠ '\r') (hfeed : c ≠ '\n') :
    FindsLines front line (c :: rest) := by
  rw [FindsLines, encode_cons, linesOf_cons hreturn hfeed,
    spansFrom_append (carriageReturn_notMem_utf8EncodeChar hreturn)
      (lineFeed_notMem_utf8EncodeChar hfeed)]
  simpa [FindsLines, encode_cons, Function.comp_def, Nat.add_assoc] using h

/-- **The spans cover the lines**, each its own. -/
lemma findsLines (front line rest : List Char) : FindsLines front line rest := by
  induction rest using linesOf.induct generalizing front line with
  | case1 => exact findsLines_nil front line
  | case2 rest ih => exact (ih (front ++ (line ++ Break.pair.chars)) []).break_append (by simp)
  | case3 rest hnot ih =>
      exact (ih (front ++ (line ++ Break.carriageReturn.chars)) []).break_append
        fun _ => head?_ne_lineFeed hnot
  | case4 rest ih => exact (ih (front ++ (line ++ Break.lineFeed.chars)) []).break_append (by simp)
  | case5 c rest _ hreturn hfeed ih => exact (ih front (line ++ [c])).cons hreturn hfeed

lemma forall₂_covers (text : List Char) :
    List.Forall₂ (Covers text) (lineSpans (encode text)) (linesOf text) :=
  findsLines_nil_line_iff.mp (findsLines [] [] text)

/-! ## Cutting -/

/-- Both ends of a span stand between characters of the text, or at one of its ends, and in this
order. -/
structure Span.Fits (span : Span) (text : String) : Prop where
  start_le_stop : span.start ≤ span.stop
  stop_le : span.stop ≤ text.utf8ByteSize
  isValid_start : String.Pos.Raw.IsValid text ⟨span.start⟩
  isValid_stop : String.Pos.Raw.IsValid text ⟨span.stop⟩

lemma exists_pos?_eq_some {text front behind : String} (h : text = front ++ behind) :
    ∃ pos, text.pos? ⟨front.utf8ByteSize⟩ = some pos ∧ pos.Splits front behind := by
  have hvalid : String.Pos.Raw.IsValid text ⟨front.utf8ByteSize⟩ :=
    String.Pos.Raw.isValid_iff_exists_append.mpr ⟨front, behind, h, rfl⟩
  have hslice : String.Pos.Raw.isValidForSlice text.toSlice ⟨front.utf8ByteSize⟩ = true := by
    rw [String.Pos.Raw.isValidForSlice_eq_true_iff, String.Pos.Raw.isValidForSlice_toSlice_iff]
    exact hvalid
  refine ⟨text.pos _ hvalid, ?_, h, rfl⟩
  simp only [String.pos?, String.Slice.pos?, hslice, dif_pos]
  rfl

lemma Covers.exists_append {text : String} {span : Span} {line : List Char}
    (h : Covers text.toList span line) :
    ∃ front behind, text = front ++ String.ofList line ++ behind ∧
      span = ⟨front.utf8ByteSize, (front ++ String.ofList line).utf8ByteSize⟩ := by
  obtain ⟨front, behind, htext, hspan⟩ := h.split
  refine ⟨String.ofList front, String.ofList behind, ?_, ?_⟩
  · rw [← String.toList_inj, htext]
    simp
  · rw [hspan, length_encode, length_encode, String.ofList_append]

lemma Covers.fits {text : String} {span : Span} {line : List Char}
    (h : Covers text.toList span line) : span.Fits text := by
  obtain ⟨front, behind, rfl, rfl⟩ := h.exists_append
  refine ⟨?_, ?_, ?_, ?_⟩
  · simp
  · simp
  · exact String.Pos.Raw.isValid_iff_exists_append.mpr
      ⟨front, String.ofList line ++ behind, String.append_assoc .., rfl⟩
  · exact String.Pos.Raw.isValid_iff_exists_append.mpr ⟨_, behind, rfl, rfl⟩

lemma Covers.cut_eq_some {text : String} {span : Span} {line : List Char}
    (h : Covers text.toList span line) : span.cut text = some (String.ofList line) := by
  obtain ⟨front, behind, htext, rfl⟩ := h.exists_append
  obtain ⟨start, hstart, hfront⟩ := exists_pos?_eq_some (htext.trans (String.append_assoc ..))
  obtain ⟨stop, hstop, hbehind⟩ := exists_pos?_eq_some htext
  obtain ⟨hle, hcopy⟩ := String.copy_slice_eq_iff_splits.mpr ⟨front, behind, hfront, hbehind⟩
  simp only [Span.cut, hstart, hstop, Option.bind_eq_bind, Option.bind_some, String.slice?, hle,
    dif_pos, hcopy, Option.pure_def]

-- Inside a character there is no place to cut.
example : (⟨0, 1⟩ : Span).cut "é" = none := by decide +kernel

lemma Covers.of_bytes {text : String} {span : Span} {line : List Char}
    (h : Covers text.toList span line) : span.of (bytes text) = encode line := by
  obtain ⟨front, behind, htext, rfl⟩ := h.split
  have htake : (bytes text).take (encode (front ++ line)).length = encode (front ++ line) := by
    rw [bytes_eq_encode, htext, ← List.append_assoc, encode_append (front ++ line),
      List.take_left]
  rw [Span.of, htake, encode_append, List.drop_left]

/-! ## The search by offsets -/

/-- The line does not begin behind the byte that is looked at, nor is that behind the end. -/
structure Cursor.Ordered (bytes : List UInt8) (cursor : Cursor) : Prop where
  start_le_here : cursor.start ≤ cursor.here
  here_le_length : cursor.here ≤ bytes.length

/-- What a step does in front of the end.  It passes a break, and a line ends and another begins, or
it passes one byte of something else. -/
lemma Cursor.step_cases {bytes : List UInt8} {cursor : Cursor} (h : cursor.here < bytes.length) :
    (∃ b : Break, (b = .carriageReturn → bytes[cursor.here + 1]? ≠ some 0x0A) ∧
      bytes.drop cursor.here
        = encode b.chars ++ bytes.drop (cursor.here + (encode b.chars).length) ∧
      cursor.line bytes = some ⟨cursor.start, cursor.here⟩ ∧
      cursor.next bytes
        = ⟨cursor.here + (encode b.chars).length, cursor.here + (encode b.chars).length⟩) ∨
    ∃ byte, byte ≠ 0x0D ∧ byte ≠ 0x0A ∧
      bytes.drop cursor.here = byte :: bytes.drop (cursor.here + 1) ∧
      cursor.line bytes = none ∧ cursor.next bytes = ⟨cursor.start, cursor.here + 1⟩ := by
  have hdrop := List.drop_eq_getElem_cons h
  have hget := List.getElem?_eq_getElem h
  by_cases hreturn : bytes[cursor.here] = 0x0D
  · left
    rw [hreturn] at hdrop hget
    by_cases hfeed : bytes[cursor.here + 1]? = some 0x0A
    · -- The line feed behind the carriage return is passed in the same step.
      obtain ⟨hlt, hbyte⟩ := List.getElem?_eq_some_iff.mp hfeed
      rw [List.drop_eq_getElem_cons hlt, hbyte] at hdrop
      have hnext : cursor.next bytes = ⟨cursor.here + 2, cursor.here + 2⟩ := by
        simp [Cursor.next, hget, hfeed]
      exact ⟨.pair, by simp, hdrop, by simp [Cursor.line, hget], hnext⟩
    · have hnext : cursor.next bytes = ⟨cursor.here + 1, cursor.here + 1⟩ := by
        simp [Cursor.next, hget, hfeed]
      exact ⟨.carriageReturn, fun _ => hfeed, hdrop, by simp [Cursor.line, hget], hnext⟩
  by_cases hfeed : bytes[cursor.here] = 0x0A
  · left
    rw [hfeed] at hdrop hget
    have hnext : cursor.next bytes = ⟨cursor.here + 1, cursor.here + 1⟩ := by
      simp [Cursor.next, hget]
    exact ⟨.lineFeed, by simp, hdrop, by simp [Cursor.line, hget], hnext⟩
  · right
    exact ⟨bytes[cursor.here], hreturn, hfeed, hdrop, by simp [Cursor.line, hget],
      by simp [Cursor.next, hget, hreturn, hfeed]⟩

/-- A step in front of the end keeps the order, also where it passes two bytes. -/
lemma Cursor.Ordered.next {bytes : List UInt8} {cursor : Cursor} (h : cursor.Ordered bytes)
    (hlt : cursor.here < bytes.length) : (cursor.next bytes).Ordered bytes := by
  have hle := h.start_le_here
  rcases Cursor.step_cases hlt with ⟨b, -, hdrop, -, hnext⟩ | ⟨byte, -, -, -, -, hnext⟩
  · -- What is passed was there to be looked at.
    have hlength := congrArg List.length hdrop
    simp only [List.length_append, List.length_drop] at hlength
    rw [hnext]
    exact ⟨Nat.le_refl _, by simp only; omega⟩
  · rw [hnext]
    exact ⟨Nat.le_succ_of_le hle, hlt⟩

/-- **The order holds wherever the search stands.** -/
lemma Cursor.Ordered.of_mem_walk {bytes : List UInt8} {cursor : Cursor}
    (h : cursor.Ordered bytes) : ∀ reached ∈ cursor.walk bytes, reached.Ordered bytes := by
  fun_induction Cursor.walk bytes cursor with
  | case1 cursor hlt ih =>
      intro reached hmem
      rcases List.mem_cons.mp hmem with rfl | hmem
      · exact h
      · exact ih (h.next hlt) reached hmem
  | case2 cursor hnot => simpa using h

/-- The search comes to the end of the bytes. -/
lemma Cursor.Ordered.exists_getLast?_walk {bytes : List UInt8} {cursor : Cursor}
    (h : cursor.Ordered bytes) :
    ∃ last, (cursor.walk bytes).getLast? = some last ∧ last.here = bytes.length := by
  fun_induction Cursor.walk bytes cursor with
  | case1 cursor hlt ih =>
      obtain ⟨last, hlast, hhere⟩ := ih (h.next hlt)
      exact ⟨last, by rw [List.getLast?_cons, hlast]; rfl, hhere⟩
  | case2 cursor hnot =>
      have := h.here_le_length
      exact ⟨cursor, rfl, by omega⟩

/-- One step finds what the search along the list finds next. -/
lemma Cursor.spansFrom_drop {bytes : List UInt8} {cursor : Cursor}
    (h : cursor.here < bytes.length) :
    spansFrom cursor.start cursor.here (bytes.drop cursor.here) =
      (cursor.line bytes).toList ++
        spansFrom (cursor.next bytes).start (cursor.next bytes).here
          (bytes.drop (cursor.next bytes).here) := by
  rcases Cursor.step_cases h with
    ⟨b, hfeed, hdrop, hline, hnext⟩ | ⟨byte, hreturn, hfeed, hdrop, hline, hnext⟩
  · rw [hdrop, hline, hnext, spansFrom_break]
    · rfl
    · rintro rfl
      rw [List.head?_drop]
      exact hfeed rfl
  · rw [hdrop, hline, hnext]
    exact @spansFrom_append [byte] (by simpa using hreturn.symm) (by simpa using hfeed.symm) _ _ _

/-- **The search by offsets finds the same spans** as the search along the list. -/
lemma Cursor.Ordered.filterMap_walk {bytes : List UInt8} {cursor : Cursor}
    (h : cursor.Ordered bytes) :
    (cursor.walk bytes).filterMap (Cursor.line bytes) =
      spansFrom cursor.start cursor.here (bytes.drop cursor.here) := by
  fun_induction Cursor.walk bytes cursor with
  | case1 cursor hlt ih =>
      rw [Cursor.spansFrom_drop hlt, ← ih (h.next hlt)]
      cases hline : cursor.line bytes <;> simp [hline]
  | case2 cursor hnot =>
      have hhere : cursor.here = bytes.length := by
        have := h.here_le_length
        omega
      simp [Cursor.line, hhere, spansFrom]

lemma ordered_zero (bytes : List UInt8) : Cursor.Ordered bytes ⟨0, 0⟩ :=
  ⟨Nat.le_refl _, Nat.zero_le _⟩

lemma walkedSpans_eq_lineSpans (bytes : List UInt8) : walkedSpans bytes = lineSpans bytes :=
  (ordered_zero bytes).filterMap_walk

/-! ## The lines of a text -/

lemma forall₂_covers_walkedSpans (text : String) :
    List.Forall₂ (Covers text.toList) (walkedSpans (bytes text)) (linesOf text.toList) := by
  rw [walkedSpans_eq_lineSpans, bytes_eq_encode]
  exact forall₂_covers text.toList

lemma fits_of_forall₂ {text : String} {spans : List Span} {lines : List (List Char)}
    (h : List.Forall₂ (Covers text.toList) spans lines) : ∀ span ∈ spans, span.Fits text := by
  induction h with
  | nil => simp
  | cons hcovers _ ih => exact List.forall_mem_cons.mpr ⟨hcovers.fits, ih⟩

/-- Each span is cut out as the line that it covers. -/
lemma mapM_cut_of_forall₂ {text : String} {spans : List Span} {lines : List (List Char)}
    (h : List.Forall₂ (Covers text.toList) spans lines) :
    spans.mapM (Span.cut · text) = some (lines.map String.ofList) := by
  induction h with
  | nil => rfl
  | cons hcovers _ ih => simp [List.mapM_cons, hcovers.cut_eq_some, ih]

/-- Each span has the bytes of the line that it covers. -/
lemma map_of_bytes_of_forall₂ {text : String} {spans : List Span} {lines : List (List Char)}
    (h : List.Forall₂ (Covers text.toList) spans lines) :
    spans.map (Span.of · (bytes text)) = lines.map encode := by
  induction h with
  | nil => rfl
  | cons hcovers _ ih => simp [hcovers.of_bytes, ih]

/-- What the search for breaks does with a text. -/
structure WalksLines (text : String) : Prop where
  /-- Wherever the search stands, its two offsets are in order and inside the text. -/
  ordered : ∀ cursor ∈ walk (bytes text), cursor.Ordered (bytes text)
  /-- Whichever line it finds there, the text can be cut where the line begins and ends. -/
  fits : ∀ cursor ∈ walk (bytes text), ∀ span,
    cursor.line (bytes text) = some span → span.Fits text
  /-- It stops at the end, where the last line ends too, also behind a break. -/
  stops : ∃ last, (walk (bytes text)).getLast? = some last ∧
    last.here = text.utf8ByteSize ∧
    last.line (bytes text) = some ⟨last.start, text.utf8ByteSize⟩
  /-- No cut fails, and what is cut out are the lines found character by character. -/
  cut : cutLines text = some (lines text)
  /-- The bytes inside the spans are those of these lines, one span for each line. -/
  encoded : (walkedSpans (bytes text)).map (Span.of · (bytes text)) = (lines text).map bytes

/-- **No line is cut inside a character.**  The search for breaks looks at single bytes, and in
every text all that it cuts at are ends of characters.  What it finds are the lines of the text. -/
theorem walksLines (text : String) : WalksLines text where
  ordered := (ordered_zero (bytes text)).of_mem_walk
  fits := by
    intro cursor hmem span hline
    have hfound : span ∈ walkedSpans (bytes text) := List.mem_filterMap.mpr ⟨cursor, hmem, hline⟩
    exact fits_of_forall₂ (forall₂_covers_walkedSpans text) span hfound
  stops := by
    obtain ⟨last, hlast, hhere⟩ := (ordered_zero (bytes text)).exists_getLast?_walk
    refine ⟨last, hlast, by rw [hhere, length_bytes], ?_⟩
    simp [Cursor.line, hhere, length_bytes]
  cut := mapM_cut_of_forall₂ (forall₂_covers_walkedSpans text)
  encoded := by
    rw [map_of_bytes_of_forall₂ (forall₂_covers_walkedSpans text), lines, List.map_map]
    exact List.map_congr_left fun line _ => (bytes_ofList line).symm

/-- Behind a break of two characters at the end of a text, an empty line is cut out there. -/
theorem walksLines_pair_at_end :
    (⟨4, 4⟩ ∈ walk (bytes "é\r\n") ∧
        Cursor.line (bytes "é\r\n") ⟨4, 4⟩ = some ⟨4, 4⟩) ∧
      (⟨4, 4⟩ : Span).Fits "é\r\n" ∧ cutLines "é\r\n" = some ["é", ""] := by
  have hmem : ⟨4, 4⟩ ∈ walk (bytes "é\r\n") := by decide +kernel
  have hline : Cursor.line (bytes "é\r\n") ⟨4, 4⟩ = some ⟨4, 4⟩ := by decide +kernel
  have hlines : lines "é\r\n" = ["é", ""] := by decide +kernel
  have hwalks := walksLines "é\r\n"
  exact ⟨⟨hmem, hline⟩, hwalks.fits _ hmem _ hline, hlines ▸ hwalks.cut⟩

end ChatPanel.Text
