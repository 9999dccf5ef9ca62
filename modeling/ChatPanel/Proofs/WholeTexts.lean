import ChatPanel.Exchange
import ChatPanel.Proofs.Json.Extended.Records
import ChatPanel.Settings

/-!
# Only whole texts are read

A text that reaches the panel may have been cut off, or something may stand behind it.  Neither is
taken for the text itself: with space behind it a text reads as it did, and if one text is longer
than another by more than that, at most one of the two is accepted.

* `ReadsWhole` — what this says of a reader of texts.
* `readsWhole_of_schema` — it holds of whatever is made of a record.
* **`readsWhole_decode_and_readsWhole_read`** — replies, and settings.  Settings with a blank
  endpoint are turned down, but only once their text has been read, and so that text counts as
  accepted.
-/

namespace ChatPanel

open Json

/-- A reader that takes neither a part of an accepted text nor more than it for the text itself. -/
structure ReadsWhole {α : Type} (read : String → α) (accepted refused : String → Prop) : Prop where
  /-- Every text is either accepted or refused. -/
  accepted_iff : ∀ text, accepted text ↔ ¬ refused text
  /-- Space behind an accepted text changes nothing. -/
  space : ∀ text more, accepted text → IsSpace more.toList → read (text ++ more) = read text
  /-- Anything else behind it does. -/
  excess : ∀ text more, accepted text → ¬ IsSpace more.toList → refused (text ++ more)
  /-- An accepted text that is cut off is refused, if more than space is lost. -/
  cut : ∀ text more, accepted (text ++ more) → ¬ IsSpace more.toList → refused text

/-- A record is read as a whole, and so is what depends on nothing but the record. -/
lemma readsWhole_of_schema (schema : Schema) {α : Type} {read : String → α}
    {accepted refused : String → Prop}
    (hok : ∀ text found, schema.read text = .ok found → accepted text)
    (herror : ∀ text error, schema.read text = .error error → refused text)
    (hnot : ∀ text, accepted text → ¬ refused text)
    (hread : ∀ text text' found, schema.read text = .ok found → schema.read text' = .ok found →
      read text' = read text) :
    ReadsWhole read accepted refused := by
  have hfound {text : String} (h : accepted text) : ∃ found, schema.read text = .ok found := by
    cases hresult : schema.read text with
    | ok found => exact ⟨found, rfl⟩
    | error error => exact absurd (herror text error hresult) (hnot text h)
  have hexcess {text more : String} (h : accepted text) (hmore : ¬ IsSpace more.toList) :
      refused (text ++ more) := by
    obtain ⟨found, hresult⟩ := hfound h
    have hlonger := Schema.read_append hresult more
    split at hlonger
    · next hskip => exact absurd (skipGap_eq_nil_iff.mp hskip) hmore
    · exact herror _ _ hlonger
  -- a text that is not accepted was no record
  have hrefused {text : String} (h : ¬ accepted text) : refused text := by
    cases hresult : schema.read text with
    | ok found => exact absurd (hok text found hresult) h
    | error error => exact herror text error hresult
  constructor
  · exact fun text => ⟨hnot text, fun h => by_contra fun hno => h (hrefused hno)⟩
  · intro text more h hmore
    obtain ⟨found, hresult⟩ := hfound h
    have hlonger := Schema.read_append hresult more
    rw [skipGap_eq_nil_iff.mpr hmore] at hlonger
    exact hread text _ found hresult hlonger
  · exact fun text more => hexcess
  · exact fun text more hlonger hmore => hrefused fun h => hnot _ hlonger (hexcess h hmore)

/-- **Neither a reply nor settings are read from a part of their text, or from more than it.** -/
theorem readsWhole_decode_and_readsWhole_read :
    ReadsWhole Reply.decode (fun body => ∃ reply, Reply.decode body = .ok reply)
        (fun body => ∃ reason, Reply.decode body = .error (.decode reason)) ∧
      ReadsWhole Settings.read
        (fun text => (∃ settings, Settings.read text = .ok settings) ∨
          Settings.read text = .error .blankEndpoint)
        (fun text => ∃ error, Settings.read text = .error (.malformed error)) := by
  constructor
  · apply readsWhole_of_schema Reply.schema
    · intro body found h
      exact ⟨Reply.ofFound found, by rw [Reply.decode, h]⟩
    · intro body error h
      exact ⟨error.message, by rw [Reply.decode, h]⟩
    · rintro body ⟨reply, h⟩ ⟨reason, h'⟩
      cases h.symm.trans h'
    · intro body body' found h h'
      rw [Reply.decode, Reply.decode, h, h']
  · apply readsWhole_of_schema Settings.schema
    · intro text found h
      rw [Settings.read, h]
      by_cases hblank : Text.trim (Settings.ofFound found).endpoint = ""
      · exact .inr (if_pos hblank)
      · exact .inl ⟨Settings.ofFound found, if_neg hblank⟩
    · intro text error h
      exact ⟨error, by rw [Settings.read, h]⟩
    · rintro text (⟨settings, h⟩ | h) ⟨error, h'⟩ <;> cases h.symm.trans h'
    · intro text text' found h h'
      rw [Settings.read, Settings.read, h, h']

/-- A reply with a line feed behind it, with one brace too many and with one missing, and settings with
a blank endpoint and a comma. -/
theorem decode_only_whole_answer :
    Reply.decode "\x7b\"content\":\"\\n\"\x7d" = .ok ⟨some "\n", none⟩ ∧
      Reply.decode ("\x7b\"content\":\"\\n\"\x7d" ++ " \n") = .ok ⟨some "\n", none⟩ ∧
      (∃ reason, Reply.decode ("\x7b\"content\":\"\\n\"\x7d" ++ "\x7d")
        = .error (.decode reason)) ∧
      (∃ reason, Reply.decode "\x7b\"content\":\"\\n\"" = .error (.decode reason)) ∧
      Settings.read "\x7b\"endpoint\":\" \"\x7d" = .error .blankEndpoint ∧
      ∃ error, Settings.read ("\x7b\"endpoint\":\" \"\x7d" ++ ",") = .error (.malformed error) := by
  have hreply : Reply.decode "\x7b\"content\":\"\\n\"\x7d" = .ok ⟨some "\n", none⟩ := by
    decide +kernel
  have hsettings : Settings.read "\x7b\"endpoint\":\" \"\x7d" = .error .blankEndpoint := by
    decide +kernel
  obtain ⟨hdecode, hread⟩ := readsWhole_decode_and_readsWhole_read
  refine ⟨hreply, ?_, ?_, ?_, hsettings, ?_⟩
  · rw [hdecode.space _ _ ⟨_, hreply⟩ (by simp [IsSpace]), hreply]
  · exact hdecode.excess _ _ ⟨_, hreply⟩ (by simp [IsSpace])
  · exact hdecode.cut _ "\x7d" ⟨_, hreply⟩ (by simp [IsSpace])
  · exact hread.excess _ _ (.inr hsettings) (by simp [IsSpace])

end ChatPanel
