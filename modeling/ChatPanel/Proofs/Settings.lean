import ChatPanel.Proofs.Json.Records
import ChatPanel.Proofs.Text.Blank
import ChatPanel.Settings

/-!
# What a settings record means

The page passes its settings as an object.  What comes of it is a question about the values that each
setting is given, under either of its names.

* `Settings.IsMalformed` — a setting is given twice, or has a value of the wrong type.
* `Settings.HasBlankEndpoint` — the endpoint is given, and there is nothing in it to read.
* `Settings.Reflects` — every setting has the value it is given, or its default.
* **`Settings.read_of_isObject`** — these three decide what is read from any text that is an object, in
  this order, and nothing else has a part in it.

**Order.**  A blank endpoint is noticed last, behind any other offence in the text, although it may
stand first.  And no order of the members, no member of another name and no choice between two names
changes the outcome (`Settings.Rewording`).
-/

namespace ChatPanel.Settings

open Json

variable {members members' : List Member} {text text' : String}

/-! ## The settings that a text gives -/

/-- The keys that a setting may stand under. -/
def keys : Field → List String
  | .authenticated => ["authenticated", "isUserAuthenticated"]
  | .endpoint => ["endpoint"]
  | .title => ["title"]
  | .disclaimer => ["disclaimer"]
  | .mountPoint => ["mount_selector", "mountSelector"]

/-- Is the value of the type that the setting asks for? -/
def Admits : Field → Value → Prop
  | .authenticated, v => ∃ value, v = .flag value
  | .mountPoint, v => v = .null ∨ ∃ s : String, v = .string (some s.toList)
  | _, v => ∃ s : String, v = .string (some s.toList)

/-- Some setting is given more than once, or has a value of the wrong type. -/
def IsMalformed (members : List Member) : Prop :=
  ∃ field, 1 < (given (keys field) members).length ∨
    ∃ v ∈ given (keys field) members, ¬ Admits field v

/-- The endpoint is given, and it is empty or blank. -/
def HasBlankEndpoint (members : List Member) : Prop :=
  ∃ s : String, .string (some s.toList) ∈ given (keys .endpoint) members ∧
    ∀ c ∈ s.toList, Text.isBlank c = true

/-- Every setting has the value that it is given, or its default if it is given none. -/
structure Reflects (settings : Settings) (members : List Member) : Prop where
  authenticated :
    given (keys .authenticated) members = [] ∧ settings.authenticated = false ∨
      given (keys .authenticated) members = [.flag settings.authenticated]
  endpoint :
    given (keys .endpoint) members = [] ∧ settings.endpoint = "/" ∨
      given (keys .endpoint) members = [.string (some settings.endpoint.toList)]
  title :
    given (keys .title) members = [] ∧ settings.title = "Chat" ∨
      given (keys .title) members = [.string (some settings.title.toList)]
  disclaimer :
    given (keys .disclaimer) members = [] ∧
        settings.disclaimer = "Replies are generated automatically from public market data and " ++
          "may be incomplete or out of date. Nothing shown here is financial advice." ∨
      given (keys .disclaimer) members = [.string (some settings.disclaimer.toList)]
  mountPoint :
    given (keys .mountPoint) members = [] ∧ settings.mountPoint = none ∨
      given (keys .mountPoint) members = [.null] ∧ settings.mountPoint = none ∨
      ∃ s, given (keys .mountPoint) members = [.string (some s.toList)] ∧
        settings.mountPoint = some s

/-! ## The record and its fields -/

lemma distinct_schema : schema.Distinct := by
  have hall (field : Field) :
      field ∈ [Field.authenticated, .endpoint, .title, .disclaimer, .mountPoint] := by
    cases field <;> decide
  exact Schema.distinct_of_nodup hall (by decide)

lemma names_schema (field : Field) : schema.names field = keys field := by
  cases field <;> rfl

lemma mem_keys_iff {key : String} {field : Field} :
    key ∈ keys field ↔ schema.fieldOf key = some field := by
  rw [← names_schema]
  exact (distinct_schema key field).symm

/-- A setting holds the values of its type. -/
lemma held_ne_none_iff {field : Field} {v : Value} : field.kind.held v ≠ none ↔ Admits field v := by
  rw [Option.ne_none_iff_exists']
  cases field with
  | authenticated => exact exists_congr fun _ => held_flag_eq_some_iff
  | endpoint | title | disclaimer => exact exists_congr fun _ => held_text_eq_some_iff
  | mountPoint =>
      refine (exists_congr fun _ => held_optionalText_eq_some_iff).trans ?_
      constructor
      · rintro ⟨_, ⟨hnull, -⟩ | ⟨s, hs, -⟩⟩
        · exact .inl hnull
        · exact .inr ⟨s, hs⟩
      · rintro (hnull | ⟨s, hs⟩)
        · exact ⟨none, .inl ⟨hnull, rfl⟩⟩
        · exact ⟨some s, .inr ⟨s, hs, rfl⟩⟩

/-- What the record refuses is what is malformed. -/
lemma refuses_iff : schema.Refuses members ↔ IsMalformed members := by
  have hfield (field : Field) :
      field.kind.gets (given (schema.names field) members) = none ↔
        1 < (given (keys field) members).length ∨
          ∃ v ∈ given (keys field) members, ¬ Admits field v := by
    simp only [gets_eq_none_iff, names_schema, ← held_ne_none_iff, not_not]
  exact exists_congr hfield

/-! ## From what was read to the settings -/

lemma gets_flag {values : List Value} {found : Option Bool}
    (h : Kind.flag.gets values = some found) (missing : Bool) :
    values = [] ∧ found.getD missing = missing ∨ values = [.flag (found.getD missing)] := by
  rcases gets_eq_some_iff.mp h with ⟨hnone, rfl⟩ | ⟨v, value, hv, hheld, rfl⟩
  · exact .inl ⟨hnone, rfl⟩
  · exact .inr (by rw [hv, held_flag_eq_some_iff.mp hheld, Option.getD_some])

lemma gets_text {values : List Value} {found : Option String}
    (h : Kind.text.gets values = some found) (missing : String) :
    values = [] ∧ found.getD missing = missing ∨
      values = [.string (some (found.getD missing).toList)] := by
  rcases gets_eq_some_iff.mp h with ⟨hnone, rfl⟩ | ⟨v, s, hv, hheld, rfl⟩
  · exact .inl ⟨hnone, rfl⟩
  · exact .inr (by rw [hv, held_text_eq_some_iff.mp hheld, Option.getD_some])

lemma gets_optionalText {values : List Value} {found : Option (Option String)}
    (h : Kind.optionalText.gets values = some found) :
    values = [] ∧ found.getD none = none ∨ values = [.null] ∧ found.getD none = none ∨
      ∃ s : String, values = [.string (some s.toList)] ∧ found.getD none = some s := by
  rcases gets_eq_some_iff.mp h with ⟨hnone, rfl⟩ | ⟨v, held, hv, hheld, rfl⟩
  · exact .inl ⟨hnone, rfl⟩
  · rcases held_optionalText_eq_some_iff.mp hheld with ⟨rfl, rfl⟩ | ⟨s, rfl, rfl⟩
    · exact .inr (.inl ⟨hv, rfl⟩)
    · exact .inr (.inr ⟨s, hv, rfl⟩)

/-- What was read, with the defaults filled in, reflects the members. -/
lemma reflects_ofFound {found : schema.Found} (h : found.Collects members) :
    (ofFound found).Reflects members where
  authenticated := gets_flag (h Field.authenticated) _
  endpoint := gets_text (h Field.endpoint) _
  title := gets_text (h Field.title) _
  disclaimer := by
    have hdefault : default.disclaimer =
        "Replies are generated automatically from public market data and " ++
          "may be incomplete or out of date. Nothing shown here is financial advice." := by
      decide +kernel
    rw [← hdefault]
    exact gets_text (h Field.disclaimer) _
  mountPoint := gets_optionalText (h Field.mountPoint)

/-- The endpoint that is read is blank only if it is given so: its default is not. -/
lemma trim_endpoint_eq_empty_iff {settings : Settings} (h : settings.Reflects members) :
    Text.trim settings.endpoint = "" ↔ HasBlankEndpoint members := by
  rw [Text.trim_eq_empty_iff, HasBlankEndpoint]
  rcases h.endpoint with ⟨hnone, hdefault⟩ | hgiven
  · rw [hnone, hdefault]
    have hslash : ¬ ∀ c ∈ "/".toList, Text.isBlank c = true :=
      fun hall => absurd (hall '/' (by decide)) (by decide)
    exact iff_of_false hslash (by simp)
  · rw [hgiven]
    constructor
    · exact fun hblank => ⟨settings.endpoint, List.mem_singleton_self _, hblank⟩
    · rintro ⟨s, hs, hblank⟩
      simp only [List.mem_singleton, Value.string.injEq, Option.some.injEq] at hs
      rwa [hs] at hblank

/-- A text that stands for these members is read as what they give, or it is malformed, as they are. -/
lemma read_of_readsAs (h : schema.ReadsAs members text) :
    (∃ found : schema.Found, found.Collects members ∧
      read text = if Text.trim (ofFound found).endpoint = "" then .error .blankEndpoint
        else .ok (ofFound found)) ∧ ¬ IsMalformed members ∨
      (∃ error, read text = .error (.malformed error)) ∧ IsMalformed members := by
  rcases h with ⟨found, hread, hfound⟩ | ⟨⟨error, hread⟩, hrefuses⟩
  · refine .inl ⟨⟨found, hfound, by rw [read, hread]⟩, fun hbad => ?_⟩
    obtain ⟨field, hfield⟩ := refuses_iff.mpr hbad
    exact absurd ((hfound field).symm.trans hfield) (by simp)
  · exact .inr ⟨⟨error, by rw [read, hread]⟩, refuses_iff.mp hrefuses⟩

lemma read_malformed (h : IsObject members text) (hbad : IsMalformed members) :
    ∃ error, read text = .error (.malformed error) := by
  rcases read_of_readsAs (Schema.read_object distinct_schema h) with ⟨-, hgood⟩ | ⟨herror, -⟩
  · exact absurd hbad hgood
  · exact herror

lemma read_wellFormed (h : IsObject members text) (hgood : ¬ IsMalformed members) :
    ∃ found : schema.Found, found.Collects members ∧
      read text = if Text.trim (ofFound found).endpoint = "" then .error .blankEndpoint
        else .ok (ofFound found) := by
  rcases read_of_readsAs (Schema.read_object distinct_schema h) with ⟨hread, -⟩ | ⟨-, hbad⟩
  · exact hread
  · exact absurd hbad hgood

/-! ## Rewording -/

/-- Other members that mean the same. -/
inductive Rewording : List Member → List Member → Prop where
  /-- The members stand in another order. -/
  | permute {members members' : List Member} (h : members.Perm members') :
      Rewording members members'
  /-- One more member, under a key that is no setting. -/
  | insert (before after : List Member) (member : Member) (h : ∀ field, member.key ∉ keys field) :
      Rewording (before ++ after) (before ++ member :: after)
  /-- One member stands under the other name of its setting. -/
  | rename (before after : List Member) (value : Value) {field : Field} {key key' : String}
      (hkey : key ∈ keys field) (hkey' : key' ∈ keys field) :
      Rewording (before ++ ⟨key, value⟩ :: after) (before ++ ⟨key', value⟩ :: after)
  | symm {members members' : List Member} (h : Rewording members members') :
      Rewording members' members
  | trans {members members' members'' : List Member} (h : Rewording members members')
      (h' : Rewording members' members'') : Rewording members members''

lemma Rewording.given_perm (h : Rewording members members') (field : Field) :
    (given (keys field) members).Perm (given (keys field) members') := by
  induction h with
  | permute h => exact (h.filter _).map _
  | insert before after member hkey =>
      simp [given, hkey field]
  | @rename before after value other key key' hkey hkey' =>
      have hboth : key ∈ keys field ↔ key' ∈ keys field := by
        rw [mem_keys_iff, mem_keys_iff, mem_keys_iff.mp hkey, mem_keys_iff.mp hkey']
      by_cases hin : key ∈ keys field
      · simp [given, hin, hboth.mp hin]
      · simp [given, hin, mt hboth.mpr hin]
  | symm _ ih => exact ih.symm
  | trans _ _ ih ih' => exact ih.trans ih'

/-- What is given more than once, or has the wrong type, is so in any wording. -/
lemma IsMalformed.reword (hbad : IsMalformed members)
    (h : ∀ field, (given (keys field) members).Perm (given (keys field) members')) :
    IsMalformed members' := by
  obtain ⟨field, hmany | ⟨v, hv, hnot⟩⟩ := hbad
  · exact ⟨field, .inl ((h field).length_eq ▸ hmany)⟩
  · exact ⟨field, .inr ⟨v, (h field).mem_iff.mp hv, hnot⟩⟩

/-- Two lists of at most one element that are permutations of each other are the same. -/
lemma eq_of_perm_of_length_le {α : Type} {l l' : List α} (h : l.Perm l') (hlength : l.length ≤ 1) :
    l = l' := by
  match l with
  | [] => exact (List.nil_perm.mp h).symm
  | [a] => exact (List.singleton_perm.mp h).symm ▸ rfl

/-- The same result, or both times a malformed text. -/
def SameOutcome (result result' : Except Refusal Settings) : Prop :=
  result = result' ∨
    ∃ error error', result = .error (.malformed error) ∧ result' = .error (.malformed error')

lemma sameOutcome_of_rewording (h : IsObject members text) (h' : IsObject members' text')
    (hreword : Rewording members members') : SameOutcome (read text) (read text') := by
  by_cases hbad : IsMalformed members
  · obtain ⟨error, hread⟩ := read_malformed h hbad
    obtain ⟨error', hread'⟩ := read_malformed h' (hbad.reword hreword.given_perm)
    exact .inr ⟨error, error', hread, hread'⟩
  · have hgood' : ¬ IsMalformed members' :=
      fun hbad' => hbad (hbad'.reword fun field => (hreword.given_perm field).symm)
    obtain ⟨found, hfound, hread⟩ := read_wellFormed h hbad
    obtain ⟨found', hfound', hread'⟩ := read_wellFormed h' hgood'
    -- at most one value is given to each setting, so that a permutation leaves it where it is
    have hgiven (field : Field) :
        given (schema.names field) members = given (schema.names field) members' := by
      have hle : (given (keys field) members).length ≤ 1 :=
        Nat.not_lt.mp fun hmany => hbad ⟨field, .inl hmany⟩
      rw [names_schema, eq_of_perm_of_length_le (hreword.given_perm field) hle]
    exact .inl (by rw [hread, hread', hfound.eq hfound' hgiven])

/-- **What a settings record means.**  A text that is an object is refused as malformed if a setting
is given more than once, under whichever of its names, or has a value of the wrong type.  Otherwise it
is refused if its endpoint is blank, and read as the settings that reflect it if not.  Rewording the
record changes nothing. -/
theorem read_of_isObject {members : List Member} {text : String} (h : IsObject members text) :
    (IsMalformed members → ∃ error, read text = .error (.malformed error)) ∧
    (¬ IsMalformed members →
      (read text = .error .blankEndpoint ↔ HasBlankEndpoint members) ∧
      (¬ HasBlankEndpoint members →
        ∃ settings, read text = .ok settings ∧ settings.Reflects members)) ∧
    ∀ members' text', Rewording members members' → IsObject members' text' →
      SameOutcome (read text) (read text') := by
  refine ⟨read_malformed h, fun hgood => ?_,
    fun members' text' hreword h' => sameOutcome_of_rewording h h' hreword⟩
  obtain ⟨found, hfound, hread⟩ := read_wellFormed h hgood
  have hreflects := reflects_ofFound hfound
  have hblank := trim_endpoint_eq_empty_iff hreflects
  rw [hread]
  constructor
  · rw [← hblank]
    split <;> simp_all
  · intro hnot
    exact ⟨ofFound found, if_neg (mt hblank.mp hnot), hreflects⟩

/-- A setting may stand under its second name, and the others have their defaults. -/
theorem read_of_isObject_second_name :
    IsObject [⟨"mountSelector", .string (some ['#', 'a'])⟩, ⟨"x", .null⟩]
      "\x7b\"mountSelector\": \"#a\",\"x\":null\x7d" ∧
    ∃ settings, read "\x7b\"mountSelector\": \"#a\",\"x\":null\x7d" = .ok settings ∧
      settings.mountPoint = some "#a" ∧ settings.endpoint = "/" ∧ settings.title = "Chat" ∧
      settings.authenticated = false ∧
      settings.disclaimer = "Replies are generated automatically from public market data and " ++
        "may be incomplete or out of date. Nothing shown here is financial advice." := by
  have hend : Laid [] [] := .nil (by simp [IsSpace])
  have hnull : Laid [.mark ':', .word ['n', 'u', 'l', 'l'], .mark '}'] ":null\x7d".toList :=
    ((hend.mark (by decide)).token (.word (by decide))).mark (by decide)
  have hmember : Laid (.mark ',' :: .string (some "x".toList) :: _) ",\"x\":null\x7d".toList :=
    (hnull.string (spelled_self (by simp [IsPlain]))).mark (by decide)
  have hvalue : Laid (.mark ':' :: .string (some ['#', 'a']) :: _)
      ": \"#a\",\"x\":null\x7d".toList :=
    ((hmember.string (@spelled_self ['#', 'a'] (by simp [IsPlain]))).gap (by decide)).mark (by decide)
  have hobject : IsObject [⟨"mountSelector", .string (some ['#', 'a'])⟩, ⟨"x", .null⟩]
      "\x7b\"mountSelector\": \"#a\",\"x\":null\x7d" :=
    (hvalue.string (@spelled_self "mountSelector".toList (by simp [IsPlain]))).mark (by decide)
  have hgood : ¬ IsMalformed [⟨"mountSelector", .string (some ['#', 'a'])⟩, ⟨"x", .null⟩] := by
    rintro ⟨field, hfield⟩
    cases field <;> simp [given, keys, Admits] at hfield
    exact hfield "#a" rfl
  have hnot : ¬ HasBlankEndpoint [⟨"mountSelector", .string (some ['#', 'a'])⟩, ⟨"x", .null⟩] := by
    simp [HasBlankEndpoint, given, keys]
  obtain ⟨settings, hread, hreflects⟩ := ((read_of_isObject hobject).2.1 hgood).2 hnot
  refine ⟨hobject, settings, hread, ?_, ?_, ?_, ?_, ?_⟩
  · obtain ⟨s, hs, hmount⟩ : ∃ s : String, ['#', 'a'] = s.toList ∧ settings.mountPoint = some s := by
      simpa [given, keys] using hreflects.mountPoint
    rw [hmount, ← ofList_eq_iff.mpr hs]
  · simpa [given, keys] using hreflects.endpoint
  · simpa [given, keys] using hreflects.title
  · simpa [given, keys] using hreflects.authenticated
  · simpa [given, keys] using hreflects.disclaimer

end ChatPanel.Settings
