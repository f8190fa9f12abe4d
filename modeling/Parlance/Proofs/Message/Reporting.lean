import Parlance.Entry
import Parlance.Proofs.Message.Places

/-!
# What is reported of a text that is no message

A text that is refused is refused with a fault, and the fault is reported with a diagnostic that
points into the text (`reported_of_parse`). The one refusal that is not reported is that of an exact
key whose digits are too many for an integer (`MeetsLongKey`, `parse_eq_oversized_iff`): it stops
the run also where a rendition could have been treated as missing (`readOrReported_iff`).
-/

namespace Parlance.Grammar

open Parlance.Message Parlance.Token Parlance.Number

/-- Whether a span can be made of its two ends. -/
def IsSpan (span : Span) : Prop := Span.between span.start span.stop = .ok span

/-- Whether a text is refused in the program's own words, with a diagnostic that points to a place
in the text or to its end. -/
def Reported (site : Site) (e : ParseFailure) : Prop :=
  ∃ f d l i, Failure.ofParse site e = .fault (.message site f) ∧
    (Fault.message site f).diagnostic? = some d ∧ d.location = some l ∧ l.index = some i ∧
    Location.within site.file site.key site.text (some (i : Int)) = .ok l

/-- Whether a text is read as a message all of whose spans are some, or refused with a report. -/
def ReadOrReported (options : ReadingOptions) (site : Site) : Prop :=
  (∃ m, parse options site.text = .ok m ∧ AllSpans IsSpan m) ∨
    ∃ e, parse options site.text = .error e ∧ Reported site e

/-- Whether the reader comes to the number of an exact key with more digits than an integer may
have, without having gone too deep. -/
def MeetsLongKey (options : ReadingOptions) (text : String) : Prop :=
  ∃ before t after s, ofText options.quoting text = .ok (before ++ t :: after) ∧
    steps options text.toList State.start before = .ok s ∧
    s.outer.length ≤ options.limit.toNat ∧
    (∃ choice keyStart, s.stage = .exactKey choice keyStart) ∧
    t.kind = .number ∧ digitLimit < t.value.length

section

variable {options : ReadingOptions}

/-- A fault is reported (`Reported`) where it points into the text. -/
theorem reported_of_located_le {site : Site} {f : MessageFault}
    (h : f.located ≤ site.text.length) : Reported site (.fault f) := by
  refine ⟨f, _, _, f.located, rfl, rfl, rfl, rfl, ?_⟩
  have hwithin : (0 : Int) ≤ f.located ∧ (f.located : Int) ≤ site.text.length := by omega
  rw [Location.within, if_pos hwithin, Int.toNat_natCast]

/-- Every fault of a text is reported (`Reported`). -/
theorem reported_of_parse {site : Site} {f : MessageFault}
    (h : parse options site.text = .error (.fault f)) : Reported site (.fault f) := by
  obtain ⟨hlocated, hindex⟩ := index_le_of_parse h
  exact reported_of_located_le (hlocated ▸ hindex)

/-- A number that is too long has no words (`Reported`). -/
private theorem not_reported_oversized {site : Site} {digits : Nat} :
    ¬ Reported site (.oversizedNumber digits) := by
  rintro ⟨f, -, -, -, h, -⟩
  cases h

/-- A text is refused for a number that is too long just where the reader comes to one
(`MeetsLongKey`). -/
theorem parse_eq_oversized_iff {text : String} :
    (∃ digits, parse options text = .error (.oversizedNumber digits)) ↔
      MeetsLongKey options text := by
  constructor
  · rintro ⟨digits, h⟩
    rcases parse_eq_error_cases h with
      ⟨f, -, hf⟩ | ⟨before, t, after, s, htokens, hbefore, hstep⟩ | ⟨s, hfinish⟩
    · cases hf
    · obtain ⟨hdepth, hstage, hkind, hlong, -⟩ := step_eq_oversized_iff.1 hstep
      exact ⟨before, t, after, s, htokens, hbefore, hdepth, hstage, hkind, hlong⟩
    · rcases finish_eq_error hfinish with he | ⟨expected, he⟩ <;> cases he
  · rintro ⟨before, t, after, s, htokens, hsteps, hdepth, hstage, hkind, hlong⟩
    -- The other direction: where the reader comes to such a key, the step is the refusal.
    have hrefused : Message.step options text.toList s t =
        .error (.oversizedNumber t.value.length) :=
      step_eq_oversized_iff.2 ⟨hdepth, hstage, hkind, hlong, rfl⟩
    exact ⟨t.value.length, parse_of_step_eq_error htokens hsteps hrefused⟩

/-- A text with a number that is too long is neither read nor refused with a report
(`ReadOrReported`). -/
theorem not_readOrReported_of_meets {site : Site} (h : MeetsLongKey options site.text) :
    ¬ ReadOrReported options site := by
  obtain ⟨digits, hdigits⟩ := parse_eq_oversized_iff.2 h
  rintro (⟨m, hm, -⟩ | ⟨e, he, hreported⟩)
  · cases hm.symm.trans hdigits
  · cases he.symm.trans hdigits
    exact not_reported_oversized hreported

/-- What a rendition becomes that is not of the template: a message (`messageOf`), or nothing at
all, unless a number is too long. -/
theorem messageOf_eq_ok_iff {entryOptions : EntryOptions} {notes : Entry.Notes} {key text : String}
    {bundle : Bundle} :
    (∃ m, (Entry.messageOf entryOptions notes key bundle false (some text)).result = .ok m) ↔
      ¬ MeetsLongKey (Entry.readingOptions entryOptions notes) text := by
  rw [← parse_eq_oversized_iff, Entry.messageOf]
  cases hparse : parse (Entry.readingOptions entryOptions notes) text with
  | ok m => exact iff_of_true ⟨⟨some m, false⟩, rfl⟩ nofun
  | error e =>
    cases e with
    -- only a number that is too long is not recovered from
    | oversizedNumber digits => exact iff_of_false nofun fun h => h ⟨digits, rfl⟩
    | fault f =>
      refine iff_of_true ⟨⟨none, true⟩, ?_⟩ nofun
      dsimp only
      rw [if_neg (by decide)]
      split <;> rfl

/-- A text is read as a message or refused with a report of the place, and as a rendition it becomes
a message or is treated as missing, if and only if the reader comes to no exact key with too many
digits (`MeetsLongKey`). -/
theorem readOrReported_iff (options : ReadingOptions) (site : Site) :
    (ReadOrReported options site ↔ ¬ MeetsLongKey options site.text) ∧
      ∀ entryOptions notes key bundle,
        (∃ m, (Entry.messageOf entryOptions notes key bundle false
          (some site.text)).result = .ok m) ↔
            ¬ MeetsLongKey (Entry.readingOptions entryOptions notes) site.text := by
  refine ⟨⟨fun h hmeets => not_readOrReported_of_meets hmeets h, fun h => ?_⟩,
    fun _ _ _ _ => messageOf_eq_ok_iff⟩
  cases hparse : parse options site.text with
  | ok m =>
    -- the spans of a message that is read lie in the text
    have hspans := AllSpans.mono (fun _ => EndsBy.between) m (allSpans_of_parse hparse)
    exact .inl ⟨m, hparse, hspans⟩
  | error e =>
    cases e with
    | fault f => exact .inr ⟨.fault f, hparse, reported_of_parse hparse⟩
    | oversizedNumber digits => exact absurd (parse_eq_oversized_iff.1 ⟨digits, hparse⟩) h

end

/-! ## Exact keys of any length -/

/-- What comes before the digits of an exact key. -/
def beforeDigits : String := "\x7bn,plural,="

/-- What comes after the digits of an exact key. -/
def afterDigits : String := "\x7bx\x7dother\x7by\x7d\x7d"

/-- A plural with an exact key of some digits. -/
def exactKeyText (digits : List Char) : String :=
  String.ofList (beforeDigits.toList ++ (digits ++ afterDigits.toList))

/-- The characters of the text with an exact key (`exactKeyText`). -/
private theorem toList_exactKeyText (digits : List Char) :
    (exactKeyText digits).toList = beforeDigits.toList ++ (digits ++ afterDigits.toList) :=
  String.toList_ofList

/-- The tokens before the digits. -/
def exactKeyTokens : List Token :=
  [⟨.openBrace, "\x7b", 0, 1⟩, ⟨.identifier, "n", 1, 2⟩, ⟨.comma, ",", 2, 3⟩,
    ⟨.identifier, "plural", 3, 9⟩, ⟨.comma, ",", 9, 10⟩, ⟨.equals, "=", 10, 11⟩]

/-- The scanner makes `exactKeyTokens` and the number, and goes on behind it. -/
private theorem scan_exactKeyTokens {digits rest : List Char} {after : List Token}
    (hne : digits ≠ []) (hdigits : ∀ c ∈ digits, c.isDigit = true)
    (hrest : ∀ c ∈ rest.head?, Text.isAsciiWordChar c = false)
    (hafter : scan .off 0 1 (11 + digits.length) rest = .ok after) :
    scan .off 0 0 0 (beforeDigits.toList ++ (digits ++ rest)) =
      .ok (exactKeyTokens ++ ⟨.number, String.ofList digits, 11, 11 + digits.length⟩ :: after) := by
  have hkind : wordKind digits = .number := by
    rw [wordKind, if_pos (List.all_eq_true.2 hdigits)]
  have hword : ∀ c ∈ digits, Text.isAsciiWordChar c = true := fun c hc => by
    simp [Text.isAsciiWordChar, Char.isAlphanum, hdigits c hc]
  have hnumber : scan .off 0 1 11 (digits ++ rest) =
      .ok (⟨.number, String.ofList digits, 11, 11 + digits.length⟩ :: after) := by
    rw [scan_word rfl hne hword hrest, hafter, hkind]
    rfl
  have hchars : beforeDigits.toList =
      ['\x7b', 'n', ',', 'p', 'l', 'u', 'r', 'a', 'l', ',', '='] := by decide
  rw [hchars]
  -- one token for each mark and each word before the digits
  change Except.map _ (Except.map _ (Except.map _ (Except.map _ (Except.map _
    (Except.map _ (scan .off 0 1 11 (digits ++ rest))))))) = _
  rw [hnumber]
  rfl

/-- The tokens of the text with an exact key (`exactKeyText`) are those before the number, the
number and some more. -/
theorem exists_ofText_exactKeyText {digits : List Char} (hne : digits ≠ [])
    (hdigits : ∀ c ∈ digits, c.isDigit = true) :
    ∃ after, ofText .off (exactKeyText digits) =
      .ok (exactKeyTokens ++
        ⟨.number, String.ofList digits, 11, 11 + digits.length⟩ :: after) := by
  have hchars : afterDigits.toList =
      ['\x7b', 'x', '\x7d', 'o', 't', 'h', 'e', 'r', '\x7b', 'y', '\x7d', '\x7d'] := by decide
  obtain ⟨after, hafter⟩ :
      ∃ after, scan .off 0 1 (11 + digits.length) afterDigits.toList = .ok after := by
    rw [hchars]
    exact ⟨_, rfl⟩
  -- The digits end before the brace, so the number is all of them.
  have hhead : ∀ c ∈ afterDigits.toList.head?, Text.isAsciiWordChar c = false := by
    rw [hchars]
    rintro c ⟨⟩
    rfl
  rw [ofText, toList_exactKeyText]
  exact ⟨after, scan_exactKeyTokens hne hdigits hhead hafter⟩

/-- The reader comes to the digits of an exact key (`exactKeyText`), however many they are. -/
theorem meetsLongKey_exactKeyText {digits : List Char} (hdigits : ∀ c ∈ digits, c.isDigit = true)
    (hlong : digitLimit < digits.length) : MeetsLongKey .standard (exactKeyText digits) := by
  have hne : digits ≠ [] := by
    rintro rfl
    exact Nat.not_lt_zero _ hlong
  obtain ⟨after, hafter⟩ := exists_ofText_exactKeyText hne hdigits
  refine ⟨exactKeyTokens, _, after, ⟨[], .exactKey ⟨⟨0, "n"⟩, .plural, []⟩ 10, []⟩, hafter, rfl,
    Nat.zero_le _, ⟨_, _, rfl⟩, rfl, ?_⟩
  rwa [String.length_ofList]

/-- A plural with an exact key of 4301 digits (`exactKeyText`) is neither read nor refused with a
report. -/
theorem not_readOrReported_longKey :
    ¬ ReadOrReported .standard ⟨"app_en.arb", "count", exactKeyText (List.replicate 4301 '9')⟩ := by
  refine not_readOrReported_of_meets (meetsLongKey_exactKeyText (fun c hc => ?_) ?_)
  · rw [List.eq_of_mem_replicate hc]
    rfl
  · rw [List.length_replicate]
    decide

end Parlance.Grammar
