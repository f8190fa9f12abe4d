import Parlance.Proofs.Code.Calling
import Parlance.Proofs.Code.Displaying
import Parlance.Proofs.Entry.Options

/-!
# The parameters of number formats in the generated module

A call that formats a number passes on parameters of the format that a bundle gives, each by a
keyword of its own. A value is written as a literal expression of this value if its numbers are
finite and its brackets fit into those of the call (`argumentRoom`), and is else written as none. A
number that is not finite is written as a name, and only such a number
(`literal_iff_isFinite_of_build`).
-/

namespace Parlance.Code

open Parlance.Literal Parlance.Number

/-! ## Texts of parameters -/

/-- The text of an option (`optionExpr`) is the lexemes of its value. -/
private theorem lexes_optionExpr {v : Value} (h : v.Decoded) (indent : String) :
    Literal.Lexes ((optionExpr v).print indent).toList (lexemesOf v) := by
  have hdisplay := lexes_display h
  cases h with
  | text s => exact lexes_stringLiteral s
  | null | bool | int | float | list | object => exact hdisplay

/-! ## Arguments -/

/-- How many brackets may be open in an argument of a call: all but that of the call itself. -/
def argumentRoom : Nat := bracketLimit - 1

/-- The keyword of an argument, if it has one. -/
def Argument.keyword? : Argument → Option String
  | .mk keyword _ => keyword

/-- The parameters that are passed on (`passedOptions`) are some of those that are declared. -/
private theorem sublist_passedOptions (p : Resolved) :
    (passedOptions p).Sublist p.declared.parameters := by
  unfold passedOptions
  split
  · exact List.nil_sublist _
  · split
    · exact List.filter_sublist
    · exact List.nil_sublist _

/-- The arguments by keyword (`keyword?`) behind three others are the parameters that are passed on.
-/
private theorem mem_passed_iff {a b c : Expr} {options : List (String × Value)} {keyword : String}
    {value : Expr} :
    .mk (some keyword) value ∈ [Argument.positional a, .positional b, .positional c] ++
        options.map (fun o => Argument.named o.1 (optionExpr o.2)) ↔
      ∃ v, (keyword, v) ∈ options ∧ value = optionExpr v := by
  simp only [Argument.positional, Argument.named, List.mem_append, List.mem_cons, List.mem_map,
    Argument.mk.injEq, Option.some.injEq, reduceCtorEq, false_and, List.not_mem_nil, or_self,
    false_or]
  constructor
  · rintro ⟨⟨name, v⟩, ho, rfl, rfl⟩
    exact ⟨v, ho, rfl⟩
  · rintro ⟨v, ho, rfl⟩
    exact ⟨(keyword, v), ho, rfl, rfl⟩

/-- The keywords of a call (`keyword?`) are the names of its options, for the first three arguments
have none. -/
private theorem keywords_passed (a b c : Expr) (options : List (String × Value)) :
    ([Argument.positional a, .positional b, .positional c] ++
        options.map fun o => Argument.named o.1 (optionExpr o.2)).filterMap Argument.keyword? =
      options.map (·.1) := by
  rw [List.filterMap_append, List.filterMap_map]
  exact List.filterMap_eq_map_iff_forall_eq_some.2 fun o _ => rfl

section

variable {entryOptions : EntryOptions} {template : Bundle} {collection : Collection} {key : String}

/-- Wherever the body of an accessor formats a number, the call is all that is assigned to a local.
No keyword is written twice, and the value behind each keyword is a parameter that a bundle gives:
the template, or the bundle of the locale. The names in its text are those that the value reads, and
there are none if and only if all numbers in the value are finite (`isFinite`), at any depth. Just
if its brackets fit into those of the call as well, the text is a literal expression, and its value
is the value that was decoded. -/
theorem literal_iff_isFinite_of_build {decoder : JsonDecoder} (hdecoder : decoder.Documented)
    {plan : Plan} {m : Member}
    (hbuild : (Entry.build entryOptions template collection key).result = .ok m.entry)
    (hdecodes : ∀ b ∈ template :: collection.bundles,
      ∃ content, Bundle.Decodes decoder content b.resources)
    {locale : Locale} {statements : List Statement}
    (hstatements : statementsFor plan locale m = .ok statements) {s : Statement}
    (hs : s ∈ statements) {arguments : List Argument}
    (hcalls : s.Calls "runtime.format_number" arguments) :
    (∃ name, s = .assign name (.call "runtime.format_number" false arguments)) ∧
      (arguments.filterMap Argument.keyword?).Nodup ∧
      ∃ p ∈ m.entry.placeholdersFor locale, ∀ keyword value, .mk (some keyword) value ∈ arguments →
        ∃ v, (∃ b ∈ template :: collection.bundles, (b = template ∨ b.locale.same locale = true) ∧
            ∃ options, b.GivesOptions key p.name options ∧ Assoc.get? options keyword = some v) ∧
          ∀ indent, names? (value.print indent) = some (readsOfValue v) ∧
            (readsOfValue v = [] ↔ v.isFinite = true) ∧
            read? argumentRoom (value.print indent) =
              if v.isFinite && decide (v.nesting ≤ argumentRoom) then some v else none := by
  rw [statementsFor] at hstatements
  split at hstatements
  · -- the accessor of a message that is missing calls nothing
    cases hstatements
    obtain rfl := List.mem_singleton.1 hs
    exact hcalls.elim
  · obtain ⟨p, hp, hassign, rfl⟩ := exists_of_calls_formatNumber hstatements hs hcalls
    refine ⟨hassign, ?_⟩
    have hsublist := sublist_passedOptions p
    rw [keywords_passed]
    rcases Entry.exists_givesOptions_of_build hbuild hp with hnone | ⟨b, hb, hsource, hgives⟩
    · -- no bundle gives the placeholder parameters, and so none are passed on
      rw [hnone, List.sublist_nil] at hsublist
      refine ⟨by simp [hsublist], p, hp, fun keyword value hmem => ?_⟩
      obtain ⟨v, hv, -⟩ := mem_passed_iff.1 hmem
      rw [hsublist] at hv
      cases hv
    · obtain ⟨content, hcontent⟩ := hdecodes b hb
      obtain ⟨hdistinct, heach⟩ := (hgives.decoded hdecoder hcontent).entries
      refine ⟨hdistinct.sublist (hsublist.map _), p, hp, fun keyword value hmem => ?_⟩
      obtain ⟨v, hv, rfl⟩ := mem_passed_iff.1 hmem
      have hdeclared := hsublist.subset hv
      have hv : v.Decoded := heach (keyword, v) hdeclared
      exact ⟨v, ⟨b, hb, hsource, _, hgives, Assoc.get?_of_mem hdistinct hdeclared⟩, fun indent =>
        ⟨names?_of_lexes hv (lexes_optionExpr hv indent), hv.readsOfValue_eq_nil_iff,
          read?_of_lexes hv (lexes_optionExpr hv indent) _⟩⟩

end

/-- The text of the template with a price, whose format is passed some digits. -/
def priceText (digits : String) : String :=
  "\x7b\"total\": \"\x7bprice\x7d\", \"@total\": \x7b\"placeholders\": \x7b\"price\": " ++
    "\x7b\"type\": \"double\", \"format\": \"currency\", \"optionalParameters\": " ++
      "\x7b\"decimalDigits\": " ++ digits ++ "\x7d\x7d\x7d\x7d\x7d"

/-- The body of the price (`statementsFor`) formats it with the digits. -/
private theorem statementsFor_price {digits : Value} {plan : Plan}
    (h : Plan.make [priceEntry digits] [priceLocale] priceLocale .standard = .ok plan) :
    ∃ m ∈ plan.members, m.entry = priceEntry digits ∧ statementsFor plan priceLocale m = .ok
      [.assign "price_formatted" (.call "runtime.format_number" false
        [.positional (.name "price"), .positional (.literal "currency"), .positional localeName,
          .named "decimalDigits" (optionExpr digits)]), .giveBack (.name "price_formatted")] := by
  obtain ⟨m, hm, hentry, hparameters⟩ := members_of_make_price h
  refine ⟨m, hm, hentry, ?_⟩
  rw [statementsFor, hentry, messageFor?_price, hparameters, (options_of_make h).1]
  rfl

/-- The parameters of the price in its template (`priceTemplate`). -/
private theorem options_of_price {digits : Value} {options : Assoc Value}
    (h : (priceTemplate digits).GivesOptions "total" "price" options) :
    options = [("decimalDigits", digits)] := by
  obtain ⟨metadata, placeholders, attributes, hmetadata, hplaceholders, hattributes, hoptions⟩ := h
  obtain rfl := Value.object.inj (Option.some.inj hmetadata)
  obtain rfl := Value.object.inj (Option.some.inj hplaceholders)
  cases List.mem_singleton.1 hattributes
  exact (Value.object.inj (Option.some.inj hoptions)).symm

/-- A list of a number and an object. -/
def nestedDigits : Value :=
  .list [.float (.finite false 0x14000000000000 (-51)), .object [("least", .null)]]

/-- The nested value is one that JSON decodes (`Decoded`) to. -/
private theorem decoded_nestedDigits : nestedDigits.Decoded := by
  have hfloat : Double.Canonical (.finite false 0x14000000000000 (-51)) :=
    .finite (by decide) (.inl (by decide)) (by decide) (by decide)
  have hobject : (Value.object [("least", .null)]).Decoded :=
    .object (by simp) (by simpa using Value.Decoded.null)
  exact .list (by simpa using ⟨.float hfloat, hobject⟩)

/-- The resources of the price are what JSON decodes (`Decoded`) to if the digits are. -/
private theorem decoded_priceTemplate {digits : Value} (h : digits.Decoded) :
    (Value.object (priceTemplate digits).resources).Decoded := by
  have hoptions : (Value.object [("decimalDigits", digits)]).Decoded :=
    .object (by simp) (by simpa using h)
  have hprice : (Value.object [("type", .text "double"), ("format", .text "currency"),
      ("optionalParameters", .object [("decimalDigits", digits)])]).Decoded :=
    .object (by simp) (by simpa using ⟨.text _, .text _, hoptions⟩)
  have hplaceholders : (Value.object [("price", _)]).Decoded :=
    .object (by simp) (by simpa using hprice)
  have hmetadata : (Value.object [("placeholders", _)]).Decoded :=
    .object (by simp) (by simpa using hplaceholders)
  -- from the inside out, every object is decoded if its values are
  exact .object (by simp [priceTemplate]) (by simpa [priceTemplate] using ⟨.text _, hmetadata⟩)

/-- A reader of JSON with room enough for the resources of the price. -/
def priceDecoder : JsonDecoder := Json.decoder 100

/-- The text of the template decodes (`Decodes`) to its resources. -/
private theorem decodes_nestedDigits :
    Bundle.Decodes priceDecoder (priceText "[2.5, \x7b\"least\": null\x7d]")
      (priceTemplate nestedDigits).resources := by
  have hread : Json.read 100 (priceText "[2.5, \x7b\"least\": null\x7d]") =
      .ok (.object (priceTemplate nestedDigits).resources) :=
    read_eq_ok_of_display (decoded_priceTemplate decoded_nestedDigits) (by decide +kernel)
      (by decide +kernel)
  refine .inr ⟨by decide +kernel, ?_⟩
  rw [priceDecoder, Json.decoder, hread]

/-- A list with an object in it, passed on as `decimalDigits`. -/
theorem literal_iff_isFinite_of_build_price :
    priceDecoder.Documented ∧
    (Entry.build .standard (priceTemplate nestedDigits) ⟨"l10n", [priceTemplate nestedDigits]⟩
      "total").result = .ok (priceEntry nestedDigits) ∧
    (∀ b ∈ [priceTemplate nestedDigits, priceTemplate nestedDigits],
      ∃ content, Bundle.Decodes priceDecoder content b.resources) ∧
    ∃ plan, Plan.make [priceEntry nestedDigits] [priceLocale] priceLocale .standard = .ok plan ∧
      ∃ m ∈ plan.members, ∃ statements, statementsFor plan priceLocale m = .ok statements ∧
        ∃ s ∈ statements, ∃ arguments, s.Calls "runtime.format_number" arguments ∧
          (arguments.filterMap Argument.keyword?).Nodup ∧
          ∃ value, .mk (some "decimalDigits") value ∈ arguments ∧
            names? (value.print "") = some [] ∧
            read? argumentRoom (value.print "") = some nestedDigits := by
  have hmake : (Plan.make [priceEntry nestedDigits] [priceLocale] priceLocale .standard).map
      (fun plan => plan.members.length) = .ok 1 := by
    decide +kernel
  obtain ⟨plan, hplan, -⟩ := map_eq_ok_iff.1 hmake
  obtain ⟨m, hm, hentry, hstatements⟩ := statementsFor_price hplan
  have hbuild := build_price nestedDigits
  have hdecodes : ∀ b ∈ [priceTemplate nestedDigits, priceTemplate nestedDigits],
      ∃ content, Bundle.Decodes priceDecoder content b.resources := by
    simpa using ⟨_, decodes_nestedDigits⟩
  obtain ⟨-, hdistinct, p, hp, hpassed⟩ := literal_iff_isFinite_of_build (Json.documented 100)
    (hentry ▸ hbuild) hdecodes hstatements List.mem_cons_self (.here false)
  rw [hentry] at hp
  obtain rfl := List.mem_singleton.1 hp
  obtain ⟨v, ⟨b, hb, -, options, hgives, hget⟩, hliteral⟩ :=
    hpassed "decimalDigits" (optionExpr nestedDigits) (by simp [Argument.named])
  obtain rfl : b = priceTemplate nestedDigits := by simpa using hb
  -- the option is declared in one bundle only, with this value
  obtain rfl : nestedDigits = v := by
    rw [options_of_price hgives] at hget
    exact Option.some.inj hget
  obtain ⟨hnames, hiff, hread⟩ := hliteral ""
  have hfinite : nestedDigits.isFinite = true := by decide +kernel
  have hfits : nestedDigits.nesting ≤ argumentRoom := by decide +kernel
  rw [hiff.2 hfinite] at hnames
  rw [if_pos (by simp [hfinite, hfits])] at hread
  exact ⟨Json.documented 100, hbuild, hdecodes, plan, hplan, m, hm, _, hstatements, _,
    List.mem_cons_self, _, .here false, hdistinct, _, by simp [Argument.named], hnames, hread⟩

/-- The text `1e999` of a number is beyond all numbers. What is written for it is a name, and no
literal expression. -/
theorem not_literal_infiniteDigits :
    priceDecoder "1e999" = .ok (.float (.infinite false)) ∧
    (Entry.build .standard (priceTemplate (.float (.infinite false)))
      ⟨"l10n", [priceTemplate (.float (.infinite false))]⟩ "total").result =
        .ok (priceEntry (.float (.infinite false))) ∧
    ∃ plan, Plan.make [priceEntry (.float (.infinite false))] [priceLocale] priceLocale .standard =
        .ok plan ∧
      ∃ m ∈ plan.members, ∃ statements, statementsFor plan priceLocale m = .ok statements ∧
        ∃ s ∈ statements, ∃ arguments, s.Calls "runtime.format_number" arguments ∧
          ∃ value, .mk (some "decimalDigits") value ∈ arguments ∧
            names? (value.print "") = some ["inf"] ∧
            read? argumentRoom (value.print "") = none := by
  have hmake : (Plan.make [priceEntry (.float (.infinite false))] [priceLocale] priceLocale
      .standard).map (fun plan => plan.members.length) = .ok 1 := by
    decide +kernel
  obtain ⟨plan, hplan, -⟩ := map_eq_ok_iff.1 hmake
  obtain ⟨m, hm, -, hstatements⟩ := statementsFor_price hplan
  -- an infinite number is displayed as the word `inf`
  have hdecoded : (Value.float (.infinite false)).Decoded := .float .infinite
  have hlexes := lexes_optionExpr hdecoded ""
  refine ⟨rfl, build_price _, plan, hplan, m, hm, _, hstatements, _, List.mem_cons_self, _,
    .here false, optionExpr (.float (.infinite false)), by simp [Argument.named], ?_, ?_⟩
  · rw [names?_of_lexes hdecoded hlexes, readsOfValue_float]
  · rw [read?_of_lexes hdecoded hlexes]
    rfl

end Parlance.Code
