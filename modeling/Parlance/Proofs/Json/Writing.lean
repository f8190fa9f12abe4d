import Parlance.Json.Writer
import Parlance.Proofs.Json.Decoding

/-!
# Reading back what was written

Values that are made of texts, lists and objects (`Value.Worded`) are read back from what is written
of them over several lines, whatever the indentation, if lists and objects may be nested as deeply
as they are in the value (`read_indented`). The proof follows the value: a text is read back
character by character (`readString_escaped`), and the items of a list and the entries of an object
one after another, each from its own line.
-/

namespace Parlance

open Parlance.Number

/-- Whether a value is made of texts, lists and objects. -/
inductive Value.Worded : Value → Prop
  | text (s : String) : Worded (.text s)
  | list {items : List Value} (each : ∀ v ∈ items, Worded v) : Worded (.list items)
  | object {entries : List (String × Value)} (distinct : (entries.map (·.1)).Nodup)
      (each : ∀ e ∈ entries, Worded e.2) : Worded (.object entries)

namespace Json

/-! ## White space -/

/-- White space is skipped (`skipGap`). -/
private theorem skipGap_append {gap : List Char} (hgap : ∀ c ∈ gap, isGap c = true)
    (s : List Char) : skipGap (gap ++ s) = skipGap s :=
  List.dropWhile_append_of_pos hgap

/-- Nothing is skipped (`skipGap`) in front of a character that is no white space. -/
private theorem skipGap_cons {c : Char} (hc : isGap c = false) (s : List Char) :
    skipGap (c :: s) = c :: s :=
  List.dropWhile_cons_of_neg (by simp [hc])

/-- A new line with its indentation. -/
def lineBreak (step level : Nat) : List Char := '\n' :: List.replicate (step * level) ' '

/-- A line break (`lineBreak`) and its indentation are white space. -/
private theorem isGap_of_mem_lineBreak (step level : Nat) :
    ∀ c ∈ lineBreak step level, isGap c = true := by
  intro c hc
  rcases List.mem_cons.1 hc with rfl | hspace
  · rfl
  · rw [List.eq_of_mem_replicate hspace]
    rfl

/-! ## Texts -/

/-- What belongs to an escape is passed over (`readString`). -/
private theorem readString_skip (start : Nat) (taken rest : List Char) :
    readString start taken.length (taken ++ rest) = readString start 0 rest := by
  induction taken with
  | nil => rfl
  | cons c more ih => rw [List.length_cons, List.cons_append, readString, ih]

/-- A small code is read back from its escape (`codeEscape`), if a character follows. -/
private theorem codeEscape_hexDigits {n : Nat} (hn : n < 0x20) {rest : List Char}
    (hrest : rest ≠ []) : codeEscape (hexDigits 4 n ++ rest) = .ok (Char.ofNat n, 4) := by
  obtain ⟨hlength, hdigits⟩ := hexDigits_spec (by decide : 0 < 4) (by omega : n < 16 ^ 4)
  have hsome : 0 < rest.length := List.length_pos_iff.2 hrest
  have hlong : ¬ (hexDigits 4 n ++ rest).length < 5 := by
    rw [List.length_append]
    omega
  have hne : (hexDigits 4 n).isEmpty = false := by
    rw [List.isEmpty_eq_false_iff, ← List.length_pos_iff]
    omega
  have hunit : codeUnit? (hexDigits 4 n ++ rest) = some n := by
    rw [codeUnit?, if_neg (by omega), List.take_left' hlength, ofBaseDigits?, hne,
      if_neg (by simp), hdigits]
  -- a code so small is no half of a surrogate pair, whatever follows
  have hhigh : ¬ 0xD800 ≤ n := by omega
  rw [codeEscape]
  simp only [if_neg hlong, hunit, hhigh, decide_false, Bool.false_and, Bool.false_eq_true,
    if_false]
  split <;> rfl

/-- A character is read back from what is written of it (`escapeChar`). -/
private theorem readString_escapeChar (start : Nat) (c : Char) {rest : List Char}
    (hrest : rest ≠ []) : readString start 0 (escapeChar c ++ rest) =
      (readString start 0 rest).map fun r => (c :: r.1, r.2) := by
  -- a letter behind a backslash stands for its character
  have hletter : ∀ letter, simpleEscape? letter = some c →
      readString start 0 ('\\' :: letter :: rest) =
        (readString start 0 rest).map fun r => (c :: r.1, r.2) := by
    intro letter hsimple
    have hread : readEscape start (letter :: rest) = .ok (c, 1) := by
      rw [readEscape]
      · rw [hsimple]
      · rintro rfl
        cases hsimple
    rw [readString, if_neg (by decide), if_pos rfl, hread]
    exact congrArg (Except.map fun r => (c :: r.1, r.2)) (readString_skip start [letter] rest)
  unfold escapeChar
  split
  · exact hletter '"' rfl
  · exact hletter '\\' rfl
  · exact hletter 'n' rfl
  · exact hletter 'r' rfl
  · exact hletter 't' rfl
  · exact hletter 'b' rfl
  · exact hletter 'f' rfl
  · next hquote hbackslash _ _ _ _ _ =>
    split
    · next hcontrol =>
      have hread : readEscape start ('u' :: (hexDigits 4 c.toNat ++ rest)) = .ok (c, 5) := by
        rw [readEscape, codeEscape_hexDigits hcontrol hrest, Char.ofNat_toNat]
        rfl
      have hlength : ('u' :: hexDigits 4 c.toNat).length = 5 := by
        rw [List.length_cons, (hexDigits_spec (by decide) (by omega)).1]
      have hskip := readString_skip start ('u' :: hexDigits 4 c.toNat) rest
      rw [hlength] at hskip
      rw [List.cons_append, List.cons_append, readString, if_neg (by decide), if_pos rfl, hread]
      exact congrArg (Except.map fun r => (c :: r.1, r.2)) hskip
    · next hplain =>
      have hq : c ≠ '"' := fun h => hquote h
      have hb : c ≠ '\\' := fun h => hbackslash h
      rw [List.cons_append, List.nil_append, readString, if_neg hq, if_neg hb, if_neg hplain]

/-- A text is read back from what is written of it between the quotation marks (`quote`). -/
private theorem readString_escaped (start : Nat) (s rest : List Char) :
    readString start 0 (s.flatMap escapeChar ++ '"' :: rest) = .ok (s, rest) := by
  induction s with
  | nil => rfl
  | cons c more ih =>
    rw [List.flatMap_cons, List.append_assoc, readString_escapeChar start c (by simp), ih]
    rfl

/-- The characters of a quoted (`quote`) text. -/
private theorem toList_quote (s : String) :
    (quote s).toList = '"' :: (s.toList.flatMap escapeChar ++ ['"']) := by
  simp [quote]

/-! ## Brackets -/

/-- What stands between brackets (`bracketed`) that are not closed up. -/
private theorem toList_bracketed (opening closing : String) (step level : Nat) {inner : List String}
    (hinner : inner ≠ []) :
    (bracketed opening closing step level inner).toList =
      opening.toList ++ (lineBreak step (level + 1) ++
        ((("," ++ String.ofList (lineBreak step (level + 1))).intercalate inner).toList ++
          (lineBreak step level ++ closing.toList))) := by
  rw [bracketed, if_neg (by simpa using hinner)]
  simp [lineBreak, String.append_assoc]

/-- Whether a text starts with a mark that a value or a name starts with. -/
private def Opens (s : List Char) : Prop := ∃ c tail, s = c :: tail ∧ c ∈ ['"', '[', '\x7b']

/-- Whether a text `Opens` is decided by its start. -/
private theorem Opens.append {s : List Char} (h : Opens s) (more : List Char) :
    Opens (s ++ more) := by
  obtain ⟨c, tail, rfl, hc⟩ := h
  exact ⟨c, tail ++ more, rfl, hc⟩

/-- No white space is skipped in front of a text that opens (`Opens`). -/
private theorem Opens.skipGap_eq {s : List Char} (h : Opens s) : skipGap s = s := by
  obtain ⟨c, tail, rfl, hc⟩ := h
  refine skipGap_cons ?_ tail
  simp only [List.mem_cons, List.not_mem_nil, or_false] at hc
  rcases hc with rfl | rfl | rfl <;> rfl

/-- What stands between brackets opens (`Opens`) with the bracket. -/
private theorem opens_bracketed {opening closing : String} {step level : Nat} {inner : List String}
    (h : Opens opening.toList) : Opens (bracketed opening closing step level inner).toList := by
  rw [bracketed]
  split
  · rw [String.toList_append]
    exact h.append _
  · simp only [String.toList_append, List.append_assoc]
    exact h.append _

/-- A text opens (`Opens`) with its quotation mark. -/
private theorem opens_quote (s : String) : Opens (quote s).toList :=
  ⟨'"', _, toList_quote s, List.mem_cons_self⟩

/-- What is written of a value opens (`Opens`) with a mark. -/
private theorem opens_indentedAt {v : Value} (h : v.Worded) (step level : Nat) :
    Opens (indentedAt step level v).toList := by
  cases h with
  | text s => exact opens_quote s
  | list each =>
    rw [indentedAt]
    exact opens_bracketed ⟨'[', [], rfl, by simp⟩
  | object distinct each =>
    rw [indentedAt]
    exact opens_bracketed ⟨'\x7b', [], rfl, by simp⟩

/-- What is joined starts with the first of it. -/
private theorem exists_toList_intercalate (sep first : String) (more : List String) :
    ∃ tail, (sep.intercalate (first :: more)).toList = first.toList ++ tail := by
  cases more with
  | nil => exact ⟨[], by rw [String.intercalate_singleton, List.append_nil]⟩
  | cons next more =>
    rw [String.intercalate_cons_cons, String.toList_append, String.toList_append,
      List.append_assoc]
    exact ⟨_, rfl⟩

/-- The lines of the items of a list open (`Opens`) with a mark. -/
private theorem opens_joinedItems {v : Value} (hv : v.Worded) (sep : String) (step level : Nat)
    (more : List Value) : Opens (sep.intercalate (indentedItems step level (v :: more))).toList :=
    by
  obtain ⟨tail, htail⟩ := exists_toList_intercalate sep (indentedAt step level v)
    (indentedItems step level more)
  rw [indentedItems, htail]
  exact (opens_indentedAt hv step level).append tail

/-- The lines of the entries of an object open (`Opens`) with a mark. -/
private theorem opens_joinedEntries (sep : String) (step level : Nat) (e : String × Value)
    (more : List (String × Value)) :
    Opens (sep.intercalate (indentedEntries step level (e :: more))).toList := by
  obtain ⟨name, v⟩ := e
  obtain ⟨tail, htail⟩ := exists_toList_intercalate sep
    (quote name ++ ": " ++ indentedAt step level v) (indentedEntries step level more)
  rw [indentedEntries, htail, String.toList_append, String.toList_append]
  simp only [List.append_assoc]
  exact (opens_quote name).append _

/-! ## Values -/

/-- Whether a value is read back from what is written of it at any indentation, whatever follows,
if the lists and objects around it leave room for its own. -/
def ReadsBack (limit step : Nat) (v : Value) : Prop :=
  ∀ level indentation fuel rest, level + v.nesting ≤ limit →
    2 * (indentedAt step indentation v).toList.length < fuel →
      readValue limit level fuel ((indentedAt step indentation v).toList ++ rest) = .ok (v, rest)

section

variable {limit step : Nat}

/-- A text is read back (`ReadsBack`). -/
private theorem readsBack_text (s : String) : ReadsBack limit step (.text s) := by
  intro level indentation fuel rest _ hfuel
  obtain ⟨fuel, rfl⟩ := Nat.exists_eq_add_one_of_ne_zero (Nat.ne_of_gt (Nat.zero_lt_of_lt hfuel))
  have htext : indentedAt step indentation (.text s) = quote s := rfl
  rw [htext, toList_quote, List.cons_append, readValue, List.append_assoc, List.singleton_append,
    readString_escaped]
  simp [Except.map]

/-- The items of a list (`indentedItems`) are read back one after another, up to the end of the
list. -/
private theorem readItems_indentedItems {items : List Value} (hne : items ≠ [])
    (hworded : ∀ v ∈ items, v.Worded) (h : ∀ v ∈ items, ReadsBack limit step v)
    {level indentation fuel : Nat} (hroom : level + nestingOfItems items ≤ limit) {gap : List Char}
    (hgap : ∀ c ∈ gap, isGap c = true) {margin : List Char} (hmargin : ∀ c ∈ margin, isGap c = true)
    (hfuel : 2 * ((("," ++ String.ofList margin).intercalate
      (indentedItems step indentation items)).toList.length + 1) ≤ fuel) (rest : List Char) :
    readItems limit level fuel ((("," ++ String.ofList margin).intercalate
      (indentedItems step indentation items)).toList ++ (gap ++ ']' :: rest)) =
        .ok (items, rest) := by
  induction items generalizing fuel with
  | nil => exact absurd rfl hne
  | cons v more ih =>
    obtain ⟨fuel, rfl⟩ := Nat.exists_eq_add_one_of_ne_zero (by omega : fuel ≠ 0)
    obtain ⟨hv, hmore⟩ := List.forall_mem_cons.1 h
    obtain ⟨-, hmoreWorded⟩ := List.forall_mem_cons.1 hworded
    rw [nestingOfItems] at hroom
    -- The last item is followed by the closing bracket, every other one by a comma.
    cases more with
    | nil =>
      rw [indentedItems, indentedItems, String.intercalate_singleton] at hfuel ⊢
      have hread := hv level indentation fuel (gap ++ ']' :: rest) (by omega) (by omega)
      have hend : skipGap (gap ++ ']' :: rest) = ']' :: rest := by
        rw [skipGap_append hgap, skipGap_cons rfl]
      rw [readItems, hread]
      simp only [hend]
    | cons next others =>
      have hopens := (opens_joinedItems (hmoreWorded next List.mem_cons_self)
        ("," ++ String.ofList margin) step indentation others).append (gap ++ ']' :: rest)
      have hsplit : (("," ++ String.ofList margin).intercalate
          (indentedItems step indentation (v :: next :: others))).toList =
            (indentedAt step indentation v).toList ++ ',' :: (margin ++
              (("," ++ String.ofList margin).intercalate
                (indentedItems step indentation (next :: others))).toList) := by
        simp [indentedItems, String.intercalate_cons_cons, String.append_assoc]
      rw [hsplit] at hfuel ⊢
      -- From here only the lengths of the lines matter, not how they were joined.
      generalize (("," ++ String.ofList margin).intercalate
        (indentedItems step indentation (next :: others))).toList = listed at *
      simp only [List.length_append, List.length_cons] at hfuel
      have hread := hv level indentation fuel (',' :: (margin ++ listed) ++ (gap ++ ']' :: rest))
        (by omega) (by omega)
      have hnext : skipGap (margin ++ (listed ++ (gap ++ ']' :: rest))) =
          listed ++ (gap ++ ']' :: rest) := by
        rw [skipGap_append hmargin, hopens.skipGap_eq]
      have hrest : readItems limit level fuel (listed ++ (gap ++ ']' :: rest)) =
          .ok (next :: others, rest) :=
        ih (by simp) hmoreWorded hmore (by omega) (by omega)
      have hcomma : skipGap (',' :: (margin ++ (listed ++ (gap ++ ']' :: rest)))) =
          ',' :: (margin ++ (listed ++ (gap ++ ']' :: rest))) := skipGap_cons rfl _
      rw [List.append_assoc, readItems, hread]
      simp only [List.cons_append, List.append_assoc, hcomma, hnext, hrest]
      rfl

/-- An entry is read back behind those that were read before, and what follows decides on the
rest. -/
private theorem readMembers_entry {v : Value} (hworded : v.Worded) (h : ReadsBack limit step v)
    {level indentation fuel : Nat} (hroom : level + v.nesting ≤ limit)
    (hfuel : 2 * (indentedAt step indentation v).toList.length < fuel)
    (before : Assoc Value) (name : String) (tail : List Char) :
    readMembers limit level (fuel + 1) before
        ((quote name ++ ": " ++ indentedAt step indentation v).toList ++ tail) =
      match skipGap tail with
      | '\x7d' :: after => .ok (before.set name v, after)
      | ',' :: more => readMembers limit level fuel (before.set name v) (skipGap more)
      | other => fail .expectingComma other := by
  have htext : (quote name ++ ": " ++ indentedAt step indentation v).toList ++ tail =
      '"' :: (name.toList.flatMap escapeChar ++
        '"' :: ':' :: ' ' :: ((indentedAt step indentation v).toList ++ tail)) := by
    simp [toList_quote]
  -- The reader skips white space before the colon and behind it; only behind it there is some.
  have hcolon : skipGap (':' :: ' ' :: ((indentedAt step indentation v).toList ++ tail)) =
      ':' :: ' ' :: ((indentedAt step indentation v).toList ++ tail) := skipGap_cons rfl _
  have hblank : skipGap (' ' :: ((indentedAt step indentation v).toList ++ tail)) =
      (indentedAt step indentation v).toList ++ tail := by
    have hskip := skipGap_append (by simp [isGap] : ∀ c ∈ [' '], isGap c = true)
      ((indentedAt step indentation v).toList ++ tail)
    rwa [((opens_indentedAt hworded step indentation).append tail).skipGap_eq] at hskip
  rw [htext, readMembers, readString_escaped]
  simp only [hcolon, hblank, h level indentation fuel tail hroom hfuel, String.ofList_toList]
  all_goals rfl

/-- The entries of an object (`indentedEntries`) are read back one after another behind those that
were read before, up to the end of the object. -/
private theorem readMembers_indentedEntries {entries : List (String × Value)} (hne : entries ≠ [])
    (hworded : ∀ e ∈ entries, e.2.Worded) (h : ∀ e ∈ entries, ReadsBack limit step e.2)
    {before : List (String × Value)} (hdistinct : ((before ++ entries).map (·.1)).Nodup)
    {level indentation fuel : Nat} (hroom : level + nestingOfEntries entries ≤ limit)
    {gap : List Char} (hgap : ∀ c ∈ gap, isGap c = true) {margin : List Char}
    (hmargin : ∀ c ∈ margin, isGap c = true)
    (hfuel : 2 * ((("," ++ String.ofList margin).intercalate
      (indentedEntries step indentation entries)).toList.length + 1) ≤ fuel) (rest : List Char) :
    readMembers limit level fuel before ((("," ++ String.ofList margin).intercalate
      (indentedEntries step indentation entries)).toList ++ (gap ++ '\x7d' :: rest)) =
        .ok (before ++ entries, rest) := by
  induction entries generalizing fuel before with
  | nil => exact absurd rfl hne
  | cons e more ih =>
    obtain ⟨name, v⟩ := e
    obtain ⟨fuel, rfl⟩ := Nat.exists_eq_add_one_of_ne_zero (by omega : fuel ≠ 0)
    obtain ⟨hv, hmore⟩ : ReadsBack limit step v ∧ ∀ e ∈ more, ReadsBack limit step e.2 :=
      List.forall_mem_cons.1 h
    obtain ⟨hvWorded, hmoreWorded⟩ : v.Worded ∧ ∀ e ∈ more, e.2.Worded :=
      List.forall_mem_cons.1 hworded
    rw [nestingOfEntries] at hroom
    -- no entry before has the name, so the new one is added at the end
    have hset : Assoc.set before name v = before ++ [(name, v)] := by
      refine Assoc.set_of_not_mem v fun hmem => ?_
      rw [List.map_append, List.nodup_append] at hdistinct
      exact hdistinct.2.2 name hmem name (by simp) rfl
    cases more with
    | nil =>
      rw [indentedEntries, indentedEntries, String.intercalate_singleton] at hfuel ⊢
      have hend : skipGap (gap ++ '\x7d' :: rest) = '\x7d' :: rest := by
        rw [skipGap_append hgap, skipGap_cons rfl]
      simp only [String.toList_append, List.length_append] at hfuel
      rw [readMembers_entry hvWorded hv (by omega) (by omega), hset]
      simp only [hend]
    | cons next others =>
      have hopens := (opens_joinedEntries ("," ++ String.ofList margin) step indentation next
        others).append (gap ++ '\x7d' :: rest)
      have hsplit : (("," ++ String.ofList margin).intercalate
          (indentedEntries step indentation ((name, v) :: next :: others))).toList =
            (quote name ++ ": " ++ indentedAt step indentation v).toList ++ ',' :: (margin ++
              (("," ++ String.ofList margin).intercalate
                (indentedEntries step indentation (next :: others))).toList) := by
        simp [indentedEntries, String.intercalate_cons_cons, String.append_assoc]
      rw [hsplit] at hfuel ⊢
      generalize (("," ++ String.ofList margin).intercalate
        (indentedEntries step indentation (next :: others))).toList = listed at *
      simp only [String.toList_append, List.length_append, List.length_cons] at hfuel
      have hnext : skipGap (margin ++ (listed ++ (gap ++ '\x7d' :: rest))) =
          listed ++ (gap ++ '\x7d' :: rest) := by
        rw [skipGap_append hmargin, hopens.skipGap_eq]
      have hrest : readMembers limit level fuel (before ++ [(name, v)])
          (listed ++ (gap ++ '\x7d' :: rest)) =
            .ok ((before ++ [(name, v)]) ++ next :: others, rest) :=
        ih (by simp) hmoreWorded hmore (by simpa using hdistinct) (by omega) (by omega)
      have hcomma : skipGap (',' :: (margin ++ (listed ++ (gap ++ '\x7d' :: rest)))) =
          ',' :: (margin ++ (listed ++ (gap ++ '\x7d' :: rest))) := skipGap_cons rfl _
      rw [List.append_assoc, readMembers_entry hvWorded hv (by omega) (by omega), hset]
      simp only [List.cons_append, List.append_assoc, hcomma, hnext, hrest, List.nil_append]

/-- The white space before lines (`lineBreak`) that open with a mark is skipped. -/
private theorem skipGap_lineBreak {n : Nat} {lines : List Char} (h : Opens lines) :
    skipGap (lineBreak step n ++ lines) = lines := by
  rw [skipGap_append (isGap_of_mem_lineBreak step n), h.skipGap_eq]

/-- A list goes on with its items, if the next line starts with one. -/
private theorem readValue_list {level fuel n : Nat} (hroom : level < limit) {lines : List Char}
    (hlines : Opens lines) :
    readValue limit level (fuel + 1) ('[' :: (lineBreak step n ++ lines)) =
      (readItems limit (level + 1) fuel lines).map fun r => (.list r.1, r.2) := by
  rw [readValue, if_neg (Nat.ne_of_lt hroom), skipGap_lineBreak hlines]
  split
  · next after =>
    -- no item starts with the mark that closes the list
    obtain ⟨c, tail, heq, hc⟩ := hlines
    rw [← (List.cons.inj heq).1] at hc
    exact absurd hc (by decide)
  · rfl

/-- An object goes on with its entries, if the next line starts with one. -/
private theorem readValue_object {level fuel n : Nat} (hroom : level < limit) {lines : List Char}
    (hlines : Opens lines) :
    readValue limit level (fuel + 1) ('\x7b' :: (lineBreak step n ++ lines)) =
      (readMembers limit (level + 1) fuel [] lines).map fun r => (.object r.1, r.2) := by
  rw [readValue, if_neg (Nat.ne_of_lt hroom), skipGap_lineBreak hlines]
  split
  · next after =>
    obtain ⟨c, tail, heq, hc⟩ := hlines
    rw [← (List.cons.inj heq).1] at hc
    exact absurd hc (by decide)
  · rfl

/-- A list is read back (`ReadsBack`) if its items are. -/
private theorem readsBack_list {items : List Value} (hworded : ∀ v ∈ items, v.Worded)
    (h : ∀ v ∈ items, ReadsBack limit step v) : ReadsBack limit step (.list items) := by
  intro level indentation fuel rest hroom hfuel
  obtain ⟨fuel, rfl⟩ := Nat.exists_eq_add_one_of_ne_zero (by omega : fuel ≠ 0)
  rw [Value.nesting] at hroom
  rw [indentedAt] at hfuel ⊢
  cases items with
  | nil =>
    have htext : (bracketed "[" "]" step indentation
        (indentedItems step (indentation + 1) [])).toList = ['[', ']'] := by
      simp [bracketed, indentedItems]
    rw [htext, List.cons_append, readValue, if_neg (by omega)]
    rfl
  | cons v more =>
    rw [toList_bracketed _ _ _ _ (by simp [indentedItems])] at hfuel ⊢
    have hopens := opens_joinedItems (hworded v List.mem_cons_self)
      ("," ++ String.ofList (lineBreak step (indentation + 1))) step (indentation + 1) more
    -- The brackets and line breaks pay for the fuel that one level more costs.
    have hlong : 2 * ((("," ++ String.ofList (lineBreak step (indentation + 1))).intercalate
        (indentedItems step (indentation + 1) (v :: more))).toList.length + 1) ≤ fuel := by
      simp only [List.length_append] at hfuel
      have hmark : "[".toList.length = 1 := rfl
      omega
    have hitems := readItems_indentedItems (List.cons_ne_nil v more) hworded h
      (by omega : level + 1 + nestingOfItems (v :: more) ≤ limit)
      (isGap_of_mem_lineBreak step indentation) (isGap_of_mem_lineBreak step (indentation + 1))
      hlong rest
    have htext : ∀ lines : List Char, "[".toList ++ (lineBreak step (indentation + 1) ++
        (lines ++ (lineBreak step indentation ++ "]".toList))) ++ rest =
          '[' :: (lineBreak step (indentation + 1) ++
            (lines ++ (lineBreak step indentation ++ ']' :: rest))) := by
      intro lines
      simp
    rw [htext, readValue_list (by omega) (hopens.append _), hitems]
    rfl

/-- An object is read back (`ReadsBack`) if its names are distinct and its values are read back. -/
private theorem readsBack_object {entries : List (String × Value)}
    (hdistinct : (entries.map (·.1)).Nodup) (hworded : ∀ e ∈ entries, e.2.Worded)
    (h : ∀ e ∈ entries, ReadsBack limit step e.2) : ReadsBack limit step (.object entries) := by
  intro level indentation fuel rest hroom hfuel
  obtain ⟨fuel, rfl⟩ := Nat.exists_eq_add_one_of_ne_zero (by omega : fuel ≠ 0)
  rw [Value.nesting] at hroom
  rw [indentedAt] at hfuel ⊢
  cases entries with
  | nil =>
    have htext : (bracketed "\x7b" "\x7d" step indentation
        (indentedEntries step (indentation + 1) [])).toList = ['\x7b', '\x7d'] := by
      simp [bracketed, indentedEntries]
    rw [htext, List.cons_append, readValue, if_neg (by omega)]
    rfl
  | cons e more =>
    rw [toList_bracketed _ _ _ _ (by simp [indentedEntries])] at hfuel ⊢
    have hopens := opens_joinedEntries
      ("," ++ String.ofList (lineBreak step (indentation + 1))) step (indentation + 1) e more
    have hlong : 2 * ((("," ++ String.ofList (lineBreak step (indentation + 1))).intercalate
        (indentedEntries step (indentation + 1) (e :: more))).toList.length + 1) ≤ fuel := by
      simp only [List.length_append] at hfuel
      have hmark : "\x7b".toList.length = 1 := rfl
      omega
    -- The entries are set one by one among those before, which are none at first.
    have hkeys : (([] ++ (e :: more) : List (String × Value)).map (·.1)).Nodup := hdistinct
    have hentries := readMembers_indentedEntries (List.cons_ne_nil e more) hworded h hkeys
      (by omega : level + 1 + nestingOfEntries (e :: more) ≤ limit)
      (isGap_of_mem_lineBreak step indentation) (isGap_of_mem_lineBreak step (indentation + 1))
      hlong rest
    have htext : ∀ lines : List Char, "\x7b".toList ++ (lineBreak step (indentation + 1) ++
        (lines ++ (lineBreak step indentation ++ "\x7d".toList))) ++ rest =
          '\x7b' :: (lineBreak step (indentation + 1) ++
            (lines ++ (lineBreak step indentation ++ '\x7d' :: rest))) := by
      intro lines
      simp
    rw [htext, readValue_object (by omega) (hopens.append _), hentries]
    rfl

/-- A value that is made of texts, lists and objects is read back (`ReadsBack`). -/
private theorem readsBack_of_worded {v : Value} (h : v.Worded) : ReadsBack limit step v := by
  induction h with
  | text s => exact readsBack_text s
  | list each ih => exact readsBack_list each ih
  | object distinct each ih => exact readsBack_object distinct each ih

end

/-- What is written of a value over several lines, with white space at its end, reads back as the
value (`Json.read`), if lists and objects may be nested as deeply as they are in it. -/
theorem read_indented {v : Value} (h : v.Worded) {limit : Nat} (hroom : v.nesting ≤ limit)
    (step : Nat) {after : String} (hafter : ∀ c ∈ after.toList, isGap c = true) :
    read limit (indented step v ++ after) = .ok v := by
  obtain ⟨c, tail, htext, hc⟩ := opens_indentedAt h step 0
  have hread := (readsBack_of_worded h : ReadsBack limit step v) 0 0
    (2 * (indented step v ++ after).toList.length + 2) after.toList (by omega)
    (by simp [indented]; omega)
  have hend : skipGap after.toList = [] := by
    have hskip := skipGap_append hafter []
    rwa [List.append_nil] at hskip
  have hstart : skipGap (indented step v ++ after).toList =
      (indentedAt step 0 v).toList ++ after.toList := by
    rw [String.toList_append]
    exact (Opens.append ⟨c, tail, htext, hc⟩ _).skipGap_eq
  have hmark : c ≠ '\uFEFF' := by
    rintro rfl
    exact absurd hc (by decide)
  have hall : readAll limit (indented step v ++ after).toList = .ok v := by
    unfold readAll
    split
    · next rest heq =>
      -- no value starts with a byte order mark
      rw [String.toList_append, indented, htext, List.cons_append, List.cons.injEq] at heq
      exact absurd heq.1 hmark
    · rw [hstart, hread]
      simp only [hend]
  rw [read, hall]

end Json

end Parlance
