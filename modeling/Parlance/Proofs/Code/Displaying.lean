import Parlance.Proofs.Code.Literals
import Parlance.Proofs.Code.Reads
import Parlance.Proofs.Json.Decoding

/-!
# The source texts of values

A value that JSON decodes to is displayed as a sequence of lexemes (`lexes_display`), in which the
only names are those of numbers that are not finite. If all its numbers are finite, and there is
room for as many open brackets as its lists and objects are nested in each other, the text is a
literal expression, whose value is the value that was displayed (`read?_display`).

## Key results

- `names?_of_read?`: a literal expression has no names in it
- `lexes_display`: the lexemes of a displayed value
- `readsAs_lexemesOf`: the lexemes of a value are read as the value inside any brackets, just where
  there is room for its own
- `names?_of_lexes`, `read?_of_lexes`: the names in the text of a value, and its value
- `read_eq_ok_of_display`: values whose numbers are finite are told apart by their texts
-/

namespace Parlance

open Parlance.Number Parlance.Text

/-! ## Finite values -/

mutual

/-- Whether all floating-point numbers in a value are finite, at any depth. -/
def Value.isFinite : Value → Bool
  | .float (.finite _ _ _) => true
  | .float _ => false
  | .list items => finiteItems items
  | .set members => finiteItems members
  | .object entries => finiteEntries entries
  | _ => true

/-- Whether all floating-point numbers in some values are finite. -/
def finiteItems : List Value → Bool
  | [] => true
  | v :: rest => v.isFinite && finiteItems rest

/-- Whether all floating-point numbers in the entries of an object are finite. -/
def finiteEntries : List (String × Value) → Bool
  | [] => true
  | (_, v) :: rest => v.isFinite && finiteEntries rest

end

/-- A list is finite if its `items` are. -/
private theorem finiteItems_eq_true_iff {items : List Value} :
    finiteItems items = true ↔ ∀ v ∈ items, v.isFinite = true := by
  induction items with
  | nil => simp [finiteItems]
  | cons v rest ih => rw [finiteItems, Bool.and_eq_true, ih, List.forall_mem_cons]

/-- An object is finite if the values of its `entries` are. -/
private theorem finiteEntries_eq_true_iff {entries : List (String × Value)} :
    finiteEntries entries = true ↔ ∀ e ∈ entries, e.2.isFinite = true := by
  induction entries with
  | nil => simp [finiteEntries]
  | cons e rest ih =>
    obtain ⟨name, v⟩ := e
    rw [finiteEntries, Bool.and_eq_true, ih, List.forall_mem_cons]

/-! ## What a value reads -/

/-- A value that JSON decodes (`Decoded`) to reads no name if and only if its numbers are finite. -/
theorem Value.Decoded.readsOfValue_eq_nil_iff {v : Value} (h : v.Decoded) :
    Code.readsOfValue v = [] ↔ v.isFinite = true := by
  induction h with
  | null => simp [Code.readsOfValue, isFinite]
  | bool => simp [Code.readsOfValue, isFinite]
  | int => simp [Code.readsOfValue, isFinite]
  | text => simp [Code.readsOfValue, isFinite]
  -- infinities and what is no number are written as names
  | @float x _ => cases x <;> simp [Code.readsOfValue_float, isFinite]
  | @list items each ih =>
    rw [Code.readsOfValue, isFinite, finiteItems_eq_true_iff]
    clear each
    induction items with
    | nil => simp [Code.readsOfItems]
    | cons v rest ihrest =>
      obtain ⟨hv, hrest⟩ := List.forall_mem_cons.1 ih
      rw [Code.readsOfItems, List.append_eq_nil_iff, hv, ihrest hrest, List.forall_mem_cons]
  | @object entries distinct each ih =>
    rw [Code.readsOfValue, isFinite, finiteEntries_eq_true_iff]
    clear each distinct
    induction entries with
    | nil => simp [Code.readsOfEntries]
    | cons e rest ihrest =>
      obtain ⟨name, v⟩ := e
      obtain ⟨hv, hrest⟩ := List.forall_mem_cons.1 ih
      rw [Code.readsOfEntries, List.append_eq_nil_iff, hv, ihrest hrest, List.forall_mem_cons]

namespace Literal

/-! ## The lexemes of a displayed value -/

/-- Lexemes with a comma between each two. -/
def separated : List (List Lexeme) → List Lexeme
  | [] => []
  | [item] => item
  | item :: next :: more => item ++ .mark ',' :: separated (next :: more)

/-- The lexemes of a number with its sign. -/
def signed (negative : Bool) (l : Lexeme) : List Lexeme := if negative then [.mark '-', l] else [l]

/-- The lexemes of a floating-point number. -/
def lexemesOfFloat : Double → List Lexeme
  | .finite negative m e =>
    signed negative (.numeral (Double.numeralOf (Double.toDecimal negative m e)))
  | .infinite negative => signed negative (.word "inf")
  | .notANumber => [.word "nan"]

mutual

/-- The lexemes of a value that JSON decodes to. -/
def lexemesOf : Value → List Lexeme
  | .null => [.word "None"]
  | .bool b => [.word (if b then "True" else "False")]
  | .int i => signed (i < 0) (.numeral (decimalDigits i.natAbs))
  | .float x => lexemesOfFloat x
  | .text s => [.text s]
  | .list items => .mark '[' :: (separated (lexemesOfItems items) ++ [.mark ']'])
  | .object entries => .mark '\x7b' :: (separated (lexemesOfEntries entries) ++ [.mark '\x7d'])
  | _ => []

/-- The lexemes of each item of a list. -/
def lexemesOfItems : List Value → List (List Lexeme)
  | [] => []
  | v :: rest => lexemesOf v :: lexemesOfItems rest

/-- The lexemes of each entry of an object. -/
def lexemesOfEntries : List (String × Value) → List (List Lexeme)
  | [] => []
  | (name, v) :: rest => (.text name :: .mark ':' :: lexemesOf v) :: lexemesOfEntries rest

end

/-- A sign (`signed`) before a number is a mark. -/
theorem Lexes.signed {s : List Char} {l : Lexeme} (h : Lexes s [l]) (negative : Bool) :
    Lexes ((if negative then ['-'] else []) ++ s) (signed negative l) := by
  cases negative with
  | true => exact h.mark (by decide)
  | false => exact h

/-- An integer is written (`intText`) as its digits, behind a sign if it is negative. -/
private theorem lexes_intText (i : Int) :
    Lexes (intText i).toList (signed (i < 0) (.numeral (decimalDigits i.natAbs))) := by
  have htext : (intText i).toList =
      (if decide (i < 0) then ['-'] else []) ++ decimalDigits i.natAbs := by
    cases i <;> simp [intText, Int.negSucc_lt_zero]
  rw [htext]
  have hdigits : AreDigits (decimalDigits i.natAbs) := fun c hc => isDigit_of_mem_decimalDigits hc
  exact (lexes_digits hdigits (decimalDigits_ne_nil _)).signed _

/-- A number is written as a numeral with its sign, or as `inf` or `nan`. -/
private theorem lexes_float (x : Double) : Lexes x.text.toList (lexemesOfFloat x) := by
  cases x with
  | finite negative m e =>
    -- the digits are those of the absolute value, and the sign stands before them
    have hsign : (Double.toDecimal negative m e).negative = negative := by
      rw [Double.toDecimal]
      split <;> rfl
    rw [Double.text, Double.toList_floatText, hsign]
    exact (lexes_numeral (Double.readsBack _).1).signed negative
  | infinite negative =>
    have hword : Lexes "inf".toList [.word "inf"] := lexes_word "inf" (by decide)
    cases negative with
    | true => exact hword.signed true
    | false => exact hword
  | notANumber => exact lexes_word "nan" (by decide)

/-- Texts with a comma and a blank between each two are their lexemes with commas between. -/
private theorem lexes_separated {texts : List String} {lexemes : List (List Lexeme)}
    (h : List.Forall₂ (fun s ls => Lexes s.toList ls) texts lexemes) :
    Lexes (", ".intercalate texts).toList (separated lexemes) := by
  induction h with
  | nil => exact .nil
  | @cons s ls texts lexemes hs hrest ih =>
    -- behind every value but the last stand a comma and a blank
    cases hrest with
    | nil =>
      rw [String.intercalate_singleton]
      exact hs
    | @cons t ms texts lexemes ht hmore =>
      rw [String.intercalate_cons_cons, String.toList_append, String.toList_append,
        List.append_assoc]
      exact hs.append_mark (by decide) ih.blank

/-- Lexemes inside brackets (`bracketed`). -/
theorem Lexes.bracketed {s : String} {ls : List Lexeme} (h : Lexes s.toList ls) (left right : Char)
    (hleft : left ∈ marks) (hright : right ∈ marks) :
    Lexes (left :: (s.toList ++ [right])) (.mark left :: (ls ++ [.mark right])) :=
  (h.append_mark hright .nil).mark hleft

/-- A value that JSON decodes to is displayed (`display`) as its lexemes. -/
theorem lexes_display {v : Value} (h : v.Decoded) : Lexes v.display.toList (lexemesOf v) := by
  induction h with
  | null => exact lexes_word "None" (by decide)
  | bool b =>
    cases b with
    | true => exact lexes_word "True" (by decide)
    | false => exact lexes_word "False" (by decide)
  | @int i _ => exact lexes_intText i
  | @float x _ => exact lexes_float x
  | text s => exact lexes_quoted s
  -- items and entries by a second induction, on the list
  | @list items each ih =>
    have hitems : List.Forall₂ (fun s ls => Lexes s.toList ls) (Value.displayItems items)
        (lexemesOfItems items) := by
      clear each
      induction items with
      | nil => exact .nil
      | cons v rest ihrest =>
        obtain ⟨hv, hrest⟩ := List.forall_mem_cons.1 ih
        exact .cons hv (ihrest hrest)
    have hlexes := (lexes_separated hitems).bracketed '[' ']' (by decide) (by decide)
    simpa [Value.display, lexemesOf] using hlexes
  | @object entries distinct each ih =>
    have hentries : List.Forall₂ (fun s ls => Lexes s.toList ls) (Value.displayEntries entries)
        (lexemesOfEntries entries) := by
      clear each distinct
      induction entries with
      | nil => exact .nil
      | cons e rest ihrest =>
        obtain ⟨name, v⟩ := e
        obtain ⟨hv, hrest⟩ := List.forall_mem_cons.1 ih
        have hentry := (lexes_quoted name).append_mark (c := ':') (by decide) hv.blank
        refine .cons ?_ (ihrest hrest)
        simpa using hentry
    have hlexes := (lexes_separated hentries).bracketed '\x7b' '\x7d' (by decide) (by decide)
    simpa [Value.display, lexemesOf] using hlexes

/-! ## Names -/

/-- A lexeme that is read is no name (`name?`). -/
private theorem name?_of_step? {room : Nat} {reader next : Reader} {l : Lexeme}
    (h : reader.step? room l = some next) :
    l.name? = none := by
  cases l with
  | word s =>
    obtain ⟨v, hv, -⟩ := Option.bind_eq_some_iff.1 h
    rw [Lexeme.name?, hv]
    rfl
  | numeral | text | mark => rfl

/-- Lexemes that are read have no names (`namesOf`) among them. -/
private theorem namesOf_of_steps? {room : Nat} {reader next : Reader} {ls : List Lexeme}
    (h : reader.steps? room ls = some next) : namesOf ls = [] := by
  induction ls generalizing reader with
  | nil => rfl
  | cons l rest ih =>
    obtain ⟨between, hstep, hrest⟩ := Option.bind_eq_some_iff.1 h
    rw [namesOf, List.filterMap_cons_none (name?_of_step? hstep)]
    exact ih hrest

/-- A literal expression has no names (`names?`) in it. -/
theorem names?_of_read? {room : Nat} {s : String} {v : Value} (h : read? room s = some v) :
    names? s = some [] := by
  obtain ⟨ls, hlex, hvalue⟩ := Option.bind_eq_some_iff.1 h
  obtain ⟨reader, hsteps, -⟩ := Option.bind_eq_some_iff.1 hvalue
  rw [names?, hlex, Option.map_some, namesOf_of_steps? hsteps]

/-- Names (`namesOf`) are collected from left to right. -/
private theorem namesOf_append (ls ms : List Lexeme) : namesOf (ls ++ ms) =
    namesOf ls ++ namesOf ms :=
  List.filterMap_append

/-- Commas are no names (`namesOf`). -/
private theorem namesOf_separated (items : List (List Lexeme)) :
    namesOf (separated items) = items.flatMap namesOf := by
  induction items with
  | nil => rfl
  | cons item rest ih =>
    cases rest with
    | nil => simp [separated]
    | cons next more =>
      rw [separated, namesOf_append, List.flatMap_cons, ← ih]
      rfl

/-- Brackets are no names (`namesOf`). -/
private theorem namesOf_bracketed (left right : Char) (ls : List Lexeme) :
    namesOf (.mark left :: (ls ++ [.mark right])) = namesOf ls := by
  change namesOf (ls ++ [.mark right]) = namesOf ls
  rw [namesOf_append]
  exact List.append_nil _

/-- The names (`namesOf`) in a value that is displayed are those that it reads. -/
theorem namesOf_lexemesOf {v : Value} (h : v.Decoded) :
    namesOf (lexemesOf v) = Code.readsOfValue v := by
  induction h with
  | null => rfl
  | bool b => cases b <;> rfl
  | @int i _ =>
    rw [lexemesOf, Code.readsOfValue, signed]
    · split <;> rfl
    all_goals simp
  | @float x _ =>
    rw [Code.readsOfValue_float, lexemesOf]
    cases x with
    | finite negative m e => cases negative <;> rfl
    | infinite negative => cases negative <;> rfl
    | notANumber => rfl
  | text s => rfl
  -- brackets, commas and colons are no names
  | @list items each ih =>
    have hitems : (lexemesOfItems items).flatMap namesOf = Code.readsOfItems items := by
      clear each
      induction items with
      | nil => rfl
      | cons v rest ihrest =>
        obtain ⟨hv, hrest⟩ := List.forall_mem_cons.1 ih
        rw [lexemesOfItems, List.flatMap_cons, hv, ihrest hrest, Code.readsOfItems]
    rw [Code.readsOfValue, ← hitems, ← namesOf_separated, lexemesOf, namesOf_bracketed]
  | @object entries distinct each ih =>
    have hentries : (lexemesOfEntries entries).flatMap namesOf = Code.readsOfEntries entries := by
      clear each distinct
      induction entries with
      | nil => rfl
      | cons e rest ihrest =>
        obtain ⟨name, v⟩ := e
        obtain ⟨hv, hrest⟩ := List.forall_mem_cons.1 ih
        rw [lexemesOfEntries, List.flatMap_cons, Code.readsOfEntries, ihrest hrest, ← hv]
        rfl
    rw [Code.readsOfValue, ← hentries, ← namesOf_separated, lexemesOf, namesOf_bracketed]

/-! ## Reading values back -/

/-- Whether the lexemes of a value are read as the value wherever a value may stand, if there is
room for its brackets inside those that are open, and are not read otherwise. -/
def ReadsAs (ls : List Lexeme) (v : Value) : Prop :=
  ∀ (room : Nat) (stack : List Frame) (focus : Focus), focus.isOpen = true → stack.length ≤ room →
    Reader.steps? room ⟨stack, focus⟩ ls =
      if stack.length + v.nesting ≤ room then some ⟨stack, .after v⟩ else none

/-- A value without brackets (`nesting`) is read wherever a value may stand. -/
private theorem readsAs_of_flat {ls : List Lexeme} {v : Value} (hflat : v.nesting = 0)
    (h : ∀ (room : Nat) (stack : List Frame) (focus : Focus), focus.isOpen = true →
      Reader.steps? room ⟨stack, focus⟩ ls = some ⟨stack, .after v⟩) : ReadsAs ls v := by
  intro room stack focus hopen hstack
  rw [h room stack focus hopen, if_pos (by omega)]

/-- A constant (`constant?`) has no brackets. -/
private theorem nesting_of_constant? {s : String} {v : Value} (h : constant? s = some v) :
    v.nesting = 0 := by
  unfold constant? at h
  split at h <;> simp at h <;> subst h <;> rfl

/-- The word of a constant is read as (`ReadsAs`) the constant. -/
private theorem readsAs_word {s : String} {v : Value} (h : constant? s = some v) : ReadsAs [.word s]
    v := by
  refine readsAs_of_flat (nesting_of_constant? h) fun room stack focus hopen => ?_
  simp [Reader.steps?, Reader.step?, h, Reader.place?, hopen]

/-- A string literal is read as (`ReadsAs`) its text. -/
private theorem readsAs_text (s : String) : ReadsAs [.text s] (.text s) := by
  refine readsAs_of_flat rfl fun room stack focus hopen => ?_
  simp [Reader.steps?, Reader.step?, Reader.place?, hopen]

/-- A number is read with the sign (`signed`) before it. -/
private theorem readsAs_signed {digits : List Char} {v w : Value} {negative : Bool}
    (hflat : w.nesting = 0) (hdigits : number? digits = some v)
    (hsign : if negative then negate? v = some w else v = w) :
    ReadsAs (signed negative (.numeral digits)) w := by
  refine readsAs_of_flat hflat fun room stack focus hopen => ?_
  -- a minus is read as a mark and then applied to the number
  cases negative with
  | true =>
    rw [if_pos rfl] at hsign
    simp [signed, Reader.steps?, Reader.step?, Reader.stepMark?, Reader.stepNumber?, hopen, hdigits,
      hsign]
  | false =>
    obtain rfl : v = w := by simpa using hsign
    cases focus with
    | item | operand =>
      simp [signed, Reader.steps?, Reader.step?, Reader.stepNumber?, Reader.place?, hdigits,
        Focus.isOpen]
    | negated => cases hopen
    | after _ => cases hopen

/-- An integer is read (`ReadsAs`) from its digits if they are few enough. -/
private theorem readsAs_int {i : Int} (hshort : (decimalDigits i.natAbs).length ≤ digitLimit) :
    ReadsAs (signed (i < 0) (.numeral (decimalDigits i.natAbs))) (.int i) := by
  have hall : (decimalDigits i.natAbs).all Char.isDigit = true :=
    List.all_eq_true.2 fun c hc => isDigit_of_mem_decimalDigits hc
  have hdigits : number? (decimalDigits i.natAbs) = some (.int i.natAbs) := by
    rw [number?, if_pos hall, Code.numeral?_decimalDigits hshort]
    rfl
  refine readsAs_signed rfl hdigits ?_
  simp only [decide_eq_true_eq, negate?]
  -- the digits are those of the absolute value
  split
  · rw [Int.ofNat_natAbs_of_nonpos (by omega), Int.neg_neg]
  · rw [Int.natAbs_of_nonneg (by omega)]

/-- A numeral (`IsNumeral`) has a point or the letter of an exponent. -/
private theorem not_all_isDigit {digits : List Char} (h : IsNumeral digits) :
    digits.all Char.isDigit = false := by
  cases h with
  | @positional whole fraction hwhole hfraction some behind =>
    rw [pointed, if_neg (by simpa using behind)]
    simp
  | scientific minus hwhole hfraction hexponent some => simp [signedExponent]

/-- A finite number (`Canonical`) is read from its text. -/
private theorem readsAs_float {negative : Bool} {m : Nat} {e : Int}
    (hcanonical : Double.Canonical (.finite negative m e)) :
    ReadsAs (lexemesOfFloat (.finite negative m e)) (.float (.finite negative m e)) := by
  have hdigits : number? (Double.numeralOf (Double.toDecimal negative m e)) =
      some (.float (.finite false m e)) := by
    rw [number?, not_all_isDigit (Double.readsBack _).1, Double.ofChars?_numeralOf hcanonical]
    rfl
  refine readsAs_signed rfl hdigits ?_
  cases negative <;> rfl

/-- What is separated (`separated`) starts with the first of it. -/
private theorem exists_separated_eq_append (item : List Lexeme) (more : List (List Lexeme)) :
    ∃ tail, separated (item :: more) = item ++ tail := by
  cases more with
  | nil => exact ⟨[], by rw [separated, List.append_nil]⟩
  | cons next more => exact ⟨_, rfl⟩

/-- What starts with lexemes that are not read is not read (`steps?`). -/
private theorem steps?_separated_of_none {room : Nat} {reader : Reader} {item : List Lexeme}
    (h : reader.steps? room item = none) (more : List (List Lexeme)) (after : List Lexeme) :
    reader.steps? room (separated (item :: more) ++ after) = none := by
  obtain ⟨tail, htail⟩ := exists_separated_eq_append item more
  rw [htail, List.append_assoc, Reader.steps?_append, h]
  rfl

/-- The items (`items`) of a list are read one after another, up to the end of the list, if there is
room for the brackets of each. -/
private theorem steps?_items {items : List Value} (h : ∀ v ∈ items, ReadsAs (lexemesOf v) v)
    {room : Nat} (before : List Value) (stack : List Frame) (hroom : stack.length < room) :
    Reader.steps? room ⟨.list before :: stack, .item⟩
        (separated (lexemesOfItems items) ++ [.mark ']']) =
      if stack.length + 1 + nestingOfItems items ≤ room then
        some ⟨stack, .after (.list (before ++ items))⟩
      else none := by
  induction items generalizing before with
  | nil =>
    rw [nestingOfItems, if_pos (by omega), List.append_nil]
    rfl
  | cons v rest ih =>
    obtain ⟨hv, hrest⟩ := List.forall_mem_cons.1 h
    have hfirst := hv room (.list before :: stack) .item rfl hroom
    rw [List.length_cons] at hfirst
    by_cases hfits : stack.length + 1 + v.nesting ≤ room
    · -- the item is read, and the rest decides
      rw [if_pos hfits] at hfirst
      have hmore := ih hrest (before ++ [v])
      have hmax : stack.length + 1 + nestingOfItems (v :: rest) ≤ room ↔
          stack.length + 1 + nestingOfItems rest ≤ room := by
        rw [nestingOfItems]
        omega
      rw [List.append_assoc, List.singleton_append] at hmore
      rw [if_congr hmax rfl rfl, ← hmore]
      cases rest with
      | nil =>
        simp only [lexemesOfItems, separated, Reader.steps?_append, hfirst]
        rfl
      | cons next more =>
        rw [lexemesOfItems, lexemesOfItems, separated, List.append_assoc, Reader.steps?_append,
          hfirst]
        rfl
    · -- there is no room for the item, whatever follows
      rw [if_neg hfits] at hfirst
      rw [nestingOfItems, if_neg (by omega)]
      exact steps?_separated_of_none hfirst _ _

/-- The entries of an object are read one after another, up to the end of the object, if there is
room for the brackets of each. -/
private theorem steps?_entries {entries : List (String × Value)}
    (h : ∀ e ∈ entries, ReadsAs (lexemesOf e.2) e.2) {room : Nat} (before : List (String × Value))
    (hdistinct : ((before ++ entries).map (·.1)).Nodup) (stack : List Frame)
    (hroom : stack.length < room) :
    Reader.steps? room ⟨.object before none :: stack, .item⟩
        (separated (lexemesOfEntries entries) ++ [.mark '\x7d']) =
      if stack.length + 1 + nestingOfEntries entries ≤ room then
        some ⟨stack, .after (.object (before ++ entries))⟩
      else none := by
  induction entries generalizing before with
  | nil =>
    rw [nestingOfEntries, if_pos (by omega), List.append_nil]
    rfl
  | cons e rest ih =>
    obtain ⟨name, v⟩ := e
    obtain ⟨hv, hrest⟩ := List.forall_mem_cons.1 h
    -- no entry before has the name, so the new one is added at the end
    have hset : Assoc.set before name v = before ++ [(name, v)] := by
      refine Assoc.set_of_not_mem v fun hmem => ?_
      rw [List.map_append, List.nodup_append] at hdistinct
      exact hdistinct.2.2 name hmem name (by simp) rfl
    have hfirst : Reader.steps? room ⟨.object before none :: stack, .item⟩
        (.text name :: .mark ':' :: lexemesOf v) =
          if stack.length + 1 + v.nesting ≤ room then
            some ⟨.object before (some name) :: stack, .after v⟩
          else none := by
      rw [← List.length_cons,
        ← hv room (.object before (some name) :: stack) .operand rfl hroom]
      rfl
    by_cases hfits : stack.length + 1 + v.nesting ≤ room
    · -- the entry is read, and the rest decides
      rw [if_pos hfits] at hfirst
      have hmore := ih hrest (before ++ [(name, v)]) (by simpa using hdistinct)
      have hmax : stack.length + 1 + nestingOfEntries ((name, v) :: rest) ≤ room ↔
          stack.length + 1 + nestingOfEntries rest ≤ room := by
        rw [nestingOfEntries]
        omega
      rw [List.append_assoc, List.singleton_append] at hmore
      rw [if_congr hmax rfl rfl, ← hmore, ← hset]
      cases rest with
      | nil =>
        simp only [lexemesOfEntries, separated, Reader.steps?_append, hfirst]
        rfl
      | cons next more =>
        rw [lexemesOfEntries, lexemesOfEntries, separated, List.append_assoc,
          Reader.steps?_append, hfirst]
        rfl
    · -- there is no room for the entry, whatever follows
      rw [if_neg hfits] at hfirst
      rw [nestingOfEntries, if_neg (by omega)]
      exact steps?_separated_of_none hfirst _ _

/-- A bracket is opened (`stepMark?`) just where there is room for it. -/
private theorem steps?_bracketed {room : Nat} {stack : List Frame} {focus : Focus} {c : Char}
    {frame : Frame} {ls : List Lexeme} {v : Value} {inner : Nat} (hopen : focus.isOpen = true)
    (hmark : ∀ reader : Reader, reader.stepMark? room c = reader.open? room frame)
    (hstack : stack.length ≤ room)
    (h : stack.length < room → Reader.steps? room ⟨frame :: stack, .item⟩ ls =
      if stack.length + 1 + inner ≤ room then some ⟨stack, .after v⟩ else none) :
    Reader.steps? room ⟨stack, focus⟩ (.mark c :: ls) =
      if stack.length + (inner + 1) ≤ room then some ⟨stack, .after v⟩ else none := by
  rw [Reader.steps?, Reader.step?, hmark, Reader.open?]
  by_cases hroom : stack.length < room
  · rw [if_pos (by simp [hopen, hroom]), Option.bind_some, h hroom]
    exact if_congr (by omega) rfl rfl
  · rw [if_neg (by simp [hroom]), if_neg (by omega)]
    rfl

/-- The lexemes of a value whose numbers are finite are read as (`ReadsAs`) the value. -/
theorem readsAs_lexemesOf {v : Value} (h : v.Decoded) (hfinite : v.isFinite = true) :
    ReadsAs (lexemesOf v) v := by
  induction h with
  | null => exact readsAs_word rfl
  | bool b => cases b <;> exact readsAs_word rfl
  | int hshort => exact readsAs_int hshort
  | @float x hcanonical =>
    cases x with
    | finite negative m e => exact readsAs_float hcanonical
    | infinite | notANumber => cases hfinite
  | text s => exact readsAs_text s
  | @list items each ih =>
    -- room for the brackets of the value is room for those of its items
    rw [Value.isFinite, finiteItems_eq_true_iff] at hfinite
    intro room stack focus hopen hstack
    rw [lexemesOf, Value.nesting]
    exact steps?_bracketed hopen (fun _ => rfl) hstack
      (steps?_items (fun v hv => ih v hv (hfinite v hv)) [] stack)
  | @object entries distinct each ih =>
    rw [Value.isFinite, finiteEntries_eq_true_iff] at hfinite
    intro room stack focus hopen hstack
    rw [lexemesOf, Value.nesting]
    exact steps?_bracketed hopen (fun _ => rfl) hstack
      (steps?_entries (fun e he => ih e he (hfinite e he)) [] (by simpa using distinct) stack)

/-! ## Texts -/

section

variable {s : String} {v : Value} (h : v.Decoded) (hs : Lexes s.toList (lexemesOf v))

include h hs

/-- The names (`names?`) in the text of a value are those that the value reads. -/
theorem names?_of_lexes : names? s = some (Code.readsOfValue v) := by
  rw [names?, hs.lex_eq, Option.map_some, namesOf_lexemesOf h]

/-- The text of a value is a literal expression (`read?`) of the value if its numbers are finite and
there is room for its brackets, and else it is none. -/
theorem read?_of_lexes (room : Nat) :
    read? room s = if v.isFinite && decide (v.nesting ≤ room) then some v else none := by
  cases hfinite : v.isFinite with
  | true =>
    have hsteps := readsAs_lexemesOf h hfinite room [] .operand rfl (Nat.zero_le _)
    rw [read?, hs.lex_eq, Option.bind_some, valueOf?, hsteps, List.length_nil, Nat.zero_add]
    by_cases hfits : v.nesting ≤ room <;> simp [hfits, Reader.value?]
  | false =>
    -- what is no finite number is written as a name, and a literal reads no name
    refine Option.eq_none_iff_forall_ne_some.2 fun w hw => ?_
    have hnames := (names?_of_lexes h hs).symm.trans (names?_of_read? hw)
    have hfinite' := h.readsOfValue_eq_nil_iff.1 (Option.some.inj hnames)
    cases hfinite.symm.trans hfinite'

end

/-- The text that `display` gives is read as the value just if its numbers are finite and there is
`room` for its brackets. -/
theorem read?_display {v : Value} (h : v.Decoded) (room : Nat) :
    read? room v.display = if v.isFinite && decide (v.nesting ≤ room) then some v else none :=
  read?_of_lexes h (lexes_display h) room

/-- A JSON text whose value is displayed (`display`) as some finite value has this value. -/
theorem read_eq_ok_of_display {limit : Nat} {text : String} {v : Value} (h : v.Decoded)
    (hfinite : v.isFinite = true)
    (hdisplay : (Json.read limit text).toOption.map (fun w => (w.isFinite, w.display)) =
      some (true, v.display)) :
    Json.read limit text = .ok v := by
  cases hread : Json.read limit text with
  | error e =>
    rw [hread] at hdisplay
    cases hdisplay
  | ok w =>
    rw [hread] at hdisplay
    obtain ⟨hw, heq⟩ : w.isFinite = true ∧ w.display = v.display :=
      Prod.ext_iff.1 (Option.some.inj hdisplay)
    -- there is room enough for both values
    have hvalues := read?_display (Json.decoded_of_read hread) (max w.nesting v.nesting)
    rw [heq, read?_display h, if_pos (by simp [hfinite]), if_pos (by simp [hw])] at hvalues
    rw [Option.some.inj hvalues]

end Literal

end Parlance
