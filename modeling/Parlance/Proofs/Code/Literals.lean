import Parlance.Proofs.Code.Lexing
import Parlance.Proofs.Number.Notation
import Parlance.Value.Display

/-!
# Literal expressions of the generated module's language

A literal expression is a string in either sort of quotes, a number, a constant, or a list or a
dictionary of literal expressions. `read?` gives its value; `names?` gives the names in it, which
are looked up when it is evaluated. A literal expression has none, and so a text with a name in it
has no value here. The reader knows the escapes and the numerals that values are written with, and
refuses any other. As in the language itself, only so many brackets may be open at once
(`bracketLimit`), those around the expression included.
-/

namespace Parlance.Literal

open Parlance.Number Parlance.Text

/-! ## Cutting a text into lexemes -/

/-- A lexeme. -/
inductive Lexeme where
  /-- A name or a constant. -/
  | word (s : String)
  /-- A number as it is written, without a sign. -/
  | numeral (digits : List Char)
  /-- A string, with its escapes resolved. -/
  | text (s : String)
  /-- A sign, a bracket or a separator. -/
  | mark (c : Char)
deriving DecidableEq, Repr

/-- What a character goes on with, and what of it has been read. -/
inductive Mode where
  | between
  | word (read : List Char)
  /-- In a numeral, and whether a sign may come, as it may after the letter of an exponent. -/
  | numeral (read : List Char) (signed : Bool)
  /-- Inside a string. -/
  | text (quote : Char) (read : List Char)
  /-- After a backslash in a string. -/
  | escape (quote : Char) (read : List Char)
  /-- In the hexadecimal digits of an escape, some of which are still to come. -/
  | code (quote : Char) (read : List Char) (left value : Nat)
deriving DecidableEq, Repr

/-- The characters that are lexemes by themselves. -/
def marks : List Char := ['-', ',', ':', '[', ']', '\x7b', '\x7d']

/-- The character of an escape that is a letter or a mark. -/
def simpleEscape? : Char → Option Char
  | '\\' => some '\\'
  | '\'' => some '\''
  | '"' => some '"'
  | 'n' => some '\n'
  | 'r' => some '\r'
  | 't' => some '\t'
  | _ => none

/-- The number of hexadecimal digits that a letter after a backslash announces. -/
def codeLength? : Char → Option Nat
  | 'x' => some 2
  | 'u' => some 4
  | 'U' => some 8
  | _ => none

/-- What a character begins. -/
def begin? (c : Char) : Option (List Lexeme × Mode) :=
  if isIdentifierStart c then some ([], .word [c])
  else if c.isDigit then some ([], .numeral [c] false)
  else if c = '"' ∨ c = '\'' then some ([], .text c [])
  else if c = ' ' then some ([], .between)
  else if c ∈ marks then some ([.mark c], .between)
  else none

/-- Whether a character belongs to the numeral before it, if only to spoil it. -/
def goesOn (signed : Bool) (c : Char) : Bool :=
  Code.continuesNumeral c || (signed && (c == '+' || c == '-'))

/-- The lexemes that are complete after a character, and what the next one goes on with. -/
def advance? : Mode → Char → Option (List Lexeme × Mode)
  | .between, c => begin? c
  | .word read, c =>
    if isIdentifierPart c then some ([], .word (read ++ [c]))
    else (begin? c).map fun s => (.word (String.ofList read) :: s.1, s.2)
  | .numeral read signed, c =>
    if goesOn signed c then some ([], .numeral (read ++ [c]) (c == 'e' || c == 'E'))
    else (begin? c).map fun s => (.numeral read :: s.1, s.2)
  | .text quote read, c =>
    if c = quote then some ([.text (String.ofList read)], .between)
    else if c = '\\' then some ([], .escape quote read)
    else if Code.breaksText c then none
    else some ([], .text quote (read ++ [c]))
  | .escape quote read, c =>
    match codeLength? c with
    | some length => some ([], .code quote read length 0)
    | none => (simpleEscape? c).map fun d => ([], .text quote (read ++ [d]))
  | .code quote read left value, c =>
    (digitValue? 16 c).bind fun digit =>
      let value := value * 16 + digit
      if 1 < left then some ([], .code quote read (left - 1) value)
      else if value.isValidChar then some ([], .text quote (read ++ [Char.ofNat value]))
      else none

/-- The lexemes that the end of the text completes. -/
def finish? : Mode → Option (List Lexeme)
  | .between => some []
  | .word read => some [.word (String.ofList read)]
  | .numeral read _ => some [.numeral read]
  | _ => none

/-- The lexemes of the rest of a text. -/
def lexFrom : Mode → List Char → Option (List Lexeme)
  | mode, [] => finish? mode
  | mode, c :: rest => (advance? mode c).bind fun s => (lexFrom s.2 rest).map (s.1 ++ ·)

/-- The lexemes of a text. -/
def lex (s : String) : Option (List Lexeme) := lexFrom .between s.toList

/-! ## Values of lexemes -/

/-- The value of a constant. -/
def constant? : String → Option Value
  | "None" => some .null
  | "True" => some (.bool true)
  | "False" => some (.bool false)
  | _ => none

/-- The value of a numeral: an integer if it has digits only, and else a floating-point number. -/
def number? (digits : List Char) : Option Value :=
  if digits.all Char.isDigit then (Code.numeral? digits).map fun n => .int n
  else (Double.ofChars? digits).map .float

/-- The number with the other sign. -/
def negate? : Value → Option Value
  | .int i => some (.int (-i))
  | .float x => some (.float x.negate)
  | _ => none

/-- The name that a lexeme is, if it is one. -/
def Lexeme.name? : Lexeme → Option String
  | .word s => if (constant? s).isSome then none else some s
  | _ => none

/-- The names among lexemes. -/
def namesOf (lexemes : List Lexeme) : List String := lexemes.filterMap Lexeme.name?

/-- The names in a text. -/
def names? (s : String) : Option (List String) := (lex s).map namesOf

/-! ## The machine -/

/-- How many brackets may be open at once in a text of the language. -/
def bracketLimit : Nat := 200

/-- A bracket that is open, with what has been read inside. -/
inductive Frame where
  | list (items : List Value)
  /-- A dictionary, and the key of the entry that is being read. -/
  | object (entries : Assoc Value) (key : Option String)
deriving Repr

/-- What may come next. -/
inductive Focus where
  /-- An item of a bracket, or its end. -/
  | item
  /-- A value. -/
  | operand
  /-- A number after a minus. -/
  | negated
  /-- What goes on after a value. -/
  | after (v : Value)
deriving Repr

/-- Whether a value may come next. -/
def Focus.isOpen : Focus → Bool
  | item => true
  | operand => true
  | _ => false

namespace Frame

/-- The bracket with one value more; of two entries with one key the later gives the value. -/
def add? : Frame → Value → Option Frame
  | list items, v => some (list (items ++ [v]))
  | object entries (some key), v => some (object (entries.set key v) none)
  | object _ none, _ => none

/-- The value of a bracket that a mark closes. -/
def close? : Frame → Char → Option Value
  | list items, ']' => some (.list items)
  | object entries none, '\x7d' => some (.object entries)
  | _, _ => none

end Frame

/-- The open brackets, the innermost first, and what may come next. -/
structure Reader where
  stack : List Frame
  focus : Focus
deriving Repr

namespace Reader

/-- Reads a value. -/
def place? (reader : Reader) (v : Value) : Option Reader :=
  if reader.focus.isOpen then some ⟨reader.stack, .after v⟩ else none

/-- Opens a bracket, if there is room for one more. -/
def open? (room : Nat) (reader : Reader) (frame : Frame) : Option Reader :=
  if reader.focus.isOpen && decide (reader.stack.length < room) then
    some ⟨frame :: reader.stack, .item⟩
  else none

/-- Closes the innermost bracket. -/
def close? (c : Char) : Reader → Option Reader
  | ⟨frame :: stack, .item⟩ => (frame.close? c).map (⟨stack, .after ·⟩)
  | ⟨frame :: stack, .after v⟩ =>
    (frame.add? v).bind fun full => (full.close? c).map (⟨stack, .after ·⟩)
  | _ => none

/-- Goes on with the next item of a bracket. -/
def next? : Reader → Option Reader
  | ⟨frame :: stack, .after v⟩ => (frame.add? v).map (⟨· :: stack, .item⟩)
  | _ => none

/-- Takes a string for a key. -/
def key? : Reader → Option Reader
  | ⟨.object entries none :: stack, .after (.text key)⟩ =>
    some ⟨.object entries (some key) :: stack, .operand⟩
  | _ => none

/-- Reads a mark; `room` is how many brackets may be open. -/
def stepMark? (room : Nat) (reader : Reader) : Char → Option Reader
  | '-' => if reader.focus.isOpen then some ⟨reader.stack, .negated⟩ else none
  | '[' => reader.open? room (.list [])
  | '\x7b' => reader.open? room (.object [] none)
  | ',' => reader.next?
  | ':' => reader.key?
  | c => reader.close? c

/-- Reads a number, which a minus may stand before. -/
def stepNumber? (reader : Reader) (v : Value) : Option Reader :=
  match reader.focus with
  | .negated => (negate? v).map fun v => ⟨reader.stack, .after v⟩
  | _ => reader.place? v

/-- Reads a lexeme. -/
def step? (room : Nat) (reader : Reader) : Lexeme → Option Reader
  | .word s => (constant? s).bind reader.place?
  | .numeral digits => (number? digits).bind reader.stepNumber?
  | .text s => reader.place? (.text s)
  | .mark c => reader.stepMark? room c

/-- Reads lexemes one after another. -/
def steps? (room : Nat) : Reader → List Lexeme → Option Reader
  | reader, [] => some reader
  | reader, l :: rest => (reader.step? room l).bind (steps? room · rest)

/-- The value that has been read, if no bracket is open. -/
def value? : Reader → Option Value
  | ⟨[], .after v⟩ => some v
  | _ => none

/-- A reader takes `ls ++ ms` as it takes `ls` and then `ms`. -/
theorem steps?_append (room : Nat) (reader : Reader) (ls ms : List Lexeme) :
    reader.steps? room (ls ++ ms) = (reader.steps? room ls).bind (steps? room · ms) := by
  induction ls generalizing reader with
  | nil => rfl
  | cons l rest ih =>
    rw [List.cons_append, steps?, steps?, Option.bind_assoc]
    exact congrArg _ (funext fun next => ih next)

end Reader

/-- The value of lexemes that are one literal expression. -/
def valueOf? (room : Nat) (lexemes : List Lexeme) : Option Value :=
  (Reader.steps? room ⟨[], .operand⟩ lexemes).bind Reader.value?

/-- The value of a text that is one literal expression, with room for some open brackets. -/
def read? (room : Nat) (s : String) : Option Value := (lex s).bind (valueOf? room)

/-! ## Single lexemes -/

/-- A character that completes no lexeme (`advance?`) changes only what is gone on with. -/
theorem lexFrom_of_quiet {mode next : Mode} {c : Char} (h : advance? mode c = some ([], next))
    (rest : List Char) : lexFrom mode (c :: rest) = lexFrom next rest := by
  rw [lexFrom, h]
  simp only [Option.bind_some, List.nil_append]
  exact Option.map_id'

/-- A mark (`marks`) is a lexeme whatever follows. -/
theorem lexFrom_mark {c : Char} (h : c ∈ marks) (rest : List Char) :
    lexFrom .between (c :: rest) = (lexFrom .between rest).map (.mark c :: ·) := by
  have hbegin : ∀ c ∈ marks, begin? c = some ([.mark c], .between) := by
    simp only [marks, List.forall_mem_cons, List.not_mem_nil, false_implies, implies_true]
    decide
  rw [lexFrom, advance?, hbegin c h]
  rfl

/-- A word ends where a character follows that cannot stand in it (`isIdentifierPart`). -/
theorem lexFrom_word {word rest : List Char} (hword : ∀ c ∈ word, isIdentifierPart c = true)
    (hrest : ∀ c ∈ rest.head?, Code.continuesNumeral c = false) (read : List Char) :
    lexFrom (.word read) (word ++ rest) =
      (lexFrom .between rest).map (.word (String.ofList (read ++ word)) :: ·) := by
  induction word generalizing read with
  | nil =>
    cases rest with
    | nil => simp [lexFrom, finish?]
    | cons c cs =>
      -- the character behind the word ends it
      have hc := hrest c rfl
      rw [Code.continuesNumeral, Bool.or_eq_false_iff] at hc
      cases hbegin : begin? c <;> simp [lexFrom, advance?, hc.1, hbegin, Function.comp_def]
  | cons c cs ih =>
    have hc := hword c List.mem_cons_self
    rw [List.cons_append, lexFrom_of_quiet (by rw [advance?, if_pos hc]),
      ih fun d hd => hword d (List.mem_cons_of_mem _ hd), List.append_assoc, List.singleton_append]

/-- A numeral ends where a character follows that is not part of it (`continuesNumeral`). -/
private theorem lexFrom_numeral_end {rest : List Char}
    (hrest : ∀ c ∈ rest.head?, Code.continuesNumeral c = false) (read : List Char) :
    lexFrom (.numeral read false) rest = (lexFrom .between rest).map (.numeral read :: ·) := by
  cases rest with
  | nil => simp [lexFrom, finish?]
  | cons c cs =>
    have hc : goesOn false c = false := by
      rw [goesOn, hrest c rfl]
      rfl
    cases hbegin : begin? c <;> simp [lexFrom, advance?, hc, hbegin, Function.comp_def]

/-- Digits (`AreDigits`) go on with a numeral. -/
theorem lexFrom_digits {digits : List Char} (hdigits : AreDigits digits) (read : List Char)
    (signed : Bool) (rest : List Char) (hne : digits ≠ [] ∨ signed = false) :
    lexFrom (.numeral read signed) (digits ++ rest) =
      lexFrom (.numeral (read ++ digits) false) rest := by
  induction digits generalizing read signed with
  | nil =>
    rw [hne.resolve_left (by simp), List.append_nil, List.nil_append]
  | cons c cs ih =>
    obtain ⟨hc, hcs⟩ := List.forall_mem_cons.1 hdigits
    obtain ⟨-, -, -, he, hE⟩ := ne_of_isDigit hc
    -- a sign may only stand right behind the letter of the exponent, so after a digit there is none
    have hgoes : goesOn signed c = true := by
      rw [goesOn, (Code.continuesNumeral_of_isDigit hc).2]
      rfl
    have hquiet : advance? (.numeral read signed) c = some ([], .numeral (read ++ [c]) false) := by
      rw [advance?, if_pos hgoes]
      simp [he, hE]
    rw [List.cons_append, lexFrom_of_quiet hquiet, ih hcs _ false (.inr rfl), List.append_assoc,
      List.singleton_append]

/-- A numeral goes on to the end of its digits (`pointed`). -/
private theorem lexFrom_pointed {whole fraction : List Char} (hwhole : AreDigits whole)
    (hfraction : AreDigits fraction) (hne : whole ≠ []) (rest : List Char) :
    lexFrom .between (pointed whole fraction ++ rest) =
      lexFrom (.numeral (pointed whole fraction) false) rest := by
  -- the whole part comes first, with or without a point behind it
  have hstart : ∀ tail, lexFrom .between (whole ++ tail) = lexFrom (.numeral whole false) tail := by
    intro tail
    obtain ⟨c, cs, rfl⟩ := List.exists_cons_of_ne_nil hne
    obtain ⟨hc, hcs⟩ := List.forall_mem_cons.1 hwhole
    have hbegin : advance? .between c = some ([], .numeral [c] false) := by
      rw [advance?, begin?, (Code.continuesNumeral_of_isDigit hc).1, hc]
      rfl
    rw [List.cons_append, lexFrom_of_quiet hbegin, lexFrom_digits hcs _ _ _ (.inr rfl),
      List.singleton_append]
  rw [pointed]
  split
  · exact hstart rest
  · have hpoint : advance? (.numeral whole false) '.' =
        some ([], .numeral (whole ++ ['.']) false) := rfl
    rw [List.append_assoc, hstart, List.cons_append, lexFrom_of_quiet hpoint,
      lexFrom_digits hfraction _ _ _ (.inr rfl), List.append_assoc, List.singleton_append]

/-- The digits of a code are read to the number that they are (`digitsFrom?`). -/
private theorem lexFrom_code (quote : Char) (read : List Char) {digits : List Char} {value n : Nat}
    (hne : digits ≠ []) (hn : digitsFrom? 16 value digits = some n) (hvalid : n.isValidChar)
    (rest : List Char) :
    lexFrom (.code quote read digits.length value) (digits ++ rest) =
      lexFrom (.text quote (read ++ [Char.ofNat n])) rest := by
  induction digits generalizing value with
  | nil => exact absurd rfl hne
  | cons c cs ih =>
    rw [digitsFrom?] at hn
    obtain ⟨digit, hdigit, hcs⟩ := Option.bind_eq_some_iff.1 hn
    -- the last digit completes the character
    cases cs with
    | nil =>
      cases hcs
      exact lexFrom_of_quiet (by simp [advance?, hdigit, hvalid]) rest
    | cons d ds =>
      have hquiet : advance? (.code quote read (c :: d :: ds).length value) c =
          some ([], .code quote read (d :: ds).length (value * 16 + digit)) := by
        simp [advance?, hdigit]
      rw [List.cons_append, lexFrom_of_quiet hquiet]
      exact ih (by simp) hcs

/-! ## Strings -/

/-- Whether a character is one of the two quotation marks. -/
def IsQuote (quote : Char) : Prop := quote = '"' ∨ quote = '\''

section

variable {quote : Char} (hquote : IsQuote quote) (read rest : List Char)

include hquote

/-- A backslash goes on with an escape. -/
private theorem lexFrom_backslash :
    lexFrom (.text quote read) ('\\' :: rest) = lexFrom (.escape quote read) rest := by
  refine lexFrom_of_quiet ?_ rest
  obtain rfl | rfl := hquote <;> rfl

/-- An escape (`escape`) of one letter or mark is read as the character that it stands for. -/
private theorem lexFrom_escape {letter c : Char}
    (h : advance? (.escape quote read) letter = some ([], .text quote (read ++ [c]))) :
    lexFrom (.text quote read) ('\\' :: letter :: rest) =
      lexFrom (.text quote (read ++ [c])) rest := by
  rw [lexFrom_backslash hquote, lexFrom_of_quiet h]

/-- A character is read from its code (`hexDigits`). -/
private theorem lexFrom_hexDigits {letter c : Char} {width : Nat}
    (hletter : codeLength? letter = some width) (hwidth : 0 < width) (hc : c.toNat < 16 ^ width) :
    lexFrom (.text quote read) ('\\' :: letter :: hexDigits width c.toNat ++ rest) =
      lexFrom (.text quote (read ++ [c])) rest := by
  obtain ⟨hlength, hdigits⟩ := hexDigits_spec hwidth hc
  have hescape : advance? (.escape quote read) letter = some ([], .code quote read width 0) := by
    rw [advance?, hletter]
  have hcode := lexFrom_code quote read (List.length_pos_iff.1 (by rwa [hlength])) hdigits c.valid
    rest
  rw [hlength, Char.ofNat_toNat] at hcode
  rw [List.cons_append, List.cons_append, lexFrom_backslash hquote, lexFrom_of_quiet hescape, hcode]

/-- A character of a string is read back from the way it is displayed (`quotedChar`). -/
private theorem lexFrom_quotedChar (c : Char) :
    lexFrom (.text quote read) (Value.quotedChar quote c ++ rest) =
      lexFrom (.text quote (read ++ [c])) rest := by
  unfold Value.quotedChar
  split
  · next hself =>
    -- a quotation mark and the backslash stand for themselves behind a backslash
    have hescape : advance? (.escape quote read) c = some ([], .text quote (read ++ [c])) := by
      simp only [Bool.or_eq_true, decide_eq_true_eq] at hself
      rcases hself with rfl | rfl
      · obtain rfl | rfl := hquote <;> rfl
      · rfl
    exact lexFrom_escape hquote read rest hescape
  · next hself =>
    obtain ⟨hend, hslash⟩ : c ≠ quote ∧ c ≠ '\\' := by simpa using hself
    split
    · next hc =>
      subst hc
      exact lexFrom_escape hquote read rest rfl
    · next hfeed =>
      split
      · next hc =>
        subst hc
        exact lexFrom_escape hquote read rest rfl
      · next hreturn =>
        split
        · next hc =>
          subst hc
          exact lexFrom_escape hquote read rest rfl
        · split
          · next hprintable =>
            have hnull : c ≠ '\x00' := by
              rintro rfl
              revert hprintable
              decide
            have hbreaks : Code.breaksText c = false := by
              simp [Code.breaksText, hfeed, hreturn, hnull]
            exact lexFrom_of_quiet (by simp [advance?, hend, hslash, hbreaks]) rest
          · split
            · next hsmall => exact lexFrom_hexDigits hquote read rest rfl (by decide) hsmall
            · split
              · next hmiddle => exact lexFrom_hexDigits hquote read rest rfl (by decide) hmiddle
              · have hlarge : c.toNat < 16 ^ 8 := c.val.toNat_lt
                exact lexFrom_hexDigits hquote read rest rfl (by decide) hlarge

end

/-! ## Texts and their lexemes -/

/-- Whether characters are some lexemes where what follows them does not go on with the last. -/
def Lexes (s : List Char) (lexemes : List Lexeme) : Prop :=
  ∀ rest, (∀ c ∈ rest.head?, Code.continuesNumeral c = false) →
    lexFrom .between (s ++ rest) = (lexFrom .between rest).map (lexemes ++ ·)

variable {s t : List Char} {ls ms : List Lexeme}

/-- The lexemes of a whole text. -/
theorem Lexes.lex_eq {s : String} (h : Lexes s.toList ls) : lex s = some ls := by
  have hs := h [] (by simp)
  simpa [lex, lexFrom, finish?] using hs

/-- Nothing is no lexeme. -/
theorem Lexes.nil : Lexes [] [] := fun rest _ => by simp

/-- A blank (`blank`) in front of lexemes adds none. -/
theorem Lexes.blank (h : Lexes s ls) : Lexes (' ' :: s) ls := fun rest hrest =>
  (lexFrom_of_quiet rfl (s ++ rest)).trans (h rest hrest)

/-- A mark in front of lexemes is one more. -/
theorem Lexes.mark {c : Char} (hc : c ∈ marks) (h : Lexes s ls) :
    Lexes (c :: s) (.mark c :: ls) := by
  intro rest hrest
  rw [List.cons_append, lexFrom_mark hc, h rest hrest, Option.map_map]
  rfl

/-- A mark ends what stands before it. -/
theorem Lexes.append_mark {c : Char} (hc : c ∈ marks) (hs : Lexes s ls) (ht : Lexes t ms) :
    Lexes (s ++ c :: t) (ls ++ .mark c :: ms) := by
  have hends : ∀ c ∈ marks, Code.continuesNumeral c = false := by
    simp only [marks, List.forall_mem_cons, List.not_mem_nil, false_implies, implies_true]
    decide
  intro rest hrest
  rw [List.append_assoc, hs (c :: t ++ rest) (by simpa using hends c hc), ht.mark hc rest hrest,
    Option.map_map]
  simp [Function.comp_def]

/-- A word (`isIdentifier`) is one lexeme. -/
theorem lexes_word (word : String) (h : isIdentifier word = true) :
    Lexes word.toList [.word word] := by
  intro rest hrest
  rw [isIdentifier] at h
  -- a word has a first character, which opens it
  obtain ⟨c, cs, hword⟩ : ∃ c cs, word.toList = c :: cs := by
    refine List.exists_cons_of_ne_nil fun hnil => ?_
    rw [hnil] at h
    cases h
  rw [hword, isIdentifierChars, Bool.and_eq_true, List.all_eq_true] at h
  have hbegin : advance? .between c = some ([], .word [c]) := by
    rw [advance?, begin?, if_pos h.1]
  rw [hword, List.cons_append, lexFrom_of_quiet hbegin, lexFrom_word h.2 hrest,
    List.singleton_append, ← hword, String.ofList_toList]
  rfl

/-- Digits (`AreDigits`) are one numeral. -/
theorem lexes_digits {digits : List Char} (hdigits : AreDigits digits) (hne : digits ≠ []) :
    Lexes digits [.numeral digits] := by
  intro rest hrest
  have hnone : AreDigits [] := nofun
  have hstart := lexFrom_pointed hdigits hnone hne rest
  rw [pointed, if_pos List.isEmpty_nil] at hstart
  rw [hstart, lexFrom_numeral_end hrest]
  rfl

/-- A numeral (`IsNumeral`) is one lexeme. -/
theorem lexes_numeral (h : IsNumeral s) : Lexes s [.numeral s] := by
  intro rest hrest
  cases h with
  | positional hwhole hfraction some behind =>
    rw [lexFrom_pointed hwhole hfraction some, lexFrom_numeral_end hrest]
    rfl
  -- with an exponent the letter and its sign come between the digits
  | @scientific whole fraction exponent minus hwhole hfraction hexponent some =>
    have hletter : ∀ read, advance? (.numeral read false) 'e' =
        Option.some ([], .numeral (read ++ ['e']) true) := fun read => rfl
    have hsign : ∀ read, advance? (.numeral read true) (if minus then '-' else '+') =
        Option.some ([], .numeral (read ++ [if minus then '-' else '+']) false) := by
      cases minus <;> exact fun read => rfl
    rw [List.append_assoc, lexFrom_pointed hwhole hfraction some, signedExponent, List.cons_append,
      lexFrom_of_quiet (hletter _), List.cons_append, lexFrom_of_quiet (hsign _),
      lexFrom_digits hexponent _ _ _ (.inr rfl), lexFrom_numeral_end hrest]
    simp

/-- A string (`IsQuote`) is one lexeme if each character is read back from the way it is written. -/
private theorem lexes_text {quote : Char} (hquote : IsQuote quote) {written : Char → List Char}
    (hwritten : ∀ c read rest, lexFrom (.text quote read) (written c ++ rest) =
      lexFrom (.text quote (read ++ [c])) rest) (s : String) :
    Lexes (quote :: s.toList.flatMap written ++ [quote]) [.text s] := by
  intro rest _
  have hopen : advance? .between quote = some ([], .text quote []) := by
    obtain rfl | rfl := hquote <;> rfl
  -- what has been read is generalised, for it grows with each character
  have hclose : ∀ (cs read : List Char),
      lexFrom (.text quote read) (cs.flatMap written ++ quote :: rest) =
        (lexFrom .between rest).map (.text (String.ofList (read ++ cs)) :: ·) := by
    intro cs
    induction cs with
    | nil =>
      intro read
      simp [lexFrom, advance?]
    | cons c cs ih =>
      intro read
      rw [List.flatMap_cons, List.append_assoc, hwritten, ih, List.append_assoc,
        List.singleton_append]
  rw [List.append_assoc, List.cons_append, lexFrom_of_quiet hopen, List.singleton_append, hclose,
    List.nil_append, String.ofList_toList]
  rfl

/-- A string that is displayed (`quoted`) is one lexeme. -/
theorem lexes_quoted (s : String) : Lexes (Value.quoted s).toList [.text s] := by
  have hquote : IsQuote (Value.quoteFor s.toList) := by
    rw [Value.quoteFor]
    split
    · exact .inl rfl
    · exact .inr rfl
  rw [Value.quoted, String.toList_ofList]
  exact lexes_text hquote (fun c read rest => lexFrom_quotedChar hquote read rest c) s

/-- A character of a literal is read back from the way it is written (`escapeChar`). -/
theorem lexFrom_escapeChar (c : Char) (read rest : List Char) :
    lexFrom (.text '"' read) (Code.escapeChar c ++ rest) =
      lexFrom (.text '"' (read ++ [c])) rest := by
  have hwritten := Code.escaped_escapeChar c
  generalize Code.escapeChar c = written at hwritten ⊢
  -- one case for each way of writing a character
  cases hwritten with
  | short h =>
    have hall : ∀ p ∈ Code.shortEscapes, advance? (.escape '"' read) p.1 =
        some ([], .text '"' (read ++ [p.2])) := by
      simp only [Code.shortEscapes, List.forall_mem_cons]
      exact ⟨rfl, rfl, rfl, rfl, rfl, nofun⟩
    exact (lexFrom_backslash (.inl rfl) read _).trans (lexFrom_of_quiet (hall _ h) rest)
  | code h =>
    have hsmall := Code.toNat_lt_of_isControl h
    apply lexFrom_hexDigits (.inl rfl) read rest rfl (by decide)
    omega
  | itself hquote hslash hcontrol =>
    have hbreaks := Code.breaksText_of_not_isControl hcontrol
    exact lexFrom_of_quiet (by simp [advance?, hquote, hslash, hbreaks]) rest

/-- A string literal (`stringLiteral`) is one lexeme. -/
theorem lexes_stringLiteral (s : String) : Lexes (Code.stringLiteral s).toList [.text s] := by
  have hlexes := lexes_text (.inl rfl) lexFrom_escapeChar s
  simpa [Code.stringLiteral, Code.escape, Code.escapeChars] using hlexes

end Parlance.Literal
