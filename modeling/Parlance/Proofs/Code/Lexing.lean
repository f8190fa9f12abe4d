import Parlance.Proofs.Code.Escapes
import Parlance.Text.Identifier
import Parlance.Text.Pieces

/-!
# Lexemes of the generated module's language

An expression is a sequence of names, numbers, strings in double quotes, marks and line ends.
`lex` cuts a text into them, character by character. It knows the escapes, the numerals and the
marks that expressions of the generated module are made of, and refuses any other.

## Key results

- `closed_stringLiteral`: the literal of a text is one lexeme, which holds exactly the text
- `lexes_decimalDigits`: the digits of a number are one lexeme
- `lexes_path`: a dotted path is its names with a mark between each two
- `Closed.append`, `Closed.append_lexes`, `Lexes.append_closed`: texts that are put together
-/

namespace Parlance.Code

open Parlance.Number Parlance.Text

/-! ## Cutting a text into lexemes -/

/-- A bracket, an operator or a separator. -/
inductive Mark where
  | plus
  | dot
  | comma
  | colon
  | equals
  | openRound
  | closeRound
  | openCurly
  | closeCurly
deriving DecidableEq, Repr

/-- The mark of a character. -/
def Mark.ofChar? : Char → Option Mark
  | '+' => some .plus
  | '.' => some .dot
  | ',' => some .comma
  | ':' => some .colon
  | '=' => some .equals
  | '(' => some .openRound
  | ')' => some .closeRound
  | '\x7b' => some .openCurly
  | '\x7d' => some .closeCurly
  | _ => none

/-- A lexeme. -/
inductive Lexeme where
  /-- A name or a keyword. -/
  | name (s : String)
  | number (n : Nat)
  /-- A string, with its escapes resolved. -/
  | text (s : String)
  | mark (m : Mark)
  | newline
deriving DecidableEq, Repr

/-- What a character goes on with, and what of it has been read. -/
inductive Mode where
  | between
  | word (read : List Char)
  | digits (read : List Char)
  /-- Inside a string. -/
  | text (read : List Char)
  /-- After a backslash in a string. -/
  | escape (read : List Char)
  /-- In the two hexadecimal digits of an escape. -/
  | code (read : List Char) (high : Option Nat)
deriving DecidableEq, Repr

/-- The number of a numeral, which has no leading zero and no more digits than are read. -/
def numeral? (digits : List Char) : Option Nat :=
  if digitLimit < digits.length ∨ (1 < digits.length ∧ digits.head? = some '0') then none
  else ofDigits? digits

/-- The character of an escape that is a letter or a mark. -/
def simpleEscape? : Char → Option Char
  | '\\' => some '\\'
  | '"' => some '"'
  | 'n' => some '\n'
  | 'r' => some '\r'
  | 't' => some '\t'
  | _ => none

/-- Whether a character cannot stand in a string as it is. -/
def breaksText (c : Char) : Bool := c == '\n' || c == '\r' || c == '\x00'

/-- Whether a character after digits belongs to their numeral, if only to spoil it. -/
def continuesNumeral (c : Char) : Bool := isIdentifierPart c || c == '.'

/-- What a character begins. -/
def begin? (c : Char) : Option (List Lexeme × Mode) :=
  if isIdentifierStart c then some ([], .word [c])
  else if c.isDigit then some ([], .digits [c])
  else if c = '"' then some ([], .text [])
  else if c = '\n' then some ([.newline], .between)
  else if c = ' ' then some ([], .between)
  else (Mark.ofChar? c).map fun m => ([.mark m], .between)

/-- The lexemes that are complete after a character, and what the next one goes on with. -/
def advance? : Mode → Char → Option (List Lexeme × Mode)
  | .between, c => begin? c
  | .word read, c =>
    if isIdentifierPart c then some ([], .word (read ++ [c]))
    else (begin? c).map fun s => (.name (String.ofList read) :: s.1, s.2)
  | .digits read, c =>
    if continuesNumeral c then some ([], .digits (read ++ [c]))
    else (numeral? read).bind fun n => (begin? c).map fun s => (.number n :: s.1, s.2)
  | .text read, c =>
    if c = '"' then some ([.text (String.ofList read)], .between)
    else if c = '\\' then some ([], .escape read)
    else if breaksText c then none
    else some ([], .text (read ++ [c]))
  | .escape read, c =>
    if c = 'x' then some ([], .code read none)
    else (simpleEscape? c).map fun d => ([], .text (read ++ [d]))
  | .code read none, c => (digitValue? 16 c).map fun high => ([], .code read (some high))
  | .code read (some high), c =>
    (digitValue? 16 c).map fun low => ([], .text (read ++ [Char.ofNat (high * 16 + low)]))

/-- The lexemes that the end of the text completes. -/
def finish? : Mode → Option (List Lexeme)
  | .between => some []
  | .word read => some [.name (String.ofList read)]
  | .digits read => (numeral? read).map fun n => [.number n]
  | _ => none

/-- The lexemes of the rest of a text. -/
def lexFrom : Mode → List Char → Option (List Lexeme)
  | mode, [] => finish? mode
  | mode, c :: rest => (advance? mode c).bind fun s => (lexFrom s.2 rest).map (s.1 ++ ·)

/-- The lexemes of a text. -/
def lex (s : String) : Option (List Lexeme) := lexFrom .between s.toList

/-! ## Single lexemes -/

/-- A character that completes no lexeme (`advance?`) changes only what is gone on with. -/
theorem lexFrom_of_quiet {mode next : Mode} {c : Char} (h : advance? mode c = some ([], next))
    (rest : List Char) : lexFrom mode (c :: rest) = lexFrom next rest := by
  rw [lexFrom, h]
  simp only [Option.bind_some, List.nil_append]
  exact Option.map_id'

/-- A mark (`Mark.ofChar?`) is a lexeme whatever follows. -/
theorem lexFrom_mark {c : Char} {m : Mark} (h : Mark.ofChar? c = some m) (rest : List Char) :
    lexFrom .between (c :: rest) = (lexFrom .between rest).map (.mark m :: ·) := by
  have hbegin : begin? c = some ([.mark m], .between) := by
    unfold Mark.ofChar? at h
    split at h <;> cases h <;> rfl
  rw [lexFrom, advance?, hbegin]
  rfl

/-- Blanks between lexemes are passed over. -/
private theorem lexFrom_blank (rest : List Char) :
    lexFrom .between (' ' :: rest) = lexFrom .between rest :=
  lexFrom_of_quiet rfl rest

/-- A line feed between lexemes is one itself. -/
private theorem lexFrom_newline (rest : List Char) :
    lexFrom .between ('\n' :: rest) = (lexFrom .between rest).map (.newline :: ·) := by
  rw [lexFrom]
  rfl

/-- A word ends where a character follows that cannot stand in it (`isIdentifierPart`). -/
theorem lexFrom_word {word rest : List Char} (hword : ∀ c ∈ word, isIdentifierPart c = true)
    (hrest : ∀ c ∈ rest.head?, isIdentifierPart c = false) (read : List Char) :
    lexFrom (.word read) (word ++ rest) =
      (lexFrom .between rest).map (.name (String.ofList (read ++ word)) :: ·) := by
  induction word generalizing read with
  | nil =>
    cases rest with
    | nil => simp [lexFrom, finish?]
    -- the character that ends the word may begin a lexeme or be none at all
    | cons c cs =>
      have hc : isIdentifierPart c = false := hrest c rfl
      cases hbegin : begin? c <;>
        simp [lexFrom, advance?, hc, hbegin, Function.comp_def]
  | cons c cs ih =>
    have hc := hword c List.mem_cons_self
    rw [List.cons_append, lexFrom_of_quiet (by rw [advance?, if_pos hc]),
      ih fun d hd => hword d (List.mem_cons_of_mem _ hd), List.append_assoc, List.singleton_append]

/-- Digits end where a character follows that is not part of their numeral (`continuesNumeral`). -/
theorem lexFrom_digits {digits rest : List Char} {read : List Char} {n : Nat}
    (hdigits : ∀ c ∈ digits, continuesNumeral c = true)
    (hrest : ∀ c ∈ rest.head?, continuesNumeral c = false)
    (hn : numeral? (read ++ digits) = some n) :
    lexFrom (.digits read) (digits ++ rest) = (lexFrom .between rest).map (.number n :: ·) := by
  induction digits generalizing read with
  | nil =>
    rw [List.append_nil] at hn
    cases rest with
    | nil => simp [lexFrom, finish?, hn]
    | cons c cs =>
      have hc : continuesNumeral c = false := hrest c rfl
      cases hbegin : begin? c <;>
        -- whatever begins behind the digits, they are finished first
        simp [lexFrom, advance?, hc, hn, hbegin, Function.comp_def]
  | cons c cs ih =>
    have hc := hdigits c List.mem_cons_self
    rw [List.cons_append, lexFrom_of_quiet (by rw [advance?, if_pos hc])]
    exact ih (fun d hd => hdigits d (List.mem_cons_of_mem _ hd)) (by simpa using hn)

/-! ## Escapes -/

/-- The two hexadecimal digits (`hexDigits`) of a small number are those of its sixteens and of its
ones. -/
theorem hexDigits_two :
    ∀ n < 0xA0, hexDigits 2 n = [Nat.digitChar (n / 16), Nat.digitChar (n % 16)] := by
  decide +kernel

/-- The letter of a short escape (`shortEscapes`) is read as its character. -/
private theorem simpleEscape?_of_mem_shortEscapes {letter c : Char} (h : (letter, c) ∈ shortEscapes)
    : letter ≠ 'x' ∧ simpleEscape? letter = some c := by
  have hall : ∀ p ∈ shortEscapes, p.1 ≠ 'x' ∧ simpleEscape? p.1 = some p.2 := by decide
  exact hall (letter, c) h

/-- What cannot stand in a string as it is, is a control (`isControl`) character. -/
theorem breaksText_of_not_isControl {c : Char} (h : isControl c = false) :
    breaksText c = false := by
  have hfeed := ne_of_isControl (d := '\n') rfl h
  have hreturn := ne_of_isControl (d := '\r') rfl h
  have hnull := ne_of_isControl (d := '\x00') rfl h
  simp [breaksText, hfeed, hreturn, hnull]

/-- A character of a string is read back from the way it is written (`escapeChar`). -/
theorem lexFrom_escapeChar (read : List Char) (c : Char) (rest : List Char) :
    lexFrom (.text read) (escapeChar c ++ rest) = lexFrom (.text (read ++ [c])) rest := by
  have hslash : advance? (.text read) '\\' = some ([], .escape read) := rfl
  have hwritten := escaped_escapeChar c
  generalize escapeChar c = written at hwritten ⊢
  -- one case for each way of writing a character
  cases hwritten with
  | @short letter h =>
    obtain ⟨hx, hsimple⟩ := simpleEscape?_of_mem_shortEscapes h
    have hletter : advance? (.escape read) letter = some ([], .text (read ++ [c])) := by
      rw [advance?, if_neg hx, hsimple]
      rfl
    rw [List.cons_append, List.cons_append, List.nil_append, lexFrom_of_quiet hslash,
      lexFrom_of_quiet hletter]
  | code h =>
    have hlt := toNat_lt_of_isControl h
    have hhigh := digitValue?_digitChar (c.toNat / 16) (by omega)
    have hlow := digitValue?_digitChar (c.toNat % 16) (by omega)
    have hcode : Char.ofNat (c.toNat / 16 * 16 + c.toNat % 16) = c := by
      rw [Nat.div_add_mod', Char.ofNat_toNat]
    have hletter : advance? (.escape read) 'x' = some ([], .code read none) := rfl
    -- the two digits of the code, one after the other
    have hfirst : advance? (.code read none) (Nat.digitChar (c.toNat / 16)) =
        some ([], .code read (some (c.toNat / 16))) := by rw [advance?, hhigh]; rfl
    have hsecond : advance? (.code read (some (c.toNat / 16))) (Nat.digitChar (c.toNat % 16)) =
        some ([], .text (read ++ [Char.ofNat (c.toNat / 16 * 16 + c.toNat % 16)])) := by
      rw [advance?, hlow]; rfl
    rw [hexDigits_two _ hlt, List.cons_append, List.cons_append, List.cons_append,
      List.cons_append, List.nil_append, lexFrom_of_quiet hslash, lexFrom_of_quiet hletter,
      lexFrom_of_quiet hfirst, lexFrom_of_quiet hsecond, hcode]
  | itself hquote hbackslash hcontrol =>
    have hitself : advance? (.text read) c = some ([], .text (read ++ [c])) := by
      rw [advance?, if_neg hquote, if_neg hbackslash, breaksText_of_not_isControl hcontrol]
      rfl
    exact lexFrom_of_quiet hitself rest

/-- A string ends at its closing quote and holds exactly what was written (`escapeChars`). -/
private theorem lexFrom_escapeChars (s rest : List Char) (read : List Char) :
    lexFrom (.text read) (escapeChars s ++ '"' :: rest) =
      (lexFrom .between rest).map (.text (String.ofList (read ++ s)) :: ·) := by
  induction s generalizing read with
  | nil =>
    rw [List.append_nil]
    rfl
  | cons c s ih =>
    rw [escapeChars, List.flatMap_cons, List.append_assoc, lexFrom_escapeChar, ← escapeChars, ih,
      List.append_assoc, List.singleton_append]

/-- A digit begins no name, but goes on with names and numerals (`continuesNumeral`). -/
theorem continuesNumeral_of_isDigit {c : Char} (h : c.isDigit = true) :
    isIdentifierStart c = false ∧ continuesNumeral c = true := by
  have hrange : 48 ≤ c.toNat ∧ c.toNat ≤ 57 := by
    simpa [Char.isDigit, UInt32.le_iff_toNat_le] using h
  -- the digits are ten consecutive characters, which are tried one by one
  have hdigits : ∀ n < 58, 48 ≤ n →
      isIdentifierStart (Char.ofNat n) = false ∧ continuesNumeral (Char.ofNat n) = true := by
    decide
  have hc := hdigits c.toNat (by omega) hrange.1
  rwa [Char.ofNat_toNat] at hc

/-! ## Texts and their lexemes -/

/-- Whether a text is some lexemes, whatever follows it. -/
def Closed (s : String) (lexemes : List Lexeme) : Prop :=
  ∀ rest, lexFrom .between (s.toList ++ rest) = (lexFrom .between rest).map (lexemes ++ ·)

/-- Whether a text is some lexemes where what follows it does not go on with its last. -/
def Lexes (s : String) (lexemes : List Lexeme) : Prop :=
  ∀ rest, (∀ c ∈ rest.head?, continuesNumeral c = false) →
    lexFrom .between (s.toList ++ rest) = (lexFrom .between rest).map (lexemes ++ ·)

/-- Whether a text goes on with no name or number before it. -/
def StandsApart (s : String) : Prop := ∃ c, s.toList.head? = some c ∧ continuesNumeral c = false

variable {s t : String} {ls ms : List Lexeme}

/-- What is closed (`Closed`) may also be followed by what stands apart. -/
theorem Closed.lexes (h : Closed s ls) : Lexes s ls := fun rest _ => h rest

/-- The lexemes of a whole text. -/
theorem Lexes.lex_eq (h : Lexes s ls) : lex s = some ls := by
  have hs := h [] (by simp)
  simpa [lex, lexFrom, finish?] using hs

/-- Nothing is no lexeme. -/
theorem closed_empty : Closed "" [] := fun rest => by simp

/-- Closed (`Closed`) texts in a row are closed. -/
theorem Closed.append (hs : Closed s ls) (ht : Closed t ms) : Closed (s ++ t) (ls ++ ms) := by
  intro rest
  rw [String.toList_append, List.append_assoc, hs, ht, Option.map_map]
  simp [Function.comp_def]

/-- Behind a closed (`Closed`) text lexemes go on as they are. -/
theorem Closed.append_lexes (hs : Closed s ls) (ht : Lexes t ms) : Lexes (s ++ t) (ls ++ ms) := by
  intro rest hrest
  rw [String.toList_append, List.append_assoc, hs, ht rest hrest, Option.map_map]
  simp [Function.comp_def]

/-- What `StandsApart` closes the text before it. -/
theorem Lexes.append_closed (hs : Lexes s ls) (ht : Closed t ms) (h : StandsApart t) :
    Closed (s ++ t) (ls ++ ms) := by
  intro rest
  obtain ⟨c, hhead, hc⟩ := h
  rw [String.toList_append, List.append_assoc, hs _ (by simp [List.head?_append, hhead, hc]), ht,
    Option.map_map]
  simp [Function.comp_def]

/-- The lexeme of a character that is one by itself; a blank is none. -/
def markLexeme? (c : Char) : Option Lexeme :=
  if c = '\n' then some .newline else (Mark.ofChar? c).map .mark

/-- Whether a text is made of marks, blanks and line ends alone. -/
def isMarks (s : String) : Bool := s.toList.all fun c => c == ' ' || (markLexeme? c).isSome

/-- Marks, blanks and line ends (`isMarks`) are lexemes one by one. -/
theorem closed_marks (h : isMarks s = true) : Closed s (s.toList.filterMap markLexeme?) := by
  rw [isMarks, List.all_eq_true] at h
  -- only the characters matter here, and the string cannot be taken apart otherwise
  unfold Closed
  revert h
  generalize s.toList = chars
  intro h rest
  induction chars with
  | nil => simp
  | cons c cs ih =>
    obtain ⟨hc, hcs⟩ := List.forall_mem_cons.1 h
    have hrest := ih hcs
    by_cases hfeed : c = '\n'
    · subst hfeed
      rw [List.cons_append, lexFrom_newline, hrest, Option.map_map]
      rfl
    · rcases Bool.or_eq_true_iff.1 hc with hc | hc
      · obtain rfl : c = ' ' := by simpa using hc
        rw [List.cons_append, lexFrom_blank, hrest]
        rfl
      · obtain ⟨lexeme, hlexeme⟩ := Option.isSome_iff_exists.1 hc
        have hmark := hlexeme
        rw [markLexeme?, if_neg hfeed] at hmark
        obtain ⟨m, hm, rfl⟩ := Option.map_eq_some_iff.1 hmark
        rw [List.cons_append, lexFrom_mark hm, hrest, Option.map_map, List.filterMap_cons, hlexeme]
        rfl

/-- The literal of a text (`stringLiteral`) is one lexeme, which holds exactly the text. -/
theorem closed_stringLiteral (s : String) : Closed (stringLiteral s) [.text s] := by
  intro rest
  have hopen : lexFrom .between ('"' :: (escapeChars s.toList ++ '"' :: rest)) =
      lexFrom (.text []) (escapeChars s.toList ++ '"' :: rest) := lexFrom_of_quiet rfl _
  simpa [stringLiteral, escape, lexFrom_escapeChars] using hopen

/-- The digits of a number, if they are not too many, are its numeral (`numeral?`). -/
theorem numeral?_decimalDigits {n : Nat} (h : (decimalDigits n).length ≤ digitLimit) :
    numeral? (decimalDigits n) = some n := by
  -- zero has a single digit, and no other number begins with a zero
  have hlead : ¬ (1 < (decimalDigits n).length ∧ (decimalDigits n).head? = some '0') := by
    rintro ⟨hlong, hzero⟩
    by_cases hn : 0 < n
    · exact head?_decimalDigits hn hzero
    · obtain rfl : n = 0 := by omega
      exact absurd hlong (by decide)
  rw [numeral?, if_neg (not_or.2 ⟨Nat.not_lt.2 h, hlead⟩), ofDigits?_decimalDigits]

/-- The digits of a number (`decimalDigits`), if they are not too many, are one lexeme. -/
theorem lexes_decimalDigits {n : Nat} (h : (decimalDigits n).length ≤ digitLimit) :
    Lexes (String.ofList (decimalDigits n)) [.number n] := by
  intro rest hrest
  have hnumeral := numeral?_decimalDigits h
  cases hdigits : decimalDigits n with
  | nil => exact absurd hdigits (decimalDigits_ne_nil n)
  | cons c cs =>
    have hall : ∀ d ∈ c :: cs, d.isDigit = true := by
      rw [← hdigits]
      exact fun d hd => isDigit_of_mem_decimalDigits hd
    have hc := hall c List.mem_cons_self
    -- the first digit begins the numeral, and the others go on with it
    have hbegin : begin? c = some ([], .digits [c]) := by
      rw [begin?, if_neg (by simp [(continuesNumeral_of_isDigit hc).1]), if_pos hc]
    rw [hdigits] at hnumeral
    rw [String.toList_ofList, List.cons_append, lexFrom_of_quiet (by rw [advance?, hbegin]),
      lexFrom_digits
        (fun d hd => (continuesNumeral_of_isDigit (hall d (List.mem_cons_of_mem _ hd))).2)
        hrest hnumeral]
    rfl

/-! ## Names and dotted paths -/

/-- The lexemes of names with a dot between each two. -/
def pathLexemes : List String → List Lexeme
  | [] => []
  | name :: fields => .name name :: fields.flatMap fun field => [.mark .dot, .name field]

/-- A name is a lexeme where no character follows that could stand in it (`isIdentifierPart`). -/
private theorem lexFrom_identifier {name : String} (hname : isIdentifier name = true)
    {rest : List Char} (hrest : ∀ c ∈ rest.head?, isIdentifierPart c = false) :
    lexFrom .between (name.toList ++ rest) = (lexFrom .between rest).map (.name name :: ·) := by
  rw [isIdentifier] at hname
  cases hchars : name.toList with
  | nil => rw [hchars] at hname; cases hname
  | cons c cs =>
    rw [hchars, isIdentifierChars, Bool.and_eq_true, List.all_eq_true] at hname
    have hbegin : begin? c = some ([], .word [c]) := by rw [begin?, if_pos hname.1]
    rw [List.cons_append, lexFrom_of_quiet (by rw [advance?, hbegin]),
      lexFrom_word hname.2 hrest, List.singleton_append, ← hchars, String.ofList_toList]

/-- Names with a dot between each two are lexemes where no character follows that could stand in
the last. -/
private theorem lexFrom_names {names : List String} (hne : names ≠ [])
    (hnames : ∀ name ∈ names, isIdentifier name = true) {rest : List Char}
    (hrest : ∀ c ∈ rest.head?, isIdentifierPart c = false) :
    lexFrom .between (joinPieces '.' (names.map String.toList) ++ rest) =
      (lexFrom .between rest).map (pathLexemes names ++ ·) := by
  induction names with
  | nil => exact absurd rfl hne
  | cons name more ih =>
    have hname := hnames name List.mem_cons_self
    cases more with
    | nil =>
      rw [List.map_cons, List.map_nil, joinPieces, lexFrom_identifier hname hrest]
      rfl
    | cons next more =>
      have hmore := ih (by simp) fun n hn => hnames n (List.mem_cons_of_mem _ hn)
      rw [List.map_cons] at hmore
      -- the dot cannot stand in a name, so it ends the one before it
      have hdot : isIdentifierPart '.' = false := by decide
      rw [List.map_cons, List.map_cons, joinPieces, List.append_assoc, List.cons_append,
        lexFrom_identifier hname (by simpa using hdot), lexFrom_mark (m := .dot) rfl, hmore,
        Option.map_map, Option.map_map]
      rfl

/-- A dotted path (`pathLexemes`) is its names with a mark between each two. -/
theorem lexes_path {path : String} (h : ∀ name ∈ cutAt '.' path, isIdentifier name = true) :
    Lexes path (pathLexemes (cutAt '.' path)) := by
  intro rest hrest
  have hjoin : joinPieces '.' ((cutAt '.' path).map String.toList) = path.toList := by
    simpa [cutAt, Function.comp_def] using joinPieces_pieces '.' path.toList
  rw [← hjoin]
  refine lexFrom_names (by simp [cutAt, pieces_ne_nil]) h fun c hc => ?_
  have hends := hrest c hc
  simp only [continuesNumeral, Bool.or_eq_false_iff] at hends
  exact hends.1

/-- Every character of a name can stand in it (`isIdentifierPart`). -/
theorem isIdentifierPart_of_mem {name : String} (h : isIdentifier name = true) :
    ∀ c ∈ name.toList, isIdentifierPart c = true := by
  rw [isIdentifier] at h
  cases hchars : name.toList with
  | nil => simp
  | cons c cs =>
    rw [hchars, isIdentifierChars, Bool.and_eq_true, List.all_eq_true] at h
    exact List.forall_mem_cons.2 ⟨isIdentifierPart_of_start h.1, h.2⟩

/-- An identifier (`isIdentifier`) is not empty. -/
theorem ne_empty_of_isIdentifier {s : String} (h : isIdentifier s = true) : s ≠ "" := by
  rintro rfl
  cases h

/-- An identifier (`isIdentifier`) goes on with any characters that can stand in one. -/
theorem isIdentifier_append {s more : String} (h : isIdentifier s = true)
    (hmore : ∀ c ∈ more.toList, isIdentifierPart c = true) : isIdentifier (s ++ more) = true := by
  rw [isIdentifier, String.toList_append]
  rw [isIdentifier] at h
  cases hchars : s.toList with
  | nil => simp [hchars, isIdentifierChars] at h
  | cons c rest =>
    rw [hchars, isIdentifierChars, Bool.and_eq_true] at h
    rw [List.cons_append, isIdentifierChars, List.all_append, h.1, h.2, List.all_eq_true.2 hmore]
    rfl

/-- A name is a path of itself alone (`cutAt`). -/
theorem cutAt_identifier {name : String} (h : isIdentifier name = true) :
    cutAt '.' name = [name] := by
  have hdot : '.' ∉ name.toList := fun hmem =>
    absurd (isIdentifierPart_of_mem h _ hmem) (by decide)
  rw [cutAt, pieces_of_not_mem hdot, List.map_singleton, String.ofList_toList]

end Parlance.Code
