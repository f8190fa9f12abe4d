import Parlance.Proofs.Code.Lexing
import Parlance.Proofs.Text.CodePoints

/-!
# Quoted texts of any code points

The program writes literals of characters. Here what it writes is told for any code points: a
surrogate is written by its code, since a source file cannot hold it. `read?` reads a text in single
or triple quotes back: it goes on to the first closing quotes that no backslash stands before, and
resolves the escapes on its way.

## Key results

- `Stands.escapePoints`: an escaped text is read as the text, whatever follows
- `read?_of_stands`: a text in quotes ends at its closing quotes
- `read?_pointsLiteral`: a literal is read as its text and ends where it is meant to
-/

namespace Parlance.Quoted

open Parlance.Number Parlance.Text Parlance.Code

/-! ## Writing -/

/-- A code point as it stands in a literal. -/
def escapePoint (p : CodePoint) : List CodePoint :=
  match p.char? with
  | some c => points (escapeChar c)
  | none => points ('\\' :: 'u' :: hexDigits 4 p.code)

/-- Code points as they stand in a literal. -/
def escapePoints (s : List CodePoint) : List CodePoint := s.flatMap escapePoint

/-- The double quote. -/
def quote : CodePoint := .ofChar '"'

/-- The string literal of some code points. -/
def pointsLiteral (s : List CodePoint) : List CodePoint := quote :: escapePoints s ++ [quote]

/-- A character is escaped as a code point (`escapePoint`) as it is escaped as a character. -/
@[simp]
private theorem escapePoint_ofChar (c : Char) : escapePoint (.ofChar c) = points (escapeChar c) :=
    by
  rw [escapePoint, CodePoint.char?_ofChar]

/-- So is a text of characters. -/
@[simp]
private theorem escapePoints_points (s : List Char) : escapePoints (points s) = points
    (escapeChars s) := by
  induction s with
  | nil => rfl
  | cons c rest ih =>
    show escapePoint (.ofChar c) ++ escapePoints (points rest) =
      points (escapeChar c ++ escapeChars rest)
    rw [ih, escapePoint_ofChar, points_append]

/-- For characters it is the literal that the program writes (`stringLiteral`). -/
private theorem points_stringLiteral (s : String) :
    points (stringLiteral s).toList = pointsLiteral (points s.toList) := by
  simp [stringLiteral, escape, pointsLiteral, quote]

/-! ## Reading -/

/-- The quotes around a text. -/
inductive Quotes where
  | single
  | triple
deriving DecidableEq, Repr

/-- The quotes as they are written. -/
def Quotes.marks : Quotes → List CodePoint
  | single => [quote]
  | triple => [quote, quote, quote]

/-- Whether a character breaks a text off, or is not what it looks like in one. A line feed stands
for itself in triple quotes only. -/
def Quotes.refuses (q : Quotes) (c : Char) : Bool :=
  c == '\r' || c == '\x00' || (q == .single && c == '\n')

/-- Where in a text a character stands. -/
inductive Mode where
  | text
  /-- After a backslash. -/
  | escape
  /-- In the hexadecimal digits of an escape, some of which are still to come. -/
  | code (left value : Nat)
deriving DecidableEq, Repr

/-- What a character adds to the value of a text, and where the next one stands. -/
def advance? (q : Quotes) : Mode → Char → Option (List CodePoint × Mode)
  | .text, c =>
    if c = '\\' then some ([], .escape)
    else if q.refuses c then none
    else some ([.ofChar c], .text)
  | .escape, c =>
    if c = 'x' then some ([], .code 2 0)
    else if c = 'u' then some ([], .code 4 0)
    else (simpleEscape? c).map fun d => ([.ofChar d], .text)
  | .code left value, c =>
    (digitValue? 16 c).bind fun digit =>
      if 1 < left then some ([], .code (left - 1) (value * 16 + digit))
      else if h : value * 16 + digit < 0x110000 then some ([⟨value * 16 + digit, h⟩], .text)
      else none

/-- A result of reading with some code points in front of what was read. -/
def addRead (read : List CodePoint) (r : List CodePoint × List CodePoint) :
    List CodePoint × List CodePoint :=
  (read ++ r.1, r.2)

/-- The value of a text from here on, and what follows its closing quotes. -/
def readFrom (q : Quotes) : Mode → List CodePoint → Option (List CodePoint × List CodePoint)
  | _, [] => none
  | mode, p :: rest =>
    if mode = .text ∧ q.marks <+: p :: rest then some ([], (p :: rest).drop q.marks.length)
    else p.char?.bind fun c => (advance? q mode c).bind fun s =>
      (readFrom q s.2 rest).map (addRead s.1)

/-- The value of a text in quotes, and what follows it. -/
def read? (q : Quotes) (s : List CodePoint) : Option (List CodePoint × List CodePoint) :=
  if q.marks <+: s then readFrom q .text (s.drop q.marks.length) else none

section

variable {q : Quotes} {mode next : Mode}

/-- Closing quotes (`Quotes.marks`) end a text. -/
private theorem readFrom_marks (q : Quotes) (after : List CodePoint) :
    readFrom q .text (q.marks ++ after) = some ([], after) := by
  cases q <;> simp [Quotes.marks, readFrom]

/-- A character that ends no text (`advance?`) goes on with it. -/
private theorem readFrom_cons {c : Char} {read : List CodePoint} (hc : mode ≠ .text ∨ c ≠ '"')
    (h : advance? q mode c = some (read, next)) (rest : List CodePoint) :
    readFrom q mode (.ofChar c :: rest) = (readFrom q next rest).map (addRead read) := by
  have hgoes : ¬ (mode = .text ∧ q.marks <+: .ofChar c :: rest) := by
    rintro ⟨hmode, hmarks⟩
    -- quotes of either sort begin with the double quote
    have hquote : quote = .ofChar c := by
      cases q <;> exact (List.cons_prefix_cons.1 hmarks).1
    exact hc.elim (· hmode) (· (CodePoint.ofChar_inj.1 hquote).symm)
  rw [readFrom, if_neg hgoes, CodePoint.char?_ofChar, Option.bind_some, h, Option.bind_some]

/-- A character that adds nothing (`advance?`) changes only where the next one stands. -/
private theorem readFrom_of_quiet {c : Char} (hc : mode ≠ .text ∨ c ≠ '"')
    (h : advance? q mode c = some ([], next)) (rest : List CodePoint) :
    readFrom q mode (.ofChar c :: rest) = readFrom q next rest := by
  rw [readFrom_cons hc h]
  exact Option.map_id'

/-- The digits of a code are read (`readFrom`) as the code point that they denote. -/
private theorem readFrom_digits {digits : List Char} {value : Nat} {p : CodePoint}
    (hne : digits ≠ []) (h : digitsFrom? 16 value digits = some p.code) (rest : List CodePoint) :
    readFrom q (.code digits.length value) (points digits ++ rest) =
      (readFrom q .text rest).map (addRead [p]) := by
  induction digits generalizing value with
  | nil => exact absurd rfl hne
  | cons c cs ih =>
    rw [digitsFrom?] at h
    obtain ⟨digit, hdigit, hcs⟩ := Option.bind_eq_some_iff.1 h
    cases cs with
    | nil =>
      -- the last digit completes the code point
      have hcode : value * 16 + digit = p.code := by simpa [digitsFrom?, Nat.mul_comm] using hcs
      have hlast : advance? q (.code 1 value) c = some ([p], .text) := by
        simp [advance?, hdigit, hcode, p.code_lt]
      exact readFrom_cons (.inl (by simp)) hlast rest
    | cons d ds =>
      have hquiet : advance? q (.code (c :: d :: ds).length value) c =
          some ([], .code (d :: ds).length (value * 16 + digit)) := by
        simp [advance?, hdigit]
      rw [points_cons, List.cons_append, readFrom_of_quiet (.inl (by simp)) hquiet]
      exact ih (by simp) hcs

end

/-! ## Raw texts and what they stand for -/

/-- Whether reading goes through a raw text and adds a value, whatever follows. -/
def Stands (q : Quotes) (raw value : List CodePoint) : Prop :=
  ∀ rest, readFrom q .text (raw ++ rest) = (readFrom q .text rest).map (addRead value)

variable {q : Quotes} {raw raw' value value' : List CodePoint}

/-- Nothing stands (`Stands`) for nothing. -/
theorem Stands.nil : Stands q [] [] := fun _ => Option.map_id'.symm

/-- Raw texts in a row stand (`Stands`) for their values in a row. -/
theorem Stands.append (h : Stands q raw value) (h' : Stands q raw' value') :
    Stands q (raw ++ raw') (value ++ value') := by
  intro rest
  rw [List.append_assoc, h, h', Option.map_map]
  congr 1
  funext r
  simp [addRead]

/-- A character that is neither quote nor backslash and is not refused stands (`Stands`) for itself.
-/
theorem Stands.itself {c : Char} (hquote : c ≠ '"') (hslash : c ≠ '\\') (h : q.refuses c = false) :
    Stands q [.ofChar c] [.ofChar c] := by
  have hadvance : advance? q .text c = some ([.ofChar c], .text) := by
    simp [advance?, hslash, h]
  exact readFrom_cons (.inr hquote) hadvance

/-- A text stands (`Stands`) for itself if each of its characters does. -/
theorem Stands.self {s : List CodePoint} (h : ∀ p ∈ s, Stands q [p] [p]) : Stands q s s := by
  induction s with
  | nil => exact .nil
  | cons p rest ih =>
    obtain ⟨hp, hrest⟩ := List.forall_mem_cons.1 h
    exact hp.append (ih hrest)

/-- What follows a backslash is read (`readFrom`) as an escape. -/
private theorem readFrom_backslash (rest : List CodePoint) :
    readFrom q .text (.ofChar '\\' :: rest) = readFrom q .escape rest :=
  readFrom_of_quiet (.inr (by decide)) rfl rest

/-- A code point stands (`Stands`) in a text as its code behind a letter that announces its digits.
-/
theorem Stands.code {letter : Char} {width : Nat}
    (hletter : advance? q .escape letter = some ([], .code width 0)) (hwidth : 0 < width)
    {p : CodePoint} (hp : p.code < 16 ^ width) :
    Stands q (points ('\\' :: letter :: hexDigits width p.code)) [p] := by
  obtain ⟨hlength, hdigits⟩ := hexDigits_spec hwidth hp
  intro rest
  have hne : hexDigits width p.code ≠ [] := by
    apply List.ne_nil_of_length_pos
    omega
  have hread := readFrom_digits (q := q) hne hdigits rest
  rw [hlength] at hread
  rw [points_cons, points_cons, List.cons_append, List.cons_append, readFrom_backslash,
    readFrom_of_quiet (.inl (by simp)) hletter, hread]

/-- The letter of a short escape (`shortEscapes`) stands for its character. -/
private theorem advance?_of_mem_shortEscapes {letter c : Char} (h : (letter, c) ∈ shortEscapes) :
    advance? q .escape letter = some ([.ofChar c], .text) := by
  have hall : ∀ p ∈ shortEscapes, advance? q .escape p.1 = some ([.ofChar p.2], .text) := by
    simp only [shortEscapes, List.forall_mem_cons]
    exact ⟨rfl, rfl, rfl, rfl, rfl, nofun⟩
  exact hall _ h

/-- A surrogate (`char?`) has four hexadecimal digits. -/
private theorem code_lt_of_char?_eq_none {p : CodePoint} (h : p.char? = none) : p.code < 16 ^ 4 :=
    by
  have hsurrogate := CodePoint.char?_eq_none_iff.1 h
  simp only [CodePoint.IsSurrogate] at hsurrogate
  omega

/-- A code point is read back (`Stands`) from the way it is written. -/
private theorem stands_escapePoint (p : CodePoint) : Stands q (escapePoint p) [p] := by
  cases hchar : p.char? with
  -- a surrogate is written as its code
  | none =>
    rw [escapePoint, hchar]
    exact .code rfl (by decide) (code_lt_of_char?_eq_none hchar)
  | some c =>
    rw [CodePoint.eq_ofChar_of_char? hchar, escapePoint_ofChar]
    have hwritten := escaped_escapeChar c
    generalize escapeChar c = written at hwritten ⊢
    -- a character is written in one of three ways
    cases hwritten with
    | short h =>
      intro rest
      show readFrom q .text (.ofChar '\\' :: .ofChar _ :: rest) = _
      rw [readFrom_backslash]
      exact readFrom_cons (.inl (by simp)) (advance?_of_mem_shortEscapes h) rest
    | code h =>
      have hlt : (CodePoint.ofChar c).code < 16 ^ 2 := by
        have hsmall := toNat_lt_of_isControl h
        simp only [CodePoint.code_ofChar]
        omega
      exact .code rfl (by decide) hlt
    | itself hquote hslash hcontrol =>
      have hreturn := ne_of_isControl (d := '\r') rfl hcontrol
      have hnull := ne_of_isControl (d := '\x00') rfl hcontrol
      have hfeed := ne_of_isControl (d := '\n') rfl hcontrol
      exact .itself hquote hslash (by simp [Quotes.refuses, hreturn, hnull, hfeed])

/-- An escaped text stands (`Stands`) for the text. -/
theorem stands_escapePoints (s : List CodePoint) : Stands q (escapePoints s) s := by
  induction s with
  | nil => exact .nil
  | cons p rest ih => exact (stands_escapePoint p).append ih

/-- A text in quotes ends at its closing quotes and has the value that the raw text stands
(`Stands`) for. -/
theorem read?_of_stands (h : Stands q raw value) (after : List CodePoint) :
    read? q (q.marks ++ raw ++ q.marks ++ after) = some (value, after) := by
  rw [read?, List.append_assoc, List.append_assoc, if_pos (List.prefix_append _ _),
    List.drop_left, h, readFrom_marks, Option.map_some, addRead, List.append_nil]

/-! ## String literals -/

/-- Whether a code point is neither a control character nor a surrogate. -/
def IsVisible (p : CodePoint) : Prop := ¬ p.IsControl ∧ ¬ p.IsSurrogate

/-- A character is visible (`IsVisible`) unless it is a control character. -/
private theorem isVisible_ofChar {c : Char} (h : isControl c = false) : IsVisible (.ofChar c) := by
  constructor
  · intro hcontrol
    simp only [isControl, Bool.or_eq_false_iff, Bool.and_eq_false_iff, decide_eq_false_iff_not] at h
    simp only [CodePoint.IsControl, CodePoint.code_ofChar] at hcontrol
    omega
  · intro hsurrogate
    have hnone := CodePoint.char?_eq_none_iff.2 hsurrogate
    rw [CodePoint.char?_ofChar] at hnone
    cases hnone

/-- A code point is written without control characters and surrogates (`IsVisible`). -/
private theorem isVisible_of_mem_escapePoint (p : CodePoint) : ∀ r ∈ escapePoint p, IsVisible r :=
    by
  cases hchar : p.char? with
  | none =>
    -- a surrogate has a code of four hexadecimal digits
    have hlt := code_lt_of_char?_eq_none hchar
    rw [escapePoint, hchar]
    exact List.forall_mem_map.2 fun c hc =>
      isVisible_ofChar (isControl_of_mem_hexEscape rfl (by decide) hlt c hc)
  | some c =>
    rw [CodePoint.eq_ofChar_of_char? hchar, escapePoint_ofChar]
    exact List.forall_mem_map.2 fun d hd => isVisible_ofChar (isControl_of_mem_escapeChar c d hd)

/-- All of a literal is visible (`IsVisible`). -/
private theorem isVisible_of_mem_pointsLiteral (s : List CodePoint) :
    ∀ p ∈ pointsLiteral s, IsVisible p := by
  have hquote : IsVisible quote := isVisible_ofChar rfl
  intro p hp
  simp only [pointsLiteral, List.cons_append, List.mem_cons, List.mem_append, List.not_mem_nil,
    or_false] at hp
  rcases hp with rfl | hp | rfl
  · exact hquote
  · obtain ⟨r, _, hr⟩ := List.mem_flatMap.1 hp
    exact isVisible_of_mem_escapePoint r p hr
  · exact hquote

/-- A literal is read (`read?`) as its text, whatever follows. -/
theorem read?_pointsLiteral (s after : List CodePoint) :
    read? .single (pointsLiteral s ++ after) = some (s, after) :=
  read?_of_stands (stands_escapePoints s) after

/-- Literals with something behind them (`pointsLiteral`) are the same only if they are of one text
and have the same behind them. -/
private theorem pointsLiteral_append_inj {s t after other : List CodePoint}
    (h : pointsLiteral s ++ after = pointsLiteral t ++ other) : s = t ∧ after = other := by
  have hread := read?_pointsLiteral s after
  rw [h, read?_pointsLiteral] at hread
  cases hread
  exact ⟨rfl, rfl⟩

/-- A literal (`pointsLiteral`) begins and ends with a double quote and has no control character and
no surrogate in it. It is read as its text and ends with its last quote, whatever follows; so
literals of different texts differ, and what follows a literal is read apart from it. The literals
that the program writes are of this form. -/
theorem pointsLiteral_roundTrip (s : List CodePoint) :
    (∃ raw, pointsLiteral s = quote :: raw ++ [quote]) ∧
    (∀ p ∈ pointsLiteral s, ¬ p.IsControl ∧ ¬ p.IsSurrogate) ∧
    (∀ after, read? .single (pointsLiteral s ++ after) = some (s, after)) ∧
    (∀ t after other, pointsLiteral s ++ after = pointsLiteral t ++ other → s = t ∧ after = other) ∧
    ∀ text : String, points text.toList = s →
      points (stringLiteral text).toList = pointsLiteral s := by
  refine ⟨⟨escapePoints s, rfl⟩, isVisible_of_mem_pointsLiteral s, read?_pointsLiteral s, ?_, ?_⟩
  · intro t after other h
    exact pointsLiteral_append_inj h
  · intro text htext
    rw [points_stringLiteral, htext]

/-- A surrogate is written by its code. -/
example : pointsLiteral [.ofChar '"', ⟨0xD800, by decide⟩] = points "\"\\\"\\ud800\"".toList := by
  decide

end Parlance.Quoted
