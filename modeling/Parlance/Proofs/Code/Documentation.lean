import Mathlib.Data.List.Forall2
import Parlance.Proofs.Code.Lexing

/-!
# Documentation strings, read back

A documentation string goes from three double quotes to the next three, with escapes resolved in
between. `readDoc` reads one from behind its opening quotes. A raw text `Stands` for a value if
reading goes through it and adds the value, whatever follows, and a literal `Documents` a value if
it holds the value and ends where its text ends, whatever follows.

## Key results

- `stands_escapeChars`: an escaped text stands for the text
- `stands_of_plain`: a text without quotes, backslashes and control characters stands for itself
- `documents_docString`: a documentation string holds exactly the lines it is made of
-/

namespace Parlance.Code

open Parlance.Number

/-! ## Reading -/

/-- Whether a character after a backslash makes an escape with it. -/
def beginsEscape (c : Char) : Bool :=
  ['\n', '\r', '\\', '\x27', '"', 'a', 'b', 'f', 'n', 'r', 't', 'v', '0', '1', '2', '3', '4', '5',
    '6', '7', 'x', 'N', 'u', 'U'].contains c

/-- A result of reading with some characters in front of what was read. -/
def addRead (read : List Char) (r : List Char × List Char) : List Char × List Char :=
  (read ++ r.1, r.2)

/-- What a documentation string holds from here on, and what follows its closing quotes. Escapes
that no documentation string is written with are refused; a backslash that begins no escape is a
character like any other. -/
def readDoc : List Char → Option (List Char × List Char)
  | [] => none
  | c :: rest =>
    if c = '"' then
      match rest with
      | '"' :: '"' :: after => some ([], after)
      | _ => (readDoc rest).map (addRead ['"'])
    else if c = '\\' then
      match rest with
      | 'x' :: high :: low :: more =>
        (digitValue? 16 high).bind fun h => (digitValue? 16 low).bind fun l =>
          (readDoc more).map (addRead [Char.ofNat (h * 16 + l)])
      | d :: more =>
        match simpleEscape? d with
        | some e => (readDoc more).map (addRead [e])
        | none => if beginsEscape d then none else (readDoc (d :: more)).map (addRead ['\\'])
      | [] => none
    else if c = '\r' ∨ c = '\x00' then none
    else (readDoc rest).map (addRead [c])

/-- Three quotes close a documentation string (`readDoc`). -/
theorem readDoc_close (after : List Char) :
    readDoc ('"' :: '"' :: '"' :: after) = some ([], after) :=
  rfl

/-- A character that is neither quote nor backslash nor one that breaks a text is read as it is
(`readDoc`). -/
private theorem readDoc_cons {c : Char} (hquote : c ≠ '"') (hslash : c ≠ '\\') (hreturn : c ≠ '\r')
    (hnull : c ≠ '\x00') (rest : List Char) :
    readDoc (c :: rest) = (readDoc rest).map (addRead [c]) := by
  rw [readDoc.eq_def]
  dsimp only
  rw [if_neg hquote, if_neg hslash, if_neg (by simp [hreturn, hnull])]

/-- A character is read back from the way it is escaped (`escapeChar`). -/
private theorem readDoc_escapeChar (c : Char) (rest : List Char) :
    readDoc (escapeChar c ++ rest) = (readDoc rest).map (addRead [c]) := by
  have hwritten := escaped_escapeChar c
  generalize escapeChar c = written at hwritten ⊢
  -- one case for each way of writing a character
  cases hwritten with
  | short h =>
    have hall : ∀ p ∈ shortEscapes,
        readDoc ('\\' :: p.1 :: rest) = (readDoc rest).map (addRead [p.2]) := by
      simp only [shortEscapes, List.forall_mem_cons]
      exact ⟨rfl, rfl, rfl, rfl, rfl, nofun⟩
    exact hall _ h
  | code h =>
    have hlt := toNat_lt_of_isControl h
    have hhigh := digitValue?_digitChar (c.toNat / 16) (by omega)
    have hlow := digitValue?_digitChar (c.toNat % 16) (by omega)
    -- the two digits make up the code again
    have hcode : Char.ofNat (c.toNat / 16 * 16 + c.toNat % 16) = c := by
      rw [Nat.div_add_mod', Char.ofNat_toNat]
    rw [hexDigits_two _ hlt]
    show ((digitValue? 16 _).bind fun h => (digitValue? 16 _).bind fun l =>
      (readDoc rest).map (addRead [Char.ofNat (h * 16 + l)])) = _
    rw [hhigh, hlow, Option.bind_some, Option.bind_some, hcode]
  | itself hquote hslash hcontrol =>
    have hreturn := ne_of_isControl (d := '\r') rfl hcontrol
    have hnull := ne_of_isControl (d := '\x00') rfl hcontrol
    exact readDoc_cons hquote hslash hreturn hnull rest

/-! ## Raw texts and what they stand for -/

/-- Whether reading goes through a raw text and adds a value, whatever follows. -/
def Stands (raw value : List Char) : Prop :=
  ∀ rest, readDoc (raw ++ rest) = (readDoc rest).map (addRead value)

/-- Nothing stands (`Stands`) for nothing. -/
private theorem stands_nil : Stands [] [] := fun rest => by
  have hid : addRead [] = id := rfl
  rw [hid, Option.map_id, id, List.nil_append]

/-- Raw texts in a row stand (`Stands`) for their values in a row. -/
theorem Stands.append {raw raw' value value' : List Char} (h : Stands raw value)
    (h' : Stands raw' value') : Stands (raw ++ raw') (value ++ value') := by
  intro rest
  have hboth : addRead value ∘ addRead value' = addRead (value ++ value') := by
    funext r
    simp only [Function.comp_apply, addRead, List.append_assoc]
  rw [List.append_assoc, h, h', Option.map_map, hboth]

/-- A text stands (`Stands`) for itself if each of its characters is read as it is. -/
private theorem stands_self {s : List Char} (h : ∀ c ∈ s, Stands [c] [c]) : Stands s s := by
  induction s with
  | nil => exact stands_nil
  | cons c rest ih =>
    obtain ⟨hc, hrest⟩ := List.forall_mem_cons.1 h
    exact hc.append (ih hrest)

/-- An escaped text stands (`Stands`) for the text. -/
theorem stands_escapeChars (s : List Char) : Stands (escapeChars s) s := by
  induction s with
  | nil => exact stands_nil
  | cons c rest ih =>
    have hc : Stands (escapeChar c) [c] := readDoc_escapeChar c
    exact hc.append ih

/-- A line feed stands (`Stands`) for itself. -/
theorem stands_newline : Stands ['\n'] ['\n'] :=
  readDoc_cons (by decide) (by decide) (by decide) (by decide)

/-! ## Plain texts -/

/-- Whether a character is written in a literal as it is. -/
def isPlain (c : Char) : Bool := c ≠ '"' && c ≠ '\\' && !isControl c

/-- A plain character is not escaped (`escapeChar`). -/
private theorem escapeChar_of_plain {c : Char} (h : isPlain c = true) : escapeChar c = [c] := by
  simp only [isPlain, Bool.and_eq_true, Bool.not_eq_true', decide_eq_true_eq] at h
  obtain ⟨⟨hquote, hslash⟩, hcontrol⟩ := h
  unfold escapeChar
  -- only the last branch is left to a character that is no quote, backslash or control
  split
  · exact absurd rfl hslash
  · exact absurd rfl hquote
  · cases hcontrol
  · cases hcontrol
  · cases hcontrol
  · rw [if_neg (by simp [hcontrol])]

/-- Escaping (`escapeChars`) changes nothing in a text of plain characters. -/
private theorem escapeChars_of_plain {s : List Char} (h : ∀ c ∈ s, isPlain c = true) :
    escapeChars s = s := by
  induction s with
  | nil => rfl
  | cons c rest ih =>
    obtain ⟨hc, hrest⟩ := List.forall_mem_cons.1 h
    rw [escapeChars, List.flatMap_cons, escapeChar_of_plain hc, List.singleton_append]
    exact congrArg (c :: ·) (ih hrest)

/-- A plain text (`isPlain`) in double quotes is its own literal. -/
theorem stringLiteral_of_plain {s : String} (h : ∀ c ∈ s.toList, isPlain c = true) :
    stringLiteral s = "\"" ++ s ++ "\"" := by
  rw [stringLiteral, escape, escapeChars_of_plain h, String.ofList_toList]

/-- A plain text stands (`Stands`) for itself. -/
theorem stands_of_plain {s : List Char} (h : ∀ c ∈ s, isPlain c = true) : Stands s s := by
  have hstands := stands_escapeChars s
  rwa [escapeChars_of_plain h] at hstands

/-- Whether a character can stand in a documentation string as it is. -/
def isWritten (c : Char) : Bool := isPlain c || c == '\n'

/-- Plain characters can be written (`isWritten`) as they are. -/
theorem all_isWritten_of_plain {s : List Char} (h : ∀ c ∈ s, isPlain c = true) :
    s.all isWritten = true :=
  List.all_eq_true.2 fun c hc => by rw [isWritten, h c hc, Bool.true_or]

/-- Texts that can be written as they are can be joined by such a `separator`. -/
theorem all_isWritten_intercalate {separator : String} (hseparator : separator.toList.all isWritten)
    {texts : List String} (h : ∀ s ∈ texts, s.toList.all isWritten = true) :
    (separator.intercalate texts).toList.all isWritten = true := by
  induction texts with
  | nil => rfl
  | cons first rest ih =>
    obtain ⟨hfirst, hrest⟩ := List.forall_mem_cons.1 h
    -- the last text has no separator behind it
    cases rest with
    | nil => rwa [String.intercalate_singleton]
    | cons second more =>
      rw [String.intercalate_cons_cons, String.toList_append, String.toList_append, List.all_append,
        List.all_append, hfirst, hseparator, ih hrest]
      rfl

/-- A text of plain characters and line feeds stands (`Stands`) for itself. -/
theorem stands_of_written {s : List Char} (h : s.all isWritten = true) : Stands s s := by
  refine stands_self fun c hc => ?_
  have hc := List.all_eq_true.1 h c hc
  rw [isWritten, Bool.or_eq_true, beq_iff_eq] at hc
  rcases hc with hplain | rfl
  · exact stands_of_plain (List.forall_mem_singleton.2 hplain)
  · exact stands_newline

/-! ## Whole documentation strings -/

/-- A text in triple quotes. -/
def inQuotes (text : String) : String := "\"\"\"" ++ text ++ "\"\"\""

/-- Whether a literal is a documentation string that holds a value and ends with the text of the
literal, whatever follows. -/
def Documents (literal value : String) : Prop :=
  ∃ raw, literal = inQuotes raw ∧
    ∀ after, readDoc (raw.toList ++ '"' :: '"' :: '"' :: after) = some (value.toList, after)

/-- A raw text in triple quotes is a documentation string of what it stands (`Stands`) for. -/
private theorem documents_of_stands {raw value : String} (h : Stands raw.toList value.toList) :
    Documents (inQuotes raw) value := by
  refine ⟨raw, rfl, fun after => ?_⟩
  rw [h, readDoc_close, Option.map_some, addRead, List.append_nil]

/-- A text in triple quotes documents (`Documents`) itself if its characters can stand there. -/
theorem documents_inQuotes {text : String} (h : text.toList.all isWritten = true) :
    Documents (inQuotes text) text :=
  documents_of_stands (stands_of_written h)

/-- A text whose first characters can stand in triple quotes documents (`Documents`) itself if and
only if the rest of it reads back. -/
theorem documents_inQuotes_append_iff {opening rest : String}
    (h : opening.toList.all isWritten = true) :
    Documents (inQuotes (opening ++ rest)) (opening ++ rest) ↔
      ∀ after, readDoc (rest.toList ++ '"' :: '"' :: '"' :: after) = some (rest.toList, after) := by
  have hread : ∀ after,
      readDoc ((opening ++ rest).toList ++ '"' :: '"' :: '"' :: after) =
        some ((opening ++ rest).toList, after) ↔
      readDoc (rest.toList ++ '"' :: '"' :: '"' :: after) = some (rest.toList, after) := by
    intro after
    -- reading passes through the opening, so only the rest is in question
    rw [String.toList_append, List.append_assoc, stands_of_written h, Option.map_eq_some_iff]
    constructor
    · rintro ⟨r, hr, heq⟩
      obtain ⟨hvalue, hafter⟩ := Prod.mk.inj heq
      rw [hr, ← List.append_cancel_left hvalue, ← hafter]
    · intro hr
      exact ⟨_, hr, rfl⟩
  constructor
  · rintro ⟨raw, hraw, hdocuments⟩ after
    rw [inQuotes, inQuotes, String.append_left_inj, String.append_right_inj] at hraw
    exact (hread after).1 (hraw ▸ hdocuments after)
  · intro hrest
    exact ⟨_, rfl, fun after => (hread after).2 (hrest after)⟩

/-- The text of lines in a documentation string: each after the first is indented unless it is
empty, and after the last there is the line of the closing quotes. -/
def docText (indent first : String) (rest : List String) : String :=
  if rest.isEmpty then first
  else first ++ "\n" ++
    "\n".intercalate (rest.map fun line => if line.isEmpty then "" else indent ++ line) ++
    "\n" ++ indent

/-- A line of a documentation string stands (`Stands`) for the line, which is indented unless it is
empty. -/
private theorem stands_docLine {indent : String} (hindent : ∀ c ∈ indent.toList, isPlain c = true)
    (line : String) :
    Stands (docLine indent line).toList (if line.isEmpty then "" else indent ++ line).toList := by
  rw [docLine]
  split
  · exact stands_nil
  · rw [String.toList_append, String.toList_append, escape, String.toList_ofList]
    exact (stands_of_plain hindent).append (stands_escapeChars line.toList)

/-- Lines that are joined stand (`Stands`) for what they stand for, joined. -/
private theorem stands_intercalate {raws values : List String}
    (h : List.Forall₂ (fun raw value : String => Stands raw.toList value.toList) raws values) :
    Stands ("\n".intercalate raws).toList ("\n".intercalate values).toList := by
  induction h with
  | nil => exact stands_nil
  | cons hfirst hrest ih =>
    -- the last line has no line end behind it
    cases hrest with
    | nil =>
      rw [String.intercalate_singleton, String.intercalate_singleton]
      exact hfirst
    | cons hsecond hmore =>
      rw [String.intercalate_cons_cons, String.intercalate_cons_cons]
      simp only [String.toList_append]
      exact (hfirst.append stands_newline).append ih

/-- A documentation (`Documents`) string holds exactly the lines it is made of. -/
theorem documents_docString {indent : String} (hindent : ∀ c ∈ indent.toList, isPlain c = true)
    (first : String) (rest : List String) :
    ∃ literal, docString indent first rest = indent ++ literal ∧
      Documents literal (docText indent first rest) := by
  have hfirst : Stands (escape first).toList first.toList := by
    rw [escape, String.toList_ofList]
    exact stands_escapeChars first.toList
  rw [docString, docText]
  cases hrest : rest with
  | nil =>
    refine ⟨inQuotes (escape first), ?_, documents_of_stands hfirst⟩
    simp only [inQuotes, List.isEmpty_nil, if_true, String.append_assoc]
  | cons second more =>
    rw [← hrest]
    -- the lines below the first, each with its indentation
    have hlines : Stands ("\n".intercalate (rest.map (docLine indent))).toList
        ("\n".intercalate (rest.map fun line =>
          if line.isEmpty then "" else indent ++ line)).toList := by
      refine stands_intercalate (List.forall₂_map_left_iff.2 (List.forall₂_map_right_iff.2 ?_))
      exact List.forall₂_same.2 fun line _ => stands_docLine hindent line
    -- put together, with the indentation before the closing quotes
    have hall : Stands (escape first ++ "\n" ++ "\n".intercalate (rest.map (docLine indent)) ++
        "\n" ++ indent).toList (first ++ "\n" ++ "\n".intercalate (rest.map fun line =>
          if line.isEmpty then "" else indent ++ line) ++ "\n" ++ indent).toList := by
      simp only [String.toList_append]
      exact (((hfirst.append stands_newline).append hlines).append stands_newline).append
        (stands_of_plain hindent)
    have hne : rest.isEmpty = false := by rw [hrest]; rfl
    rw [hne]
    refine ⟨_, ?_, documents_of_stands hall⟩
    simp only [inQuotes, Bool.false_eq_true, if_false, String.append_assoc]

end Parlance.Code
