import Mathlib.Data.List.Forall2
import Parlance.Code.Expr
import Parlance.Proofs.Code.Reading

/-!
# Lexemes and trees of expressions

An expression made of strings, numbers, dotted paths, sums, calls and dictionaries has a sequence of
lexemes and a tree, and is readable if its paths can be read, its numbers are not too long and its
arguments stand in order (`Expr.Readable`). Printed at any indentation, a readable expression is
its lexemes (`lexes_print`).
-/

namespace Parlance.Code

open Parlance.Number Parlance.Text

/-! ## Trees and lexemes of expressions -/

/-- The tree of a dotted path. -/
def pathTree (path : String) : Tree :=
  match cutAt '.' path with
  | [] => .name path
  | first :: fields =>
    fields.foldl .attribute ((wordTree? first).getD (.name first))

mutual

/-- The tree of an expression; one that is not readable has none of its own. -/
def Expr.tree : Expr → Tree
  | .literal s => .text s
  | .number n => .number n
  | .name path => pathTree path
  | .join left right => .sum left.tree right.tree
  | .call function _ arguments =>
    .call (pathTree function) (positionalTrees arguments) (keywordTrees arguments)
  | .dict entries => .dict (pairTrees entries)
  | .data _ => .text ""
  | .tuple _ => .text ""

/-- The trees of the arguments by position. -/
def positionalTrees : List Argument → List Tree
  | [] => []
  | .mk none value :: rest => value.tree :: positionalTrees rest
  | .mk (some _) _ :: rest => positionalTrees rest

/-- The trees of the arguments by keyword. -/
def keywordTrees : List Argument → List (String × Tree)
  | [] => []
  | .mk none _ :: rest => keywordTrees rest
  | .mk (some keyword) value :: rest => (keyword, value.tree) :: keywordTrees rest

/-- The trees of the entries of a dictionary. -/
def pairTrees : List Pair → List (Tree × Tree)
  | [] => []
  | .mk key value :: rest => (key.tree, value.tree) :: pairTrees rest

end

/-- Items with a comma and a line end after each. -/
def stackedLexemes (items : List (List Lexeme)) : List Lexeme :=
  items.flatMap (· ++ [.mark .comma, .newline])

/-- Items with a comma between each two. -/
def inlineLexemes : List (List Lexeme) → List Lexeme
  | [] => []
  | [item] => item
  | item :: next :: more => item ++ .mark .comma :: inlineLexemes (next :: more)

/-- The lexemes of the name of an argument. -/
def keywordLexemes : Option String → List Lexeme
  | none => []
  | some keyword => [.name keyword, .mark .equals]

mutual

/-- The lexemes of an expression. -/
def Expr.lexemes : Expr → List Lexeme
  | .literal s => [.text s]
  | .number n => [.number n]
  | .name path => pathLexemes (cutAt '.' path)
  | .join left right => left.lexemes ++ [.mark .plus] ++ right.lexemes
  | .call function true arguments =>
    pathLexemes (cutAt '.' function) ++ [.mark .openRound, .newline] ++
      stackedLexemes (argumentLexemes arguments) ++ [.mark .closeRound]
  | .call function false arguments =>
    pathLexemes (cutAt '.' function) ++ [.mark .openRound] ++
      inlineLexemes (argumentLexemes arguments) ++ [.mark .closeRound]
  | .dict entries =>
    if entries.isEmpty then [.mark .openCurly, .mark .closeCurly]
    else [.mark .openCurly, .newline] ++ stackedLexemes (pairLexemes entries) ++ [.mark .closeCurly]
  | .data _ => []
  | .tuple _ => []

/-- The lexemes of arguments. -/
def argumentLexemes : List Argument → List (List Lexeme)
  | [] => []
  | .mk keyword value :: rest => (keywordLexemes keyword ++ value.lexemes) :: argumentLexemes rest

/-- The lexemes of the entries of a dictionary. -/
def pairLexemes : List Pair → List (List Lexeme)
  | [] => []
  | .mk key value :: rest => (key.lexemes ++ [.mark .colon] ++ value.lexemes) :: pairLexemes rest

end

/-! ## Readable expressions -/

/-- Whether a string can be a variable or a keyword of an argument. -/
def IsVariable (s : String) : Prop := isIdentifier s = true ∧ isKeyword s = false

instance (s : String) : Decidable (IsVariable s) := inferInstanceAs (Decidable (_ ∧ _))

/-- Whether a string is a constant or a variable, with fields or without. -/
def IsPath (path : String) : Prop :=
  ∃ first fields, cutAt '.' path = first :: fields ∧ isIdentifier first = true ∧
    (wordTree? first).isSome = true ∧ ∀ field ∈ fields, IsVariable field

/-- Whether arguments stand in order after some that have keywords. -/
def InOrder : List String → List Argument → Prop
  | _, [] => True
  | taken, .mk none _ :: rest => taken = [] ∧ InOrder [] rest
  | taken, .mk (some keyword) _ :: rest =>
    keyword ∉ taken ∧ IsVariable keyword ∧ InOrder (taken ++ [keyword]) rest

/-- Whether an expression is no sum. -/
def Expr.isOperand : Expr → Bool
  | .join _ _ => false
  | _ => true

mutual

/-- Whether an expression can be read back. -/
def Expr.Readable : Expr → Prop
  | .literal _ => True
  | .number n => (decimalDigits n).length ≤ digitLimit
  | .name path => IsPath path
  | .join left right => left.Readable ∧ right.Readable ∧ right.isOperand = true
  | .call function stacked arguments =>
    IsPath function ∧ (stacked = true ∨ arguments ≠ []) ∧ InOrder [] arguments ∧
      ReadableArguments arguments
  | .dict entries => ReadablePairs entries
  | .data _ => False
  | .tuple _ => False

/-- Whether arguments can be read back. -/
def ReadableArguments : List Argument → Prop
  | [] => True
  | .mk _ value :: rest => value.Readable ∧ ReadableArguments rest

/-- Whether the entries of a dictionary can be read back. -/
def ReadablePairs : List Pair → Prop
  | [] => True
  | .mk key value :: rest => key.Readable ∧ value.Readable ∧ ReadablePairs rest

end

/-! ## Printed expressions are their lexemes -/

/-- The names of a path are identifiers (`isIdentifier`). -/
private theorem isIdentifier_of_mem_path {path : String} (h : IsPath path) :
    ∀ name ∈ cutAt '.' path, isIdentifier name = true := by
  obtain ⟨first, fields, hcut, hfirst, -, hfields⟩ := h
  rw [hcut]
  exact List.forall_mem_cons.2 ⟨hfirst, fun field hfield => (hfields field hfield).1⟩

/-- A variable (`IsVariable`) is the lexeme of its name. -/
private theorem lexes_variable {s : String} (h : IsVariable s) : Lexes s [.name s] := by
  have hpath : Lexes s (pathLexemes (cutAt '.' s)) :=
    lexes_path (by simpa [cutAt_identifier h.1] using h.1)
  rwa [cutAt_identifier h.1] at hpath

/-- Whether a text is indentation. -/
def IsIndent (indent : String) : Prop := ∀ c ∈ indent.toList, c = ' '

/-- A step of indentation (`IsIndent`) is made of blanks. -/
theorem isIndent_step : IsIndent step := by
  have hblanks : step.toList.all (· == ' ') = true := by decide
  simpa [IsIndent] using List.all_eq_true.1 hblanks

/-- Indentation (`IsIndent`) in a row is indentation. -/
theorem IsIndent.append {indent more : String} (h : IsIndent indent) (hmore : IsIndent more) :
    IsIndent (indent ++ more) := by
  intro c hc
  rw [String.toList_append, List.mem_append] at hc
  exact hc.elim (h c) (hmore c)

/-- Indentation (`IsIndent`) is no lexeme. -/
theorem IsIndent.closed {indent : String} (h : IsIndent indent) : Closed indent [] := by
  have hmarks : Closed indent (indent.toList.filterMap markLexeme?) := by
    refine closed_marks (List.all_eq_true.2 fun c hc => ?_)
    rw [h c hc]
    rfl
  rwa [List.filterMap_eq_nil_iff.2 fun c hc => by rw [h c hc]; rfl] at hmarks

/-- Items on lines of their own (`stackedLexemes`). -/
private theorem closed_stacked {inner : String} (hinner : IsIndent inner) {texts : List String}
    {items : List (List Lexeme)} (h : List.Forall₂ Lexes texts items) :
    Closed (String.join (texts.map fun text => inner ++ text ++ ",\n")) (stackedLexemes items) := by
  induction h with
  | nil => exact closed_empty
  | cons hitem _ ih =>
    have hend : Closed ",\n" [.mark .comma, .newline] := closed_marks (by decide)
    have hline := (hinner.closed.append_lexes hitem).append_closed hend ⟨',', rfl, by decide⟩
    rw [List.map_cons, String.join_cons, stackedLexemes, List.flatMap_cons]
    exact hline.append ih

/-- Items on one line (`inlineLexemes`). -/
private theorem lexes_inline {texts : List String} {items : List (List Lexeme)}
    (h : List.Forall₂ Lexes texts items) :
    Lexes (", ".intercalate texts) (inlineLexemes items) := by
  induction h with
  | nil => exact closed_empty.lexes
  | cons hitem hrest ih =>
    -- the last item may end in a name or a number, so only the others are closed
    cases hrest with
    | nil => rwa [String.intercalate_singleton, inlineLexemes]
    | cons hnext hmore =>
      have hcomma : Closed ", " [.mark .comma] := closed_marks (by decide)
      rw [String.intercalate_cons_cons, inlineLexemes, List.append_cons]
      exact (hitem.append_closed hcomma ⟨',', rfl, by decide⟩).append_lexes ih

/-- The name of an argument (`keywordLexemes`) and what stands between it and the value. -/
private theorem closed_keyword {keyword : String} (h : IsVariable keyword) :
    Closed (keyword ++ "=") (keywordLexemes (some keyword)) := by
  have hequals : Closed "=" [.mark .equals] := closed_marks (by decide)
  exact (lexes_variable h).append_closed hequals ⟨'=', rfl, by decide⟩

mutual

/-- The text of an expression (`print`) is its lexemes. -/
theorem lexes_print (indent : String) (hindent : IsIndent indent) :
    ∀ e : Expr, e.Readable → Lexes (e.print indent) e.lexemes
  | .literal s, _ => by
    rw [Expr.print, Expr.lexemes]
    exact (closed_stringLiteral s).lexes
  | .number n, h => by
    rw [Expr.Readable] at h
    rw [Expr.print, Expr.lexemes]
    exact lexes_decimalDigits h
  | .name path, h => by
    rw [Expr.Readable] at h
    rw [Expr.print, Expr.lexemes]
    exact lexes_path (isIdentifier_of_mem_path h)
  | .join left right, h => by
    rw [Expr.Readable] at h
    rw [Expr.print, Expr.lexemes]
    -- the operator stands apart from both operands
    have hplus : Closed " + " [.mark .plus] := closed_marks (by decide)
    have hleft := lexes_print indent hindent left h.1
    exact (hleft.append_closed hplus ⟨' ', rfl, by decide⟩).append_lexes
      (lexes_print indent hindent right h.2.1)
  | .call function true arguments, h => by
    rw [Expr.Readable] at h
    obtain ⟨hfunction, -, horder, harguments⟩ := h
    have hpath := lexes_path (isIdentifier_of_mem_path hfunction)
    have hopen : Closed "(\n" [.mark .openRound, .newline] := closed_marks (by decide)
    have hclose : Closed ")" [.mark .closeRound] := closed_marks (by decide)
    -- arguments stand one step further in
    have hinner := hindent.append isIndent_step
    have hitems := lexes_printArguments (indent ++ step) hinner arguments horder harguments
    rw [Expr.print, Expr.lexemes]
    have hstart := (hpath.append_closed hopen ⟨'(', rfl, by decide⟩).append
      (closed_stacked hinner hitems)
    simpa using ((hstart.append hindent.closed).append hclose).lexes
  | .call function false arguments, h => by
    rw [Expr.Readable] at h
    obtain ⟨hfunction, -, horder, harguments⟩ := h
    have hpath := lexes_path (isIdentifier_of_mem_path hfunction)
    have hopen : Closed "(" [.mark .openRound] := closed_marks (by decide)
    have hclose : Closed ")" [.mark .closeRound] := closed_marks (by decide)
    have hitems := lexes_printArguments indent hindent arguments horder harguments
    rw [Expr.print, Expr.lexemes]
    have hstart := (hpath.append_closed hopen ⟨'(', rfl, by decide⟩).append_lexes
      (lexes_inline hitems)
    exact (hstart.append_closed hclose ⟨')', rfl, by decide⟩).lexes
  | .dict entries, h => by
    rw [Expr.Readable] at h
    rw [Expr.print, Expr.lexemes]
    cases hentries : entries.isEmpty with
    | true =>
      have hempty : Closed "\x7b\x7d" [.mark .openCurly, .mark .closeCurly] :=
        closed_marks (by decide)
      exact hempty.lexes
    | false =>
      have hopen : Closed "\x7b\n" [.mark .openCurly, .newline] := closed_marks (by decide)
      have hclose : Closed "\x7d" [.mark .closeCurly] := closed_marks (by decide)
      have hinner := hindent.append isIndent_step
      have hitems := lexes_printPairs (indent ++ step) hinner entries h
      have hstart := hopen.append (closed_stacked hinner hitems)
      simpa using ((hstart.append hindent.closed).append hclose).lexes

/-- The texts of arguments (`printArguments`) are their lexemes. -/
theorem lexes_printArguments (indent : String) (hindent : IsIndent indent) {taken : List String} :
    ∀ arguments : List Argument, InOrder taken arguments → ReadableArguments arguments →
      List.Forall₂ Lexes (printArguments indent arguments) (argumentLexemes arguments)
  | [], _, _ => by
    rw [printArguments, argumentLexemes]
    exact .nil
  | .mk none value :: rest, horder, h => by
    rw [InOrder] at horder
    rw [ReadableArguments] at h
    rw [printArguments, argumentLexemes]
    exact .cons (lexes_print indent hindent value h.1)
      (lexes_printArguments indent hindent rest horder.2 h.2)
  | .mk (some keyword) value :: rest, horder, h => by
    rw [InOrder] at horder
    rw [ReadableArguments] at h
    rw [printArguments, argumentLexemes]
    -- the equals sign ends the keyword, whatever the value begins with
    exact .cons ((closed_keyword horder.2.1).append_lexes (lexes_print indent hindent value h.1))
      (lexes_printArguments indent hindent rest horder.2.2 h.2)

/-- The texts of the entries (`printPairs`) of a dictionary are their lexemes. -/
theorem lexes_printPairs (indent : String) (hindent : IsIndent indent) :
    ∀ entries : List Pair, ReadablePairs entries →
      List.Forall₂ Lexes (printPairs indent entries) (pairLexemes entries)
  | [], _ => by
    rw [printPairs, pairLexemes]
    exact .nil
  | .mk key value :: rest, h => by
    rw [ReadablePairs] at h
    rw [printPairs, pairLexemes]
    have hcolon : Closed ": " [.mark .colon] := closed_marks (by decide)
    exact .cons (((lexes_print indent hindent key h.1).append_closed hcolon
        ⟨':', rfl, by decide⟩).append_lexes (lexes_print indent hindent value h.2.1))
      (lexes_printPairs indent hindent rest h.2.2)

end

end Parlance.Code
