import Parlance.Proofs.Code.Spelling

/-!
# Printed expressions read back

A readable expression is printed as a text that reads back as its tree, at every indentation
(`read_print`). Given the lexemes of the expression where an operand may come, the reader goes on
behind them with the tree as the operand (`reads_expr`), whatever brackets are open.
-/

namespace Parlance.Code

open Parlance.Text

/-! ## The reader makes the tree -/

/-- Whether the reader makes a tree of lexemes wherever an operand may come. -/
def ReadsOperand (lexemes : List Lexeme) (value : Tree) : Prop :=
  ∀ stack focus left, focus.left? = some left →
    Reader.steps? ⟨stack, focus⟩ lexemes = some ⟨stack, .after left value⟩

/-- Whether the reader makes a tree of lexemes where an expression may begin. -/
def ReadsExpr (lexemes : List Lexeme) (value : Tree) : Prop :=
  ∀ stack focus, focus.left? = some none →
    ∃ next, Reader.steps? ⟨stack, focus⟩ lexemes = some ⟨stack, next⟩ ∧ next.value? = some value

/-- What reads as an operand reads (`ReadsOperand`) as an expression. -/
theorem ReadsOperand.readsExpr {lexemes : List Lexeme} {value : Tree}
    (h : ReadsOperand lexemes value) : ReadsExpr lexemes value :=
  fun stack focus hfocus => ⟨_, h stack focus none hfocus, rfl⟩

/-- A sum reads as its operands do (`ReadsOperand`). -/
theorem ReadsExpr.sum {ls ms : List Lexeme} {left right : Tree} (hleft : ReadsExpr ls left)
    (hright : ReadsOperand ms right) : ReadsExpr (ls ++ [.mark .plus] ++ ms) (.sum left right) := by
  intro stack focus hfocus
  obtain ⟨next, hnext, hvalue⟩ := hleft stack focus hfocus
  refine ⟨.after (some left) right, ?_, rfl⟩
  rw [Reader.steps?_append, Reader.steps?_append, hnext, Option.bind_some]
  have hplus : Reader.steps? ⟨stack, next⟩ [.mark .plus] = some ⟨stack, .operand (some left)⟩ := by
    simp [Reader.steps?, Reader.step?, Reader.stepMark?, hvalue]
  rw [hplus, Option.bind_some]
  exact hright stack _ _ rfl

/-- A string literal is an operand. -/
private theorem readsOperand_text (s : String) : ReadsOperand [.text s] (.text s) := by
  intro stack focus left hfocus
  simp [Reader.steps?, Reader.step?, Reader.place?, hfocus]

/-- So is a number (`number`). -/
private theorem readsOperand_number (n : Nat) : ReadsOperand [.number n] (.number n) := by
  intro stack focus left hfocus
  simp [Reader.steps?, Reader.step?, Reader.place?, hfocus]

/-- A word that is an expression (`wordTree?`) is read as one. -/
private theorem readsOperand_word {word : String} {value : Tree} (h : wordTree? word = some value) :
    ReadsOperand [.name word] value := by
  intro stack focus left hfocus
  -- after a dot the word would be a field, but there `left?` gives nothing
  cases focus with
  | field => cases hfocus
  | after => cases hfocus
  | item => simp [Reader.steps?, Reader.step?, Reader.place?, h, hfocus]
  | operand => simp [Reader.steps?, Reader.step?, Reader.place?, h, hfocus]

/-- Fields (`fields`) are taken of the operand before them. -/
private theorem steps?_fields {fields : List String} (h : ∀ field ∈ fields, IsVariable field)
    (stack : List Frame) (left : Option Tree) (value : Tree) :
    Reader.steps? ⟨stack, .after left value⟩ (fields.flatMap fun f => [.mark .dot, .name f]) =
      some ⟨stack, .after left (fields.foldl .attribute value)⟩ := by
  induction fields generalizing value with
  | nil => rfl
  | cons field rest ih =>
    have hfield := (h field List.mem_cons_self).2
    rw [List.flatMap_cons, Reader.steps?_append]
    have hstep : Reader.steps? ⟨stack, .after left value⟩ [.mark .dot, .name field] =
        some ⟨stack, .after left (.attribute value field)⟩ := by
      simp [Reader.steps?, Reader.step?, Reader.stepMark?, hfield]
    rw [hstep, Option.bind_some, ih fun f hf => h f (List.mem_cons_of_mem _ hf), List.foldl_cons]

/-- A dotted path (`IsPath`) is read as a variable or constant and its fields. -/
private theorem readsOperand_path {path : String} (h : IsPath path) :
    ReadsOperand (pathLexemes (cutAt '.' path)) (pathTree path) := by
  intro stack focus left hfocus
  obtain ⟨first, fields, hcut, -, hfirst, hfields⟩ := h
  obtain ⟨value, hvalue⟩ := Option.isSome_iff_exists.1 hfirst
  have hword := readsOperand_word hvalue stack focus left hfocus
  rw [pathTree, hcut, pathLexemes, ← List.singleton_append, Reader.steps?_append, hword,
    Option.bind_some]
  dsimp only
  rw [steps?_fields hfields, hvalue, Option.getD_some]

/-- A word that is no keyword (`isKeyword`) is a name. -/
theorem wordTree?_variable {s : String} (h : isKeyword s = false) :
    wordTree? s = some (.name s) := by
  have hconstant : constants.contains s = false := by
    have hreserved : ∀ word ∈ constants, isKeyword word = true := by decide
    rw [← Bool.not_eq_true, List.contains_iff_mem]
    intro hmem
    rw [hreserved s hmem] at h
    cases h
  rw [wordTree?, hconstant, h]
  rfl

/-! ### Items of brackets -/

section

variable {frame more : Frame} (stack : List Frame) {next : Focus} {value : Tree}

/-- A comma adds the item (`add?`) before it. -/
private theorem steps?_comma (hvalue : next.value? = some value)
    (hadd : frame.add? value = some more) :
    Reader.steps? ⟨frame :: stack, next⟩ [.mark .comma] = some ⟨more :: stack, .item⟩ := by
  simp [Reader.steps?, Reader.step?, Reader.stepMark?, hvalue, hadd]

/-- A comma and a line end add the item before them. -/
private theorem steps?_line (hvalue : next.value? = some value)
    (hadd : frame.add? value = some more) :
    Reader.steps? ⟨frame :: stack, next⟩ [.mark .comma, .newline] =
      some ⟨more :: stack, .item⟩ := by
  have hcomma := steps?_comma stack hvalue hadd
  rw [show [.mark .comma, .newline] = [.mark .comma] ++ [Lexeme.newline] from rfl,
    Reader.steps?_append, hcomma]
  rfl

/-- The end of a bracket (`close?`) adds the item before it. -/
private theorem close?_of_value (mark : Mark) {closed : Focus} (hvalue : next.value? = some value)
    (hadd : frame.add? value = some more) (hclose : more.close? mark = some closed) :
    Reader.close? mark ⟨frame :: stack, next⟩ = some ⟨stack, closed⟩ := by
  cases next with
  | after => simp [Reader.close?, hvalue, hadd, hclose]
  | item => cases hvalue
  | operand => cases hvalue
  | field => cases hvalue

end

/-! ### Arguments -/

section

variable (left : Option Tree) (function : Tree) (stack : List Frame)

/-- The trees by position (`positionalTrees`) are those of the first argument and of the rest. -/
private theorem positionalTrees_cons (a : Argument) (rest : List Argument) :
    positionalTrees (a :: rest) = positionalTrees [a] ++ positionalTrees rest := by
  cases a with
  | mk keyword value => cases keyword <;> simp [positionalTrees]

/-- So are the trees by keyword (`keywordTrees`). -/
private theorem keywordTrees_cons (a : Argument) (rest : List Argument) :
    keywordTrees (a :: rest) = keywordTrees [a] ++ keywordTrees rest := by
  cases a with
  | mk keyword value => cases keyword <;> simp [keywordTrees]

/-- An argument (`Argument`) is read up to its last lexeme, and can be added to those before it. -/
private theorem steps?_argument {keyword : Option String} {value : Expr} {rest : List Argument}
    (h : ReadsExpr value.lexemes value.tree) (ps : List Tree) (ks : List (String × Tree))
    (horder : InOrder (ks.map (·.1)) (.mk keyword value :: rest)) :
    ∃ next,
      Reader.steps? ⟨.call left function ps ks none :: stack, .item⟩
          (keywordLexemes keyword ++ value.lexemes) =
        some ⟨.call left function ps ks keyword :: stack, next⟩ ∧
      next.value? = some value.tree ∧
      (Frame.call left function ps ks keyword).add? value.tree =
        some (.call left function (ps ++ positionalTrees [.mk keyword value])
          (ks ++ keywordTrees [.mk keyword value]) none) ∧
      InOrder ((ks ++ keywordTrees [.mk keyword value]).map (·.1)) rest := by
  cases keyword with
  | none =>
    -- an argument by position has none by keyword before it
    rw [InOrder, List.map_eq_nil_iff] at horder
    obtain ⟨rfl, hrest⟩ := horder
    obtain ⟨next, hsteps, hvalue⟩ := h (.call left function ps [] none :: stack) .item rfl
    exact ⟨next, hsteps, hvalue, by simp [Frame.add?, positionalTrees, keywordTrees],
      by simpa [keywordTrees] using hrest⟩
  | some k =>
    rw [InOrder] at horder
    obtain ⟨hnew, hvariable, hrest⟩ := horder
    obtain ⟨next, hsteps, hvalue⟩ :=
      h (.call left function ps ks (some k) :: stack) (.operand none) rfl
    -- the keyword is read as a variable first, and the equals sign makes it a keyword
    have hstart : Reader.steps? ⟨.call left function ps ks none :: stack, .item⟩
        [.name k, .mark .equals] =
          some ⟨.call left function ps ks (some k) :: stack, .operand none⟩ := by
      simp [Reader.steps?, Reader.step?, Reader.place?, wordTree?_variable hvariable.2,
        Reader.stepMark?, Focus.left?]
    refine ⟨next, ?_, hvalue, ?_, by simpa [keywordTrees] using hrest⟩
    · rw [keywordLexemes, Reader.steps?_append, hstart]
      exact hsteps
    · have hfresh : (ks.map (·.1)).contains k = false := by simpa using hnew
      rw [Frame.add?, hfresh]
      simp [positionalTrees, keywordTrees]

/-- Arguments on lines of their own (`stackedLexemes`) are read into the frame of their call. -/
private theorem steps?_stackedArguments {arguments : List Argument}
    (h : ∀ keyword value, .mk keyword value ∈ arguments → ReadsExpr value.lexemes value.tree)
    (ps : List Tree) (ks : List (String × Tree)) (horder : InOrder (ks.map (·.1)) arguments) :
    Reader.steps? ⟨.call left function ps ks none :: stack, .item⟩
        (stackedLexemes (argumentLexemes arguments)) =
      some ⟨.call left function (ps ++ positionalTrees arguments) (ks ++ keywordTrees arguments)
        none :: stack, .item⟩ := by
  induction arguments generalizing ps ks with
  | nil => simp [argumentLexemes, stackedLexemes, positionalTrees, keywordTrees, Reader.steps?]
  | cons a rest ih =>
    cases a with
    | mk keyword value =>
      -- the first argument joins those in the frame, and the rest follow by induction
      obtain ⟨next, hsteps, hvalue, hadd, hrest⟩ :=
        steps?_argument left function stack (h keyword value List.mem_cons_self) ps ks horder
      have hitems := ih (fun k v hmem => h k v (List.mem_cons_of_mem _ hmem))
        (ps ++ positionalTrees [.mk keyword value]) (ks ++ keywordTrees [.mk keyword value]) hrest
      rw [argumentLexemes, stackedLexemes, List.flatMap_cons, Reader.steps?_append,
        Reader.steps?_append, hsteps, Option.bind_some, steps?_line stack hvalue hadd,
        Option.bind_some, ← stackedLexemes, hitems, positionalTrees_cons _ rest,
        keywordTrees_cons _ rest, List.append_assoc, List.append_assoc]

/-- An item that is not the last has a comma behind it (`inlineLexemes`). -/
private theorem inlineLexemes_cons {items : List (List Lexeme)} (hne : items ≠ [])
    (item : List Lexeme) :
    inlineLexemes (item :: items) = item ++ [.mark .comma] ++ inlineLexemes items := by
  cases items with
  | nil => exact absurd rfl hne
  | cons next more => rw [inlineLexemes, List.append_assoc, List.singleton_append]

/-- Arguments have lexemes (`argumentLexemes`). -/
private theorem argumentLexemes_ne_nil {arguments : List Argument} (hne : arguments ≠ []) :
    argumentLexemes arguments ≠ [] := by
  cases arguments with
  | nil => exact absurd rfl hne
  | cons a rest =>
    cases a with
    | mk keyword value => simp [argumentLexemes]

/-- Arguments on one line (`inlineLexemes`) are read up to the end of their call. -/
private theorem steps?_inlineArguments {arguments : List Argument} (hne : arguments ≠ [])
    (h : ∀ keyword value, .mk keyword value ∈ arguments → ReadsExpr value.lexemes value.tree)
    (ps : List Tree) (ks : List (String × Tree)) (horder : InOrder (ks.map (·.1)) arguments) :
    Reader.steps? ⟨.call left function ps ks none :: stack, .item⟩
        (inlineLexemes (argumentLexemes arguments) ++ [.mark .closeRound]) =
      some ⟨stack, .after left (.call function (ps ++ positionalTrees arguments)
        (ks ++ keywordTrees arguments))⟩ := by
  induction arguments generalizing ps ks with
  | nil => exact absurd rfl hne
  | cons a rest ih =>
    cases a with
    | mk keyword value =>
      obtain ⟨next, hsteps, hvalue, hadd, hrest⟩ :=
        steps?_argument left function stack (h keyword value List.mem_cons_self) ps ks horder
      -- no comma follows the last argument, so the bracket has to add it
      by_cases hlast : rest = []
      · subst hlast
        have hclose := close?_of_value stack .closeRound hvalue hadd rfl
        rw [argumentLexemes, argumentLexemes, inlineLexemes, Reader.steps?_append, hsteps]
        simp [Reader.steps?, Reader.step?, Reader.stepMark?, hclose]
      · have hitems := ih hlast (fun k v hmem => h k v (List.mem_cons_of_mem _ hmem))
          (ps ++ positionalTrees [.mk keyword value]) (ks ++ keywordTrees [.mk keyword value]) hrest
        have hcomma := steps?_comma stack hvalue hadd
        rw [argumentLexemes, inlineLexemes_cons (argumentLexemes_ne_nil hlast), List.append_assoc,
          List.append_assoc, Reader.steps?_append, hsteps, Option.bind_some, Reader.steps?_append,
          hcomma, Option.bind_some, hitems, positionalTrees_cons _ rest, keywordTrees_cons _ rest,
          List.append_assoc, List.append_assoc]

/-- A call is read as its function and its arguments (`ReadsExpr`). -/
private theorem readsOperand_call {path : String} {stacked : Bool} {arguments : List Argument}
    (hpath : IsPath path) (hsome : stacked = true ∨ arguments ≠ []) (horder : InOrder [] arguments)
    (h : ∀ keyword value, .mk keyword value ∈ arguments → ReadsExpr value.lexemes value.tree) :
    ReadsOperand (Expr.call path stacked arguments).lexemes
      (Expr.call path stacked arguments).tree := by
  intro stack focus left hfocus
  have hfunction := readsOperand_path hpath stack focus left hfocus
  -- with a line for each argument, or with all on one line
  cases stacked with
  | true =>
    have hitems := steps?_stackedArguments left (pathTree path) stack h [] [] horder
    have hopen : Reader.steps? ⟨stack, .after left (pathTree path)⟩ [.mark .openRound, .newline] =
        some ⟨.call left (pathTree path) [] [] none :: stack, .item⟩ := by
      simp [Reader.steps?, Reader.step?, Reader.stepMark?]
    rw [Expr.lexemes, Expr.tree, Reader.steps?_append, Reader.steps?_append, Reader.steps?_append,
      hfunction, Option.bind_some, hopen, Option.bind_some, hitems]
    rfl
  | false =>
    have hitems := steps?_inlineArguments left (pathTree path) stack
      (hsome.resolve_left (by simp)) h [] [] horder
    have hopen : Reader.steps? ⟨stack, .after left (pathTree path)⟩ [.mark .openRound] =
        some ⟨.call left (pathTree path) [] [] none :: stack, .item⟩ := by
      simp [Reader.steps?, Reader.step?, Reader.stepMark?]
    rw [Expr.lexemes, Expr.tree, List.append_assoc, Reader.steps?_append, Reader.steps?_append,
      hfunction, Option.bind_some, hopen, Option.bind_some, hitems]
    rfl

end

/-! ### Entries -/

/-- Entries on lines of their own are read into the frame of their dictionary. -/
private theorem steps?_stackedPairs (left : Option Tree) (stack : List Frame) {entries : List Pair}
    (h : ∀ key value, .mk key value ∈ entries →
      ReadsExpr key.lexemes key.tree ∧ ReadsExpr value.lexemes value.tree)
    (read : List (Tree × Tree)) :
    Reader.steps? ⟨.dict left read none :: stack, .item⟩ (stackedLexemes (pairLexemes entries)) =
      some ⟨.dict left (read ++ pairTrees entries) none :: stack, .item⟩ := by
  induction entries generalizing read with
  | nil => simp [pairLexemes, stackedLexemes, pairTrees, Reader.steps?]
  | cons p rest ih =>
    cases p with
    | mk key value =>
      obtain ⟨hkey, hvalue⟩ := h key value List.mem_cons_self
      obtain ⟨first, hfirst, hkeyTree⟩ := hkey (.dict left read none :: stack) .item rfl
      obtain ⟨second, hsecond, hvalueTree⟩ :=
        hvalue (.dict left read (some key.tree) :: stack) (.operand none) rfl
      -- the colon moves the key into the frame, and the end of the line adds the pair
      have hcolon : Reader.steps? ⟨.dict left read none :: stack, first⟩ [.mark .colon] =
          some ⟨.dict left read (some key.tree) :: stack, .operand none⟩ := by
        simp [Reader.steps?, Reader.step?, Reader.stepMark?, hkeyTree]
      have hadd : (Frame.dict left read (some key.tree)).add? value.tree =
          some (.dict left (read ++ [(key.tree, value.tree)]) none) := rfl
      have hline := steps?_line stack hvalueTree hadd
      rw [pairLexemes, stackedLexemes, List.flatMap_cons, Reader.steps?_append,
        Reader.steps?_append, Reader.steps?_append, Reader.steps?_append, hfirst, Option.bind_some,
        hcolon, Option.bind_some, hsecond, Option.bind_some, hline, Option.bind_some,
        ← stackedLexemes, ih fun k v hmem => h k v (List.mem_cons_of_mem _ hmem)]
      rw [pairTrees, List.append_assoc, List.singleton_append]

/-- A dictionary (`Expr.dict`) is read as its entries. -/
private theorem readsOperand_dict {entries : List Pair}
    (h : ∀ key value, .mk key value ∈ entries →
      ReadsExpr key.lexemes key.tree ∧ ReadsExpr value.lexemes value.tree) :
    ReadsOperand (Expr.dict entries).lexemes (Expr.dict entries).tree := by
  intro stack focus left hfocus
  rw [Expr.lexemes, Expr.tree]
  cases entries with
  -- empty brackets close at once
  | nil => simp [Reader.steps?, Reader.step?, Reader.stepMark?, hfocus, Reader.close?,
      Frame.close?, pairTrees]
  | cons p rest =>
    have hitems := steps?_stackedPairs left stack h []
    have hopen : Reader.steps? ⟨stack, focus⟩ [.mark .openCurly, .newline] =
        some ⟨.dict left [] none :: stack, .item⟩ := by
      simp [Reader.steps?, Reader.step?, Reader.stepMark?, hfocus]
    rw [List.isEmpty_cons, if_neg (by simp), Reader.steps?_append, Reader.steps?_append, hopen,
      Option.bind_some, hitems]
    rfl

/-! ### Expressions -/

/-- An expression that reads as an operand (`ReadsOperand`) does so wherever expressions are read.
-/
theorem ReadsOperand.both {e : Expr} (h : ReadsOperand e.lexemes e.tree) :
    ReadsExpr e.lexemes e.tree ∧ (e.isOperand = true → ReadsOperand e.lexemes e.tree) :=
  ⟨h.readsExpr, fun _ => h⟩

mutual

/-- The lexemes of an expression (`Expr.lexemes`) are read as its tree. -/
theorem reads_expr : ∀ e : Expr, e.Readable →
    ReadsExpr e.lexemes e.tree ∧ (e.isOperand = true → ReadsOperand e.lexemes e.tree)
  | .literal s, _ => by
    refine ReadsOperand.both ?_
    rw [Expr.lexemes, Expr.tree]
    exact readsOperand_text s
  | .number n, _ => by
    refine ReadsOperand.both ?_
    rw [Expr.lexemes, Expr.tree]
    exact readsOperand_number n
  | .name path, h => by
    rw [Expr.Readable] at h
    refine ReadsOperand.both ?_
    rw [Expr.lexemes, Expr.tree]
    exact readsOperand_path h
  | .join left right, h => by
    rw [Expr.Readable] at h
    rw [Expr.lexemes, Expr.tree]
    -- the right side is no sum itself: else it would be taken apart, as sums are read to the left
    refine ⟨(reads_expr left h.1).1.sum ((reads_expr right h.2.1).2 h.2.2), ?_⟩
    intro hoperand
    cases hoperand
  | .call function stacked arguments, h => by
    rw [Expr.Readable] at h
    obtain ⟨hfunction, hsome, horder, harguments⟩ := h
    exact (readsOperand_call hfunction hsome horder (reads_arguments arguments harguments)).both
  | .dict entries, h => by
    rw [Expr.Readable] at h
    exact (readsOperand_dict (reads_pairs entries h)).both
  | .data _, h => by
    rw [Expr.Readable] at h
    exact h.elim
  | .tuple _, h => by
    rw [Expr.Readable] at h
    exact h.elim

/-- The lexemes of the values of arguments (`arguments`) are read as their trees. -/
theorem reads_arguments : ∀ arguments : List Argument, ReadableArguments arguments →
    ∀ keyword value, .mk keyword value ∈ arguments → ReadsExpr value.lexemes value.tree
  | [], _ => by simp
  | .mk keyword value :: rest, h => by
    rw [ReadableArguments] at h
    intro k v hmem
    rcases List.mem_cons.1 hmem with heq | hmem
    · cases heq
      exact (reads_expr value h.1).1
    · exact reads_arguments rest h.2 k v hmem

/-- The lexemes of the keys and values (`pairLexemes`) of a dictionary are read as their trees. -/
theorem reads_pairs : ∀ entries : List Pair, ReadablePairs entries →
    ∀ key value, .mk key value ∈ entries →
      ReadsExpr key.lexemes key.tree ∧ ReadsExpr value.lexemes value.tree
  | [], _ => by simp
  | .mk key value :: rest, h => by
    rw [ReadablePairs] at h
    intro k v hmem
    rcases List.mem_cons.1 hmem with heq | hmem
    · cases heq
      exact ⟨(reads_expr key h.1).1, (reads_expr value h.2.1).1⟩
    · exact reads_pairs rest h.2.2 k v hmem

end

/-- The text of a readable expression (`print`), at any indentation, reads back as its tree. -/
theorem read_print {e : Expr} (h : e.Readable) {indent : String} (hindent : IsIndent indent) :
    read (e.print indent) = some e.tree := by
  obtain ⟨next, hsteps, hvalue⟩ := (reads_expr e h).1 [] (.operand none) rfl
  rw [read, (lexes_print indent hindent e h).lex_eq, Option.bind_some, hsteps, Option.bind_some,
    Reader.value?, ← hvalue]
  rfl

end Parlance.Code
