import Parlance.Proofs.Message.Shape

/-!
# Printing messages

A message is printed by writing its expressions in the syntax of the grammar and quoting its texts:
a mark is written twice and a brace between two marks. A `Layout` says which white space stands
where. Quoted text is read as what was quoted (`textRun_quote`), also where quoted characters are
neighbours. Messages that differ only in their spans are the same when `bare`.
-/

namespace Parlance.Grammar

open Parlance.Message Parlance.Number Parlance.Text Parlance.Token

/-! ## Runs of text -/

section

variable {q : Quoting} {depth : Nat} {c : Char} {rest : List Char}

/-- A run (`textRun`) of text ends where text ends. -/
theorem textRun_of_ends (hc : q.escape? ≠ some c) (h : endsText q depth (c :: rest) = true) :
    textRun q depth false (c :: rest) = ([], c :: rest) := by
  cases rest <;> simp [textRun, hc, h]

/-- A character that is no mark and ends nothing stands for itself (`textRun`). -/
theorem textRun_of_plain (hc : q.escape? ≠ some c) (h : endsText q depth (c :: rest) = false) :
    textRun q depth false (c :: rest) =
      (c :: (textRun q depth false rest).1, (textRun q depth false rest).2) := by
  cases rest <;> simp [textRun, hc, h]

end

/-! ## Quoted text -/

/-- A character of literal text as it is written. -/
def quoteChar (mark c : Char) : List Char :=
  if c = mark then [mark, mark]
  else if c = '\x7b' ∨ c = '\x7d' then [mark, c, mark]
  else [c]

/-- Literal text as it is written. -/
def quote (mark : Char) (s : List Char) : List Char := s.flatMap (quoteChar mark)

/-- Quoting by a mark. -/
def quotingBy (mark : Char) : Quoting := ⟨true, String.singleton mark⟩

/-- With quoting (`quotingBy`) by a mark, the mark is the escape. -/
@[simp] private theorem escape?_quotingBy (mark : Char) : (quotingBy mark).escape? = some mark := by
  simp [quotingBy, Quoting.escape?]

section

variable {mark : Char} {depth : Nat}

/-- With quoting on, text ends (`endsText`) before every brace but a mark. -/
private theorem endsText_quotingBy (c : Char) (rest : List Char) :
    endsText (quotingBy mark) depth (c :: rest) =
      (mark != c && (c == '\x7b' || c == '\x7d')) := by
  rw [endsText, escape?_quotingBy]
  simp [opensExpression, quotingBy, bne]

/-- Whether text ends here, at a brace or at the end. -/
def AtBrace (rest : List Char) : Prop := ∀ c ∈ rest.head?, c = '\x7b' ∨ c = '\x7d'

/-- The end of a text counts as a brace (`AtBrace`). -/
theorem atBrace_nil : AtBrace [] := nofun

/-- A text that begins with a brace (`AtBrace`) is at one. -/
theorem atBrace_cons {c : Char} (hc : c = '\x7b' ∨ c = '\x7d') (rest : List Char) :
    AtBrace (c :: rest) := by
  intro d hd
  obtain rfl : c = d := by simpa using hd
  exact hc

/-- Quoted (`quote`) text begins with nothing that ends text. -/
theorem endsText_quote (mark : Char) (depth : Nat) {s : List Char} (hne : s ≠ [])
    (rest : List Char) :
    quote mark s ≠ [] ∧ endsText (quotingBy mark) depth (quote mark s ++ rest) = false := by
  cases s with
  | nil => exact absurd rfl hne
  | cons c s =>
    rw [quote, List.flatMap_cons, ← quote, List.append_assoc, quoteChar]
    split
    · simp [endsText_quotingBy]
    · split
      · simp [endsText_quotingBy]
      · next hbrace => simpa [endsText_quotingBy] using fun _ => not_or.1 hbrace

variable (hopen : mark ≠ '\x7b') (hclose : mark ≠ '\x7d')

include hopen hclose

/-- Text ends (`endsText`) before every brace that is no mark. -/
theorem endsText_brace (depth : Nat) {c : Char} (hc : c = '\x7b' ∨ c = '\x7d') (rest : List Char) :
    endsText (quotingBy mark) depth (c :: rest) = true := by
  rcases hc with rfl | rfl <;> simp [endsText_quotingBy, hopen, hclose]

/-- Text ends at once where there is none (`AtBrace`). -/
private theorem textRun_atBrace {rest : List Char} (hrest : AtBrace rest) :
    textRun (quotingBy mark) depth false rest = ([], rest) := by
  cases rest with
  | nil => rfl
  | cons c more =>
    have hends := endsText_brace hopen hclose depth (hrest c rfl) more
    have hne : mark ≠ c := by
      rw [endsText_quotingBy] at hends
      simpa using (Bool.and_eq_true_iff.1 hends).1
    exact textRun_of_ends (by simpa using hne) hends

/-- Quoted (`quote`) text is read as what was quoted. -/
theorem textRun_quote (s : List Char) {rest : List Char} (hrest : AtBrace rest) :
    textRun (quotingBy mark) depth false (quote mark s ++ rest) = (s, rest) := by
  induction s with
  | nil => exact textRun_atBrace hopen hclose hrest
  | cons c s ih =>
    rw [quote, List.flatMap_cons, ← quote, List.append_assoc, quoteChar]
    by_cases hmark : c = mark
    · subst hmark
      simp [textRun, ih]
    · by_cases hbrace : c = '\x7b' ∨ c = '\x7d'
      · -- the mark after the brace ends the quoting, whatever it stands before
        simp [textRun, hmark, hbrace, Ne.symm hmark, ih]
      · have hends : endsText (quotingBy mark) depth (c :: (quote mark s ++ rest)) = false := by
          rw [endsText_quotingBy]
          simpa using fun _ => not_or.1 hbrace
        rw [if_neg hmark, if_neg hbrace, List.singleton_append,
          textRun_of_plain (by simpa using Ne.symm hmark) hends, ih]

end

/-! ## Layouts -/

/-- A run of white space. -/
structure Gap where
  chars : List Char
  blank : ∀ c ∈ chars, isBlank c = true

/-- No white space. -/
def Gap.none : Gap := ⟨[], by simp⟩

/-- Which white space stands where in an expression. -/
structure Layout where
  /-- After the opening brace and before the closing one. -/
  inside : Gap
  beforeComma : Gap
  afterComma : Gap
  beforeKey : Gap
  afterEquals : Gap
  afterKey : Gap

/-- Expressions without white space. -/
def Layout.tight : Layout := ⟨.none, .none, .none, .none, .none, .none⟩

/-! ## Messages as they are written -/

section

variable (l : Layout)

/-- The brace and the name at the start of an expression. -/
def openingChars (name : String) : List Char := '\x7b' :: (l.inside.chars ++ name.toList)

/-- A comma in an expression. -/
def commaChars : List Char := l.beforeComma.chars ++ ',' :: l.afterComma.chars

/-- The start of an expression with a keyword. -/
def headChars (name keyword : String) : List Char :=
  openingChars l name ++ (commaChars l ++ keyword.toList)

/-- The brace at the end of an expression. -/
def closingChars : List Char := l.inside.chars ++ ['\x7d']

/-- The key of a branch. -/
def labelChars : Key → List Char
  | .exact n => '=' :: (l.afterEquals.chars ++ decimalDigits n)
  | .word w => w.toList

/-- The brace at the start of a branch. -/
def branchOpeningChars : List Char := l.afterKey.chars ++ ['\x7b']

/-- The format of an argument. -/
def formatChars : Option String → List Char
  | none => []
  | some s => commaChars l ++ s.toList

variable (mark : Char)

mutual

/-- A node as it is written. -/
def nodeChars : Node → List Char
  | .text value _ => quote mark value.toList
  | .reference name _ => openingChars l name ++ closingChars l
  | .choice kind name branches _ =>
    headChars l name kind.keyword ++ (commaChars l ++ (branchesChars branches ++ closingChars l))
  | .argument name kind skeleton _ =>
    headChars l name kind.keyword ++ (formatChars l skeleton ++ closingChars l)

/-- The branches of a choice as they are written. -/
def branchesChars : List Branch → List Char
  | [] => []
  | .mk key message _ :: rest =>
    l.beforeKey.chars ++ (labelChars l key ++ (branchOpeningChars l ++
      (messageChars message ++ '\x7d' :: branchesChars rest)))

/-- A message as it is written. -/
def messageChars : List Node → List Char
  | [] => []
  | n :: rest => nodeChars n ++ messageChars rest

end

/-- A message printed. -/
def print (m : Message) : String := String.ofList (messageChars l mark m)

end

/-! ## Messages without spans -/

mutual

/-- A node without its spans. -/
def bareNode : Node → Node
  | .text value _ => .text value default
  | .reference name _ => .reference name default
  | .choice kind name branches _ => .choice kind name (bareBranches branches) default
  | .argument name kind skeleton _ => .argument name kind skeleton default

/-- Branches without their spans. -/
def bareBranches : List Branch → List Branch
  | [] => []
  | .mk key message _ :: rest => .mk key (bare message) default :: bareBranches rest

/-- A message without its spans. -/
def bare : List Node → List Node
  | [] => []
  | n :: rest => bareNode n :: bare rest

end

/-- No nodes have nothing to lose. -/
@[simp] theorem bare_nil : bare [] = [] := by rw [bare]

/-- Nodes lose their spans (`bare`) one by one. -/
@[simp] theorem bare_cons (n : Node) (rest : List Node) :
    bare (n :: rest) = bareNode n :: bare rest := by rw [bare]

/-- No branches have nothing to lose. -/
@[simp] theorem bareBranches_nil : bareBranches [] = [] := by rw [bareBranches]

/-- Branches lose their spans (`bareBranches`) one by one, and so do their messages. -/
@[simp] theorem bareBranches_cons (key : Key) (message : List Node) (span : Span)
    (rest : List Branch) :
    bareBranches (.mk key message span :: rest) =
      .mk key (bare message) default :: bareBranches rest := by
  rw [bareBranches]

/-- Branches keep their keys without spans (`bareBranches`). -/
theorem keys_bareBranches (branches : List Branch) :
    (bareBranches branches).map Branch.key = branches.map Branch.key := by
  induction branches with
  | nil => simp
  | cons b rest ih =>
    cases b with
    | mk key message span => simp [ih, Branch.key]

/-- A node without spans (`bareNode`) is a text if and only if it was one. -/
private theorem isText_bareNode (n : Node) : isText (bareNode n) = isText n := by
  cases n <;> simp [bareNode, isText]

/-- Texts are neighbours without spans (`bare`) where they are with them. -/
theorem separate_bare (nodes : List Node) : Separate (bare nodes) ↔ Separate nodes := by
  have hmap : bare nodes = nodes.map bareNode := by
    induction nodes with
    | nil => simp
    | cons n rest ih => simp [ih]
  simp only [Separate, hmap, List.isChain_map, isText_bareNode]

end Parlance.Grammar
