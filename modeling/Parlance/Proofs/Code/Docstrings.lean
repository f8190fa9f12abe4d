import Parlance.Proofs.Code.Overriding
import Parlance.Proofs.Code.Quoting

/-!
# Documentation strings of any lines

A documentation string is read as its lines, laid out as they stand in it, and ends with its text:
no line can end it early, whatever quotes, backslashes and control characters the line holds
(`read?_docRaw`). So the documentation of an entry stands in the module, and is read as the lines of
the description, of the context and of the reference text (`docPoints_reads`).
-/

namespace Parlance.Quoted

open Parlance.Text Parlance.Code

/-! ## Writing -/

/-- The code points of a text. -/
def pointsOf (s : String) : List CodePoint := points s.toList

/-- The line feed. -/
def newline : CodePoint := .ofChar '\n'

/-- The blank that indentation is made of. -/
def blank : CodePoint := .ofChar ' '

/-- Lines behind a first one, each written in some way behind a line feed and the indentation. An
empty line is not indented; behind the last one there is a line for what follows. -/
def layOut (write : List CodePoint → List CodePoint) (indent : List CodePoint)
    (lines : List (List CodePoint)) : List CodePoint :=
  if lines.isEmpty then []
  else
    (lines.flatMap fun line => newline :: if line.isEmpty then [] else indent ++ write line) ++
      newline :: indent

/-- The lines of a documentation string as they stand between its quotes. -/
def docRaw (indent first : List CodePoint) (rest : List (List CodePoint)) : List CodePoint :=
  escapePoints first ++ layOut escapePoints indent rest

/-- The lines of a documentation string as they are read from it. -/
def docValue (indent first : List CodePoint) (rest : List (List CodePoint)) : List CodePoint :=
  first ++ layOut id indent rest

/-- The documentation string of some lines. -/
def docPoints (indent first : List CodePoint) (rest : List (List CodePoint)) : List CodePoint :=
  indent ++ Quotes.triple.marks ++ docRaw indent first rest ++ Quotes.triple.marks

/-- The code points of `s ++ t` are those of `s` and then those of `t`. -/
@[simp]
private theorem pointsOf_append (s t : String) : pointsOf (s ++ t) = pointsOf s ++ pointsOf t := by
  simp [pointsOf]

/-- Lines that are joined stand behind a line feed each. -/
private theorem pointsOf_intercalate_newline {texts : List String} (h : texts ≠ []) :
    pointsOf ("\n" ++ "\n".intercalate texts) = texts.flatMap fun s => newline :: pointsOf s := by
  induction texts with
  | nil => exact absurd rfl h
  | cons first rest ih =>
    cases rest with
    | nil => simp [pointsOf, newline]
    | cons second more =>
      have hrest := ih (by simp)
      rw [String.intercalate_cons_cons, List.flatMap_cons, ← hrest]
      simp [pointsOf, newline]

/-- For lines of characters it is the documentation string that the program writes (`docString`). -/
theorem pointsOf_docString (indent first : String) (rest : List String) :
    pointsOf (docString indent first rest) =
      docPoints (pointsOf indent) (pointsOf first) (rest.map pointsOf) := by
  have hescape : ∀ s, pointsOf (escape s) = escapePoints (pointsOf s) := by
    intro s
    simp [pointsOf, escape]
  have hline : ∀ line, pointsOf (docLine indent line) =
      if (pointsOf line).isEmpty then [] else pointsOf indent ++ escapePoints (pointsOf line) := by
    intro line
    have hempty : (pointsOf line).isEmpty = line.isEmpty := by
      rw [Bool.eq_iff_iff, List.isEmpty_iff, String.isEmpty_iff, pointsOf, points,
        List.map_eq_nil_iff, String.toList_eq_nil_iff]
    rw [docLine, hempty]
    split
    · rfl
    · rw [pointsOf_append, hescape]
  have hmarks : pointsOf "\"\"\"" = Quotes.triple.marks := rfl
  -- one line stands alone between the quotes; more are laid out below the first
  cases rest with
  | nil => simp [docString, docPoints, docRaw, layOut, hescape, hmarks]
  | cons second more =>
    have hne : (second :: more).map (docLine indent) ≠ [] := by simp
    have hlines := pointsOf_intercalate_newline hne
    have hlayOut : docString indent first (second :: more) = indent ++ "\"\"\"" ++ escape first ++
        ("\n" ++ "\n".intercalate ((second :: more).map (docLine indent))) ++ "\n" ++ indent ++
          "\"\"\"" := by
      simp [docString, String.append_assoc]
    have hfeed : pointsOf "\n" = [newline] := rfl
    simp only [hlayOut, pointsOf_append, hlines, List.flatMap_map, hline, hescape, hmarks, hfeed]
    simp [docPoints, docRaw, layOut, List.flatMap_map]

/-! ## Reading -/

/-- A line feed stands (`Stands`) for itself in triple quotes. -/
theorem stands_newline : Stands .triple [newline] [newline] :=
  .itself (by decide) (by decide) rfl

/-- Blanks stand (`Stands`) for themselves. -/
private theorem stands_replicate_blank (width : Nat) :
    Stands .triple (List.replicate width blank) (List.replicate width blank) := by
  apply Stands.self
  intro p hp
  rw [List.eq_of_mem_replicate hp]
  exact .itself (by decide) (by decide) rfl

/-- Lines that are written with escapes stand (`Stands`) for the lines. -/
private theorem stands_layOut {indent : List CodePoint} (hindent : Stands .triple indent indent)
    (lines : List (List CodePoint)) :
    Stands .triple (layOut escapePoints indent lines) (layOut id indent lines) := by
  have hend : Stands .triple (newline :: indent) (newline :: indent) :=
    stands_newline.append hindent
  have hlines : Stands .triple
      (lines.flatMap fun line =>
        newline :: if line.isEmpty then [] else indent ++ escapePoints line)
      (lines.flatMap fun line => newline :: if line.isEmpty then [] else indent ++ line) := by
    -- empty lines get no indentation
    induction lines with
    | nil => exact .nil
    | cons line rest ih =>
      have hline : Stands .triple (if line.isEmpty then [] else indent ++ escapePoints line)
          (if line.isEmpty then [] else indent ++ line) := by
        split
        · exact .nil
        · exact hindent.append (stands_escapePoints line)
      rw [List.flatMap_cons, List.flatMap_cons]
      exact (stands_newline.append hline).append ih
  rw [layOut, layOut]
  split
  · exact .nil
  · exact hlines.append hend

/-- A documentation string is read (`read?`) as its lines, and ends where its text ends. -/
theorem read?_docRaw {indent : List CodePoint} (hindent : Stands .triple indent indent)
    (first : List CodePoint) (rest : List (List CodePoint)) (after : List CodePoint) :
    read? .triple
        (Quotes.triple.marks ++ docRaw indent first rest ++ Quotes.triple.marks ++ after) =
      some (docValue indent first rest, after) :=
  read?_of_stands ((stands_escapePoints first).append (stands_layOut hindent rest)) after

/-! ## Lines of a text with something in front -/

/-- A text that is not empty has a line (`linesOf`). -/
private theorem linesOf_ne_nil {s : List Char} (h : s ≠ []) : linesOf s ≠ [] := by
  induction s using linesOf.induct with
  | case1 => exact absurd rfl h
  | case2 rest ih => simp [linesOf]
  | case3 c rest hc hbreak ih => simp [linesOf.eq_3 _ _ hc, hbreak]
  | case4 c rest hc hbreak hlines ih => simp [linesOf.eq_3 _ _ hc, hbreak, hlines]
  | case5 c rest hc hbreak line more hlines ih => simp [linesOf.eq_3 _ _ hc, hbreak, hlines]

/-- Characters that end no line (`isLineBreak`) go to the first line of what follows them. -/
private theorem linesOf_append {opening s first : List Char} {rest : List (List Char)}
    (hopening : ∀ c ∈ opening, isLineBreak c = false) (h : linesOf s = first :: rest) :
    linesOf (opening ++ s) = (opening ++ first) :: rest := by
  induction opening with
  | nil => exact h
  | cons c more ih =>
    obtain ⟨hc, hmore⟩ := List.forall_mem_cons.1 hopening
    -- the opening has no half of a pair of a carriage return and a line feed
    have hreturn : ∀ after, c = '\r' → more ++ s = '\n' :: after → False := by
      rintro after rfl
      cases hc
    rw [List.cons_append, linesOf.eq_3 _ _ hreturn, hc, ih hmore]
    rfl

/-- A text that is not empty has `lines`. -/
private theorem lines_ne_nil {s : String} (h : s ≠ "") : lines s ≠ [] := by
  have hnonempty : s.toList ≠ [] := fun hnil => h (String.toList_eq_nil_iff.1 hnil)
  rw [lines, ne_eq, List.map_eq_nil_iff]
  exact linesOf_ne_nil hnonempty

/-- The lines (`lines`) of a text with something in front that ends no line. -/
private theorem lines_append {opening s first : String} {rest : List String}
    (hopening : opening.toList.all (isLineBreak · = false) = true) (h : lines s = first :: rest) :
    lines (opening ++ s) = (opening ++ first) :: rest := by
  obtain ⟨line, more, hlines, hfirst, hrest⟩ := List.map_eq_cons_iff.1 h
  have hboth := linesOf_append (by simpa using hopening) hlines
  rw [lines, String.toList_append, hboth, List.map_cons, String.ofList_append, String.ofList_toList,
    hfirst, hrest]

/-! ## The documentation of an entry -/

/-- The description of an entry as it is documented. -/
def shownDescription (e : Entry) : String :=
  (e.description.filter fun d => !d.isEmpty).getD s!"No description provided for {e.key}."

/-- The lines for the context of an entry: an empty one, and the lines of the context. -/
def contextLines (e : Entry) : List String :=
  match (e.context.map lines).getD [] with
  | [] => []
  | first :: rest => "" :: ("Context: " ++ first) :: rest

/-- The lines for the reference text of an entry, each in quotes. -/
def referenceLines (e : Entry) : List String := (cutAt '\n' e.reference).map fun l => s!"'{l}'"

/-- All lines for an entry. -/
def documentedLines (plan : Plan) (e : Entry) : List String :=
  lines (shownDescription e) ++ contextLines e ++
    ["", s!"In {plan.templateLocale.tag}, this message translates to:"] ++ referenceLines e

/-- Some description is always shown (`shownDescription`), the default one if need be. -/
private theorem shownDescription_ne_empty (e : Entry) : shownDescription e ≠ "" := by
  have hdefault : s!"No description provided for {e.key}." ≠ "" := by
    intro h
    have hlength := congrArg String.length h
    simp [toString] at hlength
  rw [shownDescription]
  -- an empty description counts as none
  cases hfilter : e.description.filter fun d => !d.isEmpty with
  | none => exact hdefault
  | some d =>
    obtain ⟨_, hd⟩ := Option.filter_eq_some_iff.1 hfilter
    simpa [String.isEmpty_iff] using hd

/-- The description (`shownDescription`) is the given one unless that is empty. -/
private theorem shownDescription_eq (e : Entry) :
    shownDescription e = match e.description with
      | some d => if d.isEmpty then s!"No description provided for {e.key}." else d
      | none => s!"No description provided for {e.key}." := by
  rw [shownDescription]
  cases e.description with
  | none => rfl
  | some d => cases hempty : d.isEmpty <;> simp [Option.filter, hempty]

/-- The lines of the context (`contextLines`) are those of the context behind its heading. -/
private theorem contextLines_eq (e : Entry) :
    contextLines e = match e.context with
      | some c => if c.isEmpty then [] else "" :: lines s!"Context: {c}"
      | none => [] := by
  rw [contextLines]
  cases e.context with
  | none => rfl
  | some c =>
    -- an empty context is not shown at all
    by_cases hempty : c = ""
    · subst hempty
      rfl
    · have hheading : "Context: ".toList.all (isLineBreak · = false) = true := by decide +kernel
      obtain ⟨first, rest, hlines⟩ := List.exists_cons_of_ne_nil (lines_ne_nil hempty)
      have hshown := lines_append hheading hlines
      have htext : s!"Context: {c}" = "Context: " ++ c := rfl
      have hnonempty : c.isEmpty = false := by simpa [String.isEmpty_iff] using hempty
      simp [hnonempty, htext, hlines, hshown]

/-- The lines of the documentation (`documentation`) of an entry are these. -/
theorem cons_documentation (plan : Plan) (e : Entry) :
    (documentation plan e).1 :: (documentation plan e).2 = documentedLines plan e := by
  have hdocumentation : documentation plan e =
      match lines (shownDescription e) with
      | [] => ("", contextLines e ++
          ["", s!"In {plan.templateLocale.tag}, this message translates to:"] ++ referenceLines e)
      | first :: more => (first, more ++ (contextLines e ++
          ["", s!"In {plan.templateLocale.tag}, this message translates to:"] ++
            referenceLines e)) := by
    rw [shownDescription_eq, contextLines_eq]
    rfl
  -- a description that is shown has a first line
  obtain ⟨first, rest, hlines⟩ :=
    List.exists_cons_of_ne_nil (lines_ne_nil (shownDescription_ne_empty e))
  rw [hdocumentation, documentedLines, hlines]
  simp

/-! ## Documentation strings in the module -/

/-- What is written for one of some members stands in what is written for all. -/
private theorem exists_append_of_joinMapped {f : Member → Except Failure String}
    {members : List Member}
    {text : String} (h : joinMapped f members = .ok text) {m : Member} (hm : m ∈ members) :
    ∃ before s after, f m = .ok s ∧ text = before ++ s ++ after := by
  obtain ⟨texts, htexts, heq⟩ := forall₂_of_joinMapped h
  obtain ⟨s, hmem, hs⟩ := exists_mem_of_forall₂ htexts.flip hm
  obtain ⟨front, back, hsplit⟩ := List.append_of_mem hmem
  refine ⟨String.join front, s, String.join back, hs, ?_⟩
  rw [heq, hsplit, String.join_append, String.join_cons, String.append_assoc]

/-- A documentation string (`docString`) ends with a quote. -/
private theorem getLast?_docString (indent first : String) (rest : List String) :
    (docString indent first rest).toList.getLast? = some '"' := by
  have hquotes : "\"\"\"".toList.getLast? = some '"' := rfl
  dsimp only [docString]
  split
  · exact getLast?_toList_append hquotes _
  · exact getLast?_toList_append hquotes _

/-- An abstract member (`abstractMember`) is its head, its documentation string and a line feed. -/
private theorem abstractMember_eq (plan : Plan) (m : Member) :
    abstractMember plan m = (accessorHead plan m true).map fun head =>
      head ++ docString bodyIndent (documentation plan m.entry).1 (documentation plan m.entry).2 ++
        "\n" :=
  rfl

/-- The head and the documentation (`accessorHead`, `documentation`) of an abstract member stand in
the module. -/
theorem exists_append_of_member {plan : Plan} {source : String} (h : emit plan = .ok source)
    {m : Member} (hm : m ∈ plan.members) :
    ∃ before head after, accessorHead plan m true = .ok head ∧
      source = before ++ head ++
        docString bodyIndent (documentation plan m.entry).1 (documentation plan m.entry).2 ++
          after := by
  obtain ⟨bs, hblocks, _⟩ := map_eq_ok_iff.1 h
  obtain ⟨base, classes, factories, hbase, _, _, hbs⟩ := parts_of_blocks hblocks
  obtain ⟨heading, members, _, hmembers, htext⟩ := exists_members_of_baseClassBlock hbase
  obtain ⟨front, member, back, hmember, hjoined⟩ := exists_append_of_joinMapped hmembers hm
  rw [abstractMember_eq] at hmember
  obtain ⟨head, hhead, rfl⟩ := map_eq_ok_iff.1 hmember
  have hlast := getLast?_toList_append (getLast?_docString bodyIndent
    (documentation plan m.entry).1 (documentation plan m.entry).2) head
  have hblock : base = heading ++ front ++ (head ++
      docString bodyIndent (documentation plan m.entry).1 (documentation plan m.entry).2) ++
        ("\n" ++ back) := by
    rw [htext, hjoined]
    simp only [String.append_assoc]
  -- the line feed behind the documentation may be dropped at the end of the block
  have hmem : base ∈ bs := by simp [hbs]
  rw [hblock] at hmem
  obtain ⟨before, after, hsource⟩ := exists_append_of_block h hblocks hmem hlast (by decide)
  refine ⟨before, head, after, hhead, ?_⟩
  rw [hsource]
  simp only [String.append_assoc]

/-- A documentation string is its indentation and a literal (`literal`) that is read as the lines.
-/
private theorem exists_literal_of_docPoints {indent : List CodePoint}
    (hindent : Stands .triple indent indent) (first : List CodePoint)
    (rest : List (List CodePoint)) :
    ∃ literal, docPoints indent first rest = indent ++ literal ∧
      ∀ after, read? .triple (literal ++ after) = some (docValue indent first rest, after) := by
  refine ⟨Quotes.triple.marks ++ docRaw indent first rest ++ Quotes.triple.marks, ?_, ?_⟩
  · simp only [docPoints, List.append_assoc]
  · exact read?_docRaw hindent first rest

/-- The indentation of a body (`bodyIndent`) is eight blanks. -/
private theorem pointsOf_bodyIndent : pointsOf bodyIndent = List.replicate 8 blank := by
  decide +kernel

/-- The documentation string of some lines (`docPoints`) is read as these lines whatever follows,
for lines of any code points and any indentation by blanks; the strings that the program writes are
of this form. In a module the abstract member of each entry has one, and its lines are those of the
description, of the context and of the reference text. -/
theorem docPoints_reads :
    (∀ (width : Nat) (first : List CodePoint) (rest : List (List CodePoint)),
      ∃ literal, docPoints (List.replicate width blank) first rest =
          List.replicate width blank ++ literal ∧
        ∀ after, read? .triple (literal ++ after) =
          some (docValue (List.replicate width blank) first rest, after)) ∧
    (∀ indent first rest, pointsOf (docString indent first rest) =
      docPoints (pointsOf indent) (pointsOf first) (rest.map pointsOf)) ∧
    ∀ entries locales templateLocale options plan source,
      Plan.make entries locales templateLocale options = .ok plan → emit plan = .ok source →
      ∀ e ∈ entries, ∃ m ∈ plan.members, m.entry = e ∧
        ∃ before head literal after first rest, accessorHead plan m true = .ok head ∧
          pointsOf source = pointsOf (before ++ head ++ bodyIndent) ++ literal ++ pointsOf after ∧
          first :: rest = documentedLines plan e ∧
          ∀ following, read? .triple (literal ++ following) =
            some (docValue (pointsOf bodyIndent) (pointsOf first) (rest.map pointsOf),
              following) := by
  refine ⟨?_, pointsOf_docString, ?_⟩
  · intro width first rest
    exact exists_literal_of_docPoints (stands_replicate_blank width) first rest
  · intro entries locales templateLocale options plan source hplan hemit e he
    rw [← map_entry_of_make hplan] at he
    obtain ⟨m, hm, hentry⟩ := List.mem_map.1 he
    -- the string stands in the module behind the head of the member
    obtain ⟨before, head, after, hhead, hsource⟩ := exists_append_of_member hemit hm
    have hindent : Stands .triple (pointsOf bodyIndent) (pointsOf bodyIndent) := by
      rw [pointsOf_bodyIndent]
      exact stands_replicate_blank 8
    obtain ⟨literal, hliteral, hreads⟩ := exists_literal_of_docPoints hindent
      (pointsOf (documentation plan m.entry).1) ((documentation plan m.entry).2.map pointsOf)
    refine ⟨m, hm, hentry, before, head, literal, after, (documentation plan m.entry).1,
      (documentation plan m.entry).2, hhead, ?_, ?_, hreads⟩
    · -- in code points: all around the literal, and the literal itself
      rw [hsource]
      simp only [pointsOf_append, pointsOf_docString, hliteral, List.append_assoc]
    · rw [← hentry, cons_documentation]

/-- An entry that is documented with quotes, a backslash at the end of a line, and two lines of
context. -/
def quotingEntry : Entry :=
  { underscoredEntry with
    key := "greeting"
    description := some "Say \"\"\"Hi\"\"\"\\"
    context := some "Door\nbell\"" }

/-- Quotes, a backslash and a line feed (`quotingEntry`) within the description and the context. -/
theorem docPoints_reads_quoting :
    ∃ plan source, Plan.make [quotingEntry] [⟨"en", none, none, "en"⟩] ⟨"en", none, none, "en"⟩
        .standard = .ok plan ∧ emit plan = .ok source ∧
      ∃ before head literal after,
        pointsOf source = pointsOf (before ++ head ++ bodyIndent) ++ literal ++ pointsOf after ∧
        ∀ following, read? .triple (literal ++ following) =
          some (docValue (pointsOf bodyIndent) (pointsOf "Say \"\"\"Hi\"\"\"\\")
            (["", "Context: Door", "bell\"", "", "In en, this message translates to:",
              "'Hi'"].map pointsOf), following) := by
  have hwritten : (Plan.make [quotingEntry] [⟨"en", none, none, "en"⟩] ⟨"en", none, none, "en"⟩
      .standard).map (fun plan => (emit plan).isOk) = .ok true := by
    decide +kernel
  obtain ⟨plan, hplan, hemit⟩ := map_eq_ok_iff.1 hwritten
  obtain ⟨source, hsource⟩ := exists_eq_ok_of_isOk hemit
  obtain ⟨_, htemplate, _⟩ := options_of_make hplan
  -- the description ends in three quotes and a backslash
  have hlines : documentedLines plan quotingEntry =
      ["Say \"\"\"Hi\"\"\"\\", "", "Context: Door", "bell\"", "",
        "In en, this message translates to:", "'Hi'"] := by
    rw [documentedLines, htemplate]
    decide +kernel
  obtain ⟨_, _, hmodule⟩ := docPoints_reads
  obtain ⟨m, _, _, before, head, literal, after, first, rest, _, hpoints, hcons, hreads⟩ :=
    hmodule _ _ _ _ plan source hplan hsource quotingEntry List.mem_cons_self
  rw [hlines] at hcons
  cases hcons
  exact ⟨plan, source, hplan, hsource, before, head, literal, after, hpoints, hreads⟩

end Parlance.Quoted
