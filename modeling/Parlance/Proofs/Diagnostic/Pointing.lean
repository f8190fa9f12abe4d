import Mathlib.Algebra.GroupWithZero.Nat
import Mathlib.Data.List.TakeWhile
import Parlance.Fault
import Parlance.Proofs.Message.Places
import Parlance.Text.Pieces

/-!
# Where diagnostics point to

An offset lies on one line of a text, in one column (`OnLine`); the end of the line, where its line
feed or the end of the text stands, belongs to it. A caret stands below the line in that column
(`renderCaret_eq`). So the diagnostic of a text that is no message shows the line where reading has
stopped, and marks the character that was met there (`points_of_parse`).
-/

namespace Parlance

open Parlance.Grammar Parlance.Message Parlance.Text

/-- Whether an offset of a text lies on a line, and in which column. -/
structure OnLine (text : List Char) (index : Nat) (row : List Char) (column : Nat) : Prop where
  cut : ∃ before after, pieces '\n' text = before ++ row :: after ∧
    index = (before.map fun l => l.length + 1).sum + column
  column_le : column ≤ row.length

/-! ## Lines of joined pieces -/

/-- What is taken while `p` holds ends before the first character for which it fails. -/
private theorem takeWhile_append_cons {α : Type} {p : α → Bool} {c : α} (hc : p c = false)
    (xs ys : List α) : (xs ++ c :: ys).takeWhile p = xs.takeWhile p := by
  induction xs with
  | nil => simp [hc]
  | cons x xs ih => simp only [List.cons_append, List.takeWhile_cons, ih]

/-- The lines of a text after its first line (`lineBefore`) are those of the rest. -/
private theorem lineBefore_append (p rest : List Char) (index : Nat) :
    lineBefore (p ++ '\n' :: rest) (p.length + 1 + index) = lineBefore rest index := by
  have htake : (p ++ '\n' :: rest).take (p.length + 1 + index) = p ++ '\n' :: rest.take index := by
    rw [Nat.add_assoc, List.take_length_add_append, Nat.add_comm 1, List.take_succ_cons]
  rw [lineBefore, htake, List.reverse_append, List.reverse_cons, List.append_assoc]
  exact congrArg List.reverse (takeWhile_append_cons rfl _ _)

/-- What is left of a line (`lineAfter`) behind an offset past a line feed is that of the text
behind it. -/
private theorem lineAfter_append (p rest : List Char) (index : Nat) :
    lineAfter (p ++ '\n' :: rest) (p.length + 1 + index) = lineAfter rest index := by
  rw [lineAfter, Nat.add_assoc, List.drop_length_add_append, Nat.add_comm 1, List.drop_succ_cons,
    lineAfter]

/-- A row has no line feed to stop at. -/
private theorem takeWhile_eq_self {row : List Char} (h : '\n' ∉ row) : row.takeWhile (· != '\n') =
    row :=
  List.takeWhile_eq_self_iff.2 fun c hc => by simpa using fun heq : c = '\n' => h (heq ▸ hc)

/-- On the first line, what is before an offset and what is after it (`lineBefore`, `lineAfter`). -/
private theorem line_of_le {row : List Char} (hrow : '\n' ∉ row) (after : List (List Char))
    {column : Nat} (hcolumn : column ≤ row.length) :
    lineBefore (joinPieces '\n' (row :: after)) column = row.take column ∧
      lineAfter (joinPieces '\n' (row :: after)) column = row.drop column := by
  -- after the line comes nothing, or a line feed, at which the line ends in any case
  obtain ⟨rest, hjoin, hrest⟩ : ∃ rest, joinPieces '\n' (row :: after) = row ++ rest ∧
      ∀ l : List Char, '\n' ∉ l → (l ++ rest).takeWhile (· != '\n') = l := by
    cases after with
    | nil =>
      refine ⟨[], by simp [joinPieces], fun l hl => ?_⟩
      rw [List.append_nil, takeWhile_eq_self hl]
    | cons q qs =>
      refine ⟨_, joinPieces_cons (List.cons_ne_nil q qs), fun l hl => ?_⟩
      rw [takeWhile_append_cons rfl, takeWhile_eq_self hl]
  rw [hjoin]
  constructor
  · rw [lineBefore, List.take_append_of_le_length hcolumn, takeWhile_eq_self, List.reverse_reverse]
    exact fun hmem => hrow (List.mem_of_mem_take (List.mem_reverse.1 hmem))
  · rw [lineAfter, List.drop_append_of_le_length hcolumn, hrest]
    exact fun hmem => hrow (List.mem_of_mem_drop hmem)

/-- On any line, what is before an offset and what is after it (`lineBefore`, `lineAfter`). -/
private theorem line_of_split {before : List (List Char)} {row : List Char}
    {after : List (List Char)}
    (h : ∀ l ∈ before ++ row :: after, '\n' ∉ l) {column : Nat} (hcolumn : column ≤ row.length) :
    lineBefore (joinPieces '\n' (before ++ row :: after))
        ((before.map fun l => l.length + 1).sum + column) = row.take column ∧
      lineAfter (joinPieces '\n' (before ++ row :: after))
        ((before.map fun l => l.length + 1).sum + column) = row.drop column := by
  induction before with
  | nil => simpa using line_of_le (h row (by simp)) after hcolumn
  | cons p before ih =>
    have hjoin : joinPieces '\n' (p :: (before ++ row :: after)) = _ := joinPieces_cons (by simp)
    rw [List.cons_append, hjoin, List.map_cons, List.sum_cons, Nat.add_assoc, lineBefore_append,
      lineAfter_append]
    exact ih fun l hl => h l (List.mem_cons_of_mem p hl)

/-- Every offset lies on some line of pieces that are joined (`joinPieces`). -/
private theorem exists_split {ps : List (List Char)} (hne : ps ≠ []) {index : Nat}
    (h : index ≤ (joinPieces '\n' ps).length) :
    ∃ before row after column, ps = before ++ row :: after ∧
      index = (before.map fun l => l.length + 1).sum + column ∧ column ≤ row.length := by
  induction ps generalizing index with
  | nil => exact absurd rfl hne
  | cons p ps ih =>
    -- an offset up to the end of the first piece lies there, any other is counted from the next one
    by_cases hindex : index ≤ p.length
    · exact ⟨[], p, ps, index, rfl, by simp, hindex⟩
    · cases ps with
      | nil => exact absurd h hindex
      | cons q qs =>
        rw [joinPieces_cons (List.cons_ne_nil q qs), List.length_append, List.length_cons] at h
        obtain ⟨before, row, after, column, hps, heq, hcolumn⟩ :=
          ih (List.cons_ne_nil q qs) (show index - (p.length + 1) ≤ _ by omega)
        refine ⟨p :: before, row, after, column, by rw [hps]; rfl, ?_, hcolumn⟩
        rw [List.map_cons, List.sum_cons]
        omega

/-! ## The line of an offset -/

variable {text row : List Char} {index column : Nat}

/-- An offset into a text lies on some line (`OnLine`). -/
theorem exists_onLine (h : index ≤ text.length) : ∃ row column, OnLine text index row column := by
  rw [← joinPieces_pieces '\n' text] at h
  obtain ⟨before, row, after, column, hcut, hindex, hcolumn⟩ := exists_split (pieces_ne_nil _ _) h
  exact ⟨row, column, ⟨before, after, hcut, hindex⟩, hcolumn⟩

/-- On its line (`OnLine`), an offset cuts the row in two at its column. -/
theorem OnLine.lineBefore_eq (h : OnLine text index row column) :
    lineBefore text index = row.take column ∧ lineAfter text index = row.drop column := by
  obtain ⟨⟨before, after, hcut, rfl⟩, hcolumn⟩ := h
  have hfree : ∀ l ∈ before ++ row :: after, '\n' ∉ l :=
    fun l hl => not_mem_of_mem_pieces (hcut ▸ hl)
  have hsplit := line_of_split hfree hcolumn
  rwa [← hcut, joinPieces_pieces] at hsplit

/-- An offset lies on one line (`OnLine`) only, and in one column. -/
theorem OnLine.unique {row' : List Char} {column' : Nat} (h : OnLine text index row column)
    (h' : OnLine text index row' column') : row = row' ∧ column = column' := by
  obtain ⟨hbefore, hafter⟩ := h.lineBefore_eq
  obtain ⟨hbefore', hafter'⟩ := h'.lineBefore_eq
  have htake : row.take column = row'.take column' := hbefore.symm.trans hbefore'
  have hdrop : row.drop column = row'.drop column' := hafter.symm.trans hafter'
  constructor
  · rw [← List.take_append_drop column row, htake, hdrop, List.take_append_drop]
  · have hlength := congrArg List.length htake
    rwa [List.length_take_of_le h.column_le, List.length_take_of_le h'.column_le] at hlength

/-- In the column of an offset (`OnLine`) stands the character at the offset; the end of the line
stands for its line feed and for the end of the text. -/
theorem OnLine.getElem?_eq (h : OnLine text index row column) :
    row[column]? = text[index]?.filter (· != '\n') := by
  obtain ⟨-, hafter⟩ := h.lineBefore_eq
  rw [← List.head?_drop, ← hafter, lineAfter, List.head?_takeWhile, List.head?_drop]

/-- What a caret under an offset is shown with (`renderCaret`). -/
theorem renderCaret_eq {source : String} (h : OnLine source.toList index row column)
    (indent : String) :
    renderCaret source index indent =
      indent ++ String.ofList row ++ "\n" ++
        (indent ++ String.ofList (List.replicate column ' ') ++ "^") := by
  obtain ⟨hbefore, hafter⟩ := h.lineBefore_eq
  have hrow : lineBefore source.toList index ++ lineAfter source.toList index = row := by
    rw [hbefore, hafter, List.take_append_drop]
  have hlength : (lineBefore source.toList index).length = column := by
    rw [hbefore, List.length_take_of_le h.column_le]
  rw [renderCaret, hrow, hlength]
  simp only [String.append_assoc]

/-! ## The diagnostic of a fault -/

/-- Whether a diagnostic points to the place of a fault: its location is that of the fault, and its
layout over several lines shows the line of the text and a caret in the column. -/
structure Points (site : Site) (f : MessageFault) (d : Diagnostic) (row : List Char)
    (column : Nat) : Prop where
  reported : (Fault.message site f).diagnostic? = some d
  located : d.location = some ⟨site.file, site.key, site.text, some f.index⟩
  within : Location.within site.file site.key site.text (some (f.index : Int)) =
    .ok ⟨site.file, site.key, site.text, some f.index⟩
  onLine : OnLine site.text.toList f.index row column
  marked : row[column]? = site.text.toList[f.index]?.filter (· != '\n')
  rendered : ∀ color, d.renderFull color = "\n".intercalate
    (s!"{d.severityText color}[{d.code.name}]: {d.message}" ::
      (d.place?.map fun p => s!"  --> {p}").toList ++
      ["    " ++ String.ofList row, "    " ++ String.ofList (List.replicate column ' ') ++ "^"] ++
      ((Diagnostic.nonEmpty? d.hint).map fun h => s!"  = help: {h}").toList)

/-- Two lines that are joined already are two lines. -/
private theorem intercalate_joined (separator a b : String) (before after : List String) :
    separator.intercalate (before ++ [a ++ separator ++ b] ++ after) =
      separator.intercalate (before ++ [a, b] ++ after) := by
  simp only [List.append_assoc, List.cons_append, List.nil_append]
  induction before with
  | nil =>
    -- after the joined texts comes nothing, or another separator
    cases after with
    | nil => simp [String.intercalate_cons_cons]
    | cons c rest =>
      simp only [List.nil_append, String.intercalate_cons_cons, String.append_assoc]
  | cons first rest ih =>
    rw [List.cons_append, List.cons_append, String.intercalate_cons_of_ne_nil (by simp),
      String.intercalate_cons_of_ne_nil (by simp), ih]

/-- A text that is no message is refused at a place within it or at its end, and the diagnostic
points (`Points`) to that place. -/
theorem points_of_parse {options : ReadingOptions} {site : Site} {f : MessageFault}
    (h : parse options site.text = .error (.fault f)) :
    f.index ≤ site.text.length ∧ ∃ d row column, Points site f d row column := by
  obtain ⟨hlocated, hindex⟩ := index_le_of_parse h
  have hlength : f.index ≤ site.text.toList.length := by rwa [String.length_toList]
  obtain ⟨row, column, honLine⟩ := exists_onLine hlength
  have hwithin : (0 : Int) ≤ f.index ∧ (f.index : Int) ≤ site.text.length := by omega
  -- the diagnostic was given its own offset, which is the one of the fault
  refine ⟨hindex, Fault.messageDiagnostic site f, row, column, rfl, ?_, ?_, honLine,
    honLine.getElem?_eq, fun color => ?_⟩
  · rw [Fault.messageDiagnostic, hlocated]
  · rw [Location.within, if_pos hwithin, Int.toNat_natCast]
  · rw [Diagnostic.renderFull]
    simp only [Fault.messageDiagnostic, hlocated, Option.map_some, Option.toList_some]
    rw [renderCaret_eq honLine, intercalate_joined]

/-- A message with a word on its second line that is no type of expression. -/
def misspelledSite : Site := ⟨"app_en.arb", "seats", "Dear guests,\n\x7bn, plurl\x7d"⟩

/-- The misspelled type of `{n, plurl}` is pointed at, at its first letter. -/
theorem points_of_parse_misspelled :
    parse .standard misspelledSite.text = .error (.fault ⟨.unknownType "plurl", 17, 17⟩) ∧
    17 ≤ misspelledSite.text.length ∧
    ∃ d, Points misspelledSite ⟨.unknownType "plurl", 17, 17⟩ d "\x7bn, plurl\x7d".toList 4 := by
  have hparse : parse .standard misspelledSite.text =
      .error (.fault ⟨.unknownType "plurl", 17, 17⟩) := by
    decide +kernel
  obtain ⟨hindex, d, row, column, hpoints⟩ := points_of_parse hparse
  have honLine : OnLine misspelledSite.text.toList 17 "\x7bn, plurl\x7d".toList 4 :=
    ⟨⟨["Dear guests,".toList], [], by decide, by decide⟩, by decide⟩
  obtain ⟨rfl, rfl⟩ := hpoints.onLine.unique honLine
  exact ⟨hparse, hindex, d, hpoints⟩

end Parlance
