/-!
# Cutting a text at a separator

`pieces sep s` are the stretches of `s` between its separators: none holds one
(`not_mem_of_mem_pieces`), and every other character is in one of them (`exists_mem_pieces`).
`joinPieces` puts the separators back (`joinPieces_pieces`), and no other texts without a separator
give `s` with separators between them (`pieces_joinPieces`).
-/

namespace Parlance.Text

/-- The stretches between the separators, the empty ones included. -/
def pieces (sep : Char) : List Char → List (List Char)
  | [] => [[]]
  | c :: r =>
    if c = sep then [] :: pieces sep r
    else match pieces sep r with
      | [] => [[c]]
      | p :: ps => (c :: p) :: ps

/-- The pieces with a separator between each two. -/
def joinPieces (sep : Char) : List (List Char) → List Char
  | [] => []
  | [p] => p
  | p :: q :: ps => p ++ sep :: joinPieces sep (q :: ps)

/-- The first piece (`joinPieces`) is followed by the separator if there are more. -/
theorem joinPieces_cons {sep : Char} {p : List Char} {ps : List (List Char)} (h : ps ≠ []) :
    joinPieces sep (p :: ps) = p ++ sep :: joinPieces sep ps := by
  cases ps with
  | nil => exact absurd rfl h
  | cons q qs => rfl

/-- Every text has a piece (`pieces`). -/
theorem pieces_ne_nil (sep : Char) (s : List Char) : pieces sep s ≠ [] := by
  cases s with
  | nil => simp [pieces]
  | cons c r =>
    unfold pieces
    split
    · simp
    · split <;> simp

/-- Putting the separators back (`joinPieces`) gives the text. -/
theorem joinPieces_pieces (sep : Char) (s : List Char) : joinPieces sep (pieces sep s) = s := by
  induction s with
  | nil => rfl
  | cons c r ih =>
    by_cases h : c = sep
    · simp only [pieces, h, if_true]
      cases hp : pieces sep r with
      | nil => exact absurd hp (pieces_ne_nil sep r)
      | cons p ps => rw [hp] at ih; simp [joinPieces, ih]
    · simp only [pieces, h, if_false]
      cases hp : pieces sep r with
      | nil => exact absurd hp (pieces_ne_nil sep r)
      | cons p ps =>
        rw [hp] at ih
        -- without another separator the first piece is all there is
        cases ps with
        | nil => simpa [joinPieces] using ih
        | cons q qs => simpa [joinPieces] using ih

/-- No piece (`pieces`) holds the separator. -/
theorem not_mem_of_mem_pieces {sep : Char} {s p : List Char} (h : p ∈ pieces sep s) : sep ∉ p := by
  induction s generalizing p with
  | nil => simp [pieces] at h; simp [h]
  | cons c r ih =>
    -- A separator begins a new piece; any other character goes to the first one.
    by_cases hc : c = sep
    · simp only [pieces, hc, if_true, List.mem_cons] at h
      rcases h with rfl | h
      · simp
      · exact ih h
    · simp only [pieces, hc, if_false] at h
      cases hp : pieces sep r with
      | nil => exact absurd hp (pieces_ne_nil sep r)
      | cons q qs =>
        rw [hp] at h ih
        rcases List.mem_cons.1 h with rfl | h
        · have := ih List.mem_cons_self
          simp [this, Ne.symm hc]
        · exact ih (List.mem_cons_of_mem _ h)

/-- Every character but the separator stands in a piece (`pieces`). -/
theorem exists_mem_pieces {sep c : Char} {s : List Char} (hc : c ≠ sep) (h : c ∈ s) :
    ∃ p ∈ pieces sep s, c ∈ p := by
  induction s with
  | nil => cases h
  | cons d r ih =>
    by_cases hd : d = sep
    · obtain ⟨p, hp, hmem⟩ := ih ((List.mem_cons.1 h).resolve_left fun heq => hc (heq.trans hd))
      exact ⟨p, by simp [pieces, hd, hp], hmem⟩
    · cases hr : pieces sep r with
      | nil => exact absurd hr (pieces_ne_nil sep r)
      | cons q qs =>
        simp only [pieces, hd, if_false, hr]
        rcases List.mem_cons.1 h with rfl | hrest
        · exact ⟨_, List.mem_cons_self, List.mem_cons_self⟩
        · obtain ⟨p, hp, hmem⟩ := ih hrest
          rw [hr] at hp
          -- `d` joins the first piece, which the character may be in
          rcases List.mem_cons.1 hp with rfl | hmore
          · exact ⟨_, List.mem_cons_self, List.mem_cons_of_mem d hmem⟩
          · exact ⟨p, List.mem_cons_of_mem _ hmore, hmem⟩

/-- A text without the separator is its only piece (`pieces`). -/
theorem pieces_of_not_mem {sep : Char} {s : List Char} (h : sep ∉ s) : pieces sep s = [s] := by
  induction s with
  | nil => rfl
  | cons c r ih =>
    rw [List.mem_cons, not_or] at h
    simp only [pieces, Ne.symm h.1, if_false, ih h.2]

/-- The first piece (`pieces`) ends at the first separator. -/
theorem pieces_append_cons {sep : Char} {p : List Char} (h : sep ∉ p) (r : List Char) :
    pieces sep (p ++ sep :: r) = p :: pieces sep r := by
  induction p with
  | nil => simp [pieces]
  | cons c p ih =>
    rw [List.mem_cons, not_or] at h
    simp only [List.cons_append, pieces, Ne.symm h.1, if_false, ih h.2]

/-- Texts without the separator are the pieces (`pieces`) of what they give with separators between
them. -/
theorem pieces_joinPieces {sep : Char} {ps : List (List Char)} (hne : ps ≠ [])
    (h : ∀ p ∈ ps, sep ∉ p) : pieces sep (joinPieces sep ps) = ps := by
  induction ps with
  | nil => exact absurd rfl hne
  | cons p ps ih =>
    obtain ⟨hp, hps⟩ := List.forall_mem_cons.1 h
    cases ps with
    | nil => exact pieces_of_not_mem hp
    | cons q qs => rw [joinPieces, pieces_append_cons hp, ih (List.cons_ne_nil q qs) hps]

/-- The pieces of a string, as strings. -/
def cutAt (sep : Char) (s : String) : List String := (pieces sep s.toList).map String.ofList

end Parlance.Text
