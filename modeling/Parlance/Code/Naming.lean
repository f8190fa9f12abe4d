import Parlance.Assoc
import Parlance.Fault
import Parlance.Text.Case
import Parlance.Text.Identifier
import Parlance.Text.Normal

/-!
# Names in the generated module

Keys and placeholders become identifiers in lower case, with an underscore at every boundary of a
name in camel case: before a capital after a small letter or digit, and before a capital that
starts a word after a capital.

Names are checked as they are spelled. What a name stands for in the module that is written is its
normal form (`Text.nfkc`), which in the body of a class is still another one if it is private
(`nameInClass`).
-/

namespace Parlance.Code

open Parlance.Text

/-- Whether a word of a name starts at a character, given the characters around it. -/
def startsWord (before : Option Char) (c : Char) (after : Option Char) : Bool :=
  match before with
  | none => false
  | some b =>
    c.isUpper && ((b.isLower || b.isDigit) || (b.isUpper && (after.map Char.isLower).getD false))

/-- The name with an underscore before every word that starts in it. -/
def splitWords : Option Char → List Char → List Char
  | _, [] => []
  | before, c :: rest =>
    if startsWord before c rest.head? then '_' :: c :: splitWords (some c) rest
    else c :: splitWords (some c) rest

/-- The name itself is left of it (`splitWords`), in order. -/
theorem sublist_splitWords (before : Option Char) (s : List Char) :
    s.Sublist (splitWords before s) := by
  induction s generalizing before with
  | nil => exact .slnil
  | cons c rest ih =>
    rw [splitWords]
    split
    · exact ((ih (some c)).cons_cons c).cons '_'
    · exact (ih (some c)).cons_cons c

/-- What comes in between words (`splitWords`) is underscores. -/
theorem filter_splitWords (before : Option Char) (s : List Char) :
    (splitWords before s).filter (· != '_') = s.filter (· != '_') := by
  induction s generalizing before with
  | nil => rfl
  | cons c rest ih =>
    rw [splitWords]
    split
    · rw [List.filter_cons_of_neg (by decide), List.filter_cons, List.filter_cons, ih]
    · rw [List.filter_cons, List.filter_cons, ih]

/-- Characters of a name that is split at its words (`splitWords`) are its own, or underscores. -/
theorem mem_of_mem_splitWords {before : Option Char} {s : List Char} {c : Char}
    (h : c ∈ splitWords before s) : c = '_' ∨ c ∈ s := by
  by_cases hc : c = '_'
  · exact .inl hc
  · have hmem : c ∈ (splitWords before s).filter (· != '_') :=
      List.mem_filter.2 ⟨h, bne_iff_ne.2 hc⟩
    rw [filter_splitWords] at hmem
    exact .inr (List.mem_filter.1 hmem).1

/-- A name in lower case with its words apart. -/
def snakeChars (s : List Char) : List Char := lowerChars (splitWords none s)

/-- A name in lower case with its words apart. -/
def snakeCase (name : String) : String := String.ofList (snakeChars name.toList)

/-- The identifier of a name, which must be one, no keyword, and not taken. -/
def identifierOf (kind name : String) (reserved : List String) : Except Fault String :=
  let identifier := snakeCase name
  if !isIdentifier identifier || isKeyword identifier then
    .error (.invalidIdentifier kind name identifier)
  else if reserved.contains identifier then .error (.reservedIdentifier kind name identifier)
  else .ok identifier

/-- The names that have an identifier. -/
def namesOf (identifiers : Assoc String) (identifier : String) : List String :=
  (identifiers.filter (·.2 == identifier)).map (·.1)

/-- Refuses names that share an identifier, the first that do so. -/
def checkUnique (kind : String) (identifiers : Assoc String) : Except Fault Unit :=
  match identifiers.find? fun p => 1 < (namesOf identifiers p.2).length with
  | some p => .error (.duplicateIdentifier kind p.2 (namesOf identifiers p.2))
  | none => .ok ()

/-! ## What names stand for -/

/-- Whether an identifier is private to the class whose body it stands in: it starts with two
underscores and does not end with two. -/
def IsPrivate (identifier : String) : Prop :=
  ['_', '_'] <+: identifier.toList ∧ ¬ ['_', '_'] <:+ identifier.toList

instance decidableIsPrivate (identifier : String) : Decidable (IsPrivate identifier) :=
  inferInstanceAs (Decidable (_ ∧ _))

/-- What stands in front of the private identifiers of a class: an underscore and the class without
the underscores in front, if that leaves anything. -/
def privatePrefix (className : String) : String :=
  match (nfkc className).toList.dropWhile (· == '_') with
  | [] => ""
  | stripped => String.ofList ('_' :: stripped)

/-- The identifier that a name stands for in the body of a class. -/
def nameInClass (className name : String) : String :=
  if IsPrivate (nfkc name) then privatePrefix className ++ nfkc name else nfkc name

/-- A name that is not private (`IsPrivate`) stands in every class for its normal form. -/
theorem nameInClass_of_not_private {name : String} (h : ¬ IsPrivate (nfkc name))
    (className : String) : nameInClass className name = nfkc name :=
  if_neg h

/-- A name of ASCII (`IsAscii`) that is not private stands for itself. -/
theorem nameInClass_of_ascii {name : String} (hascii : IsAscii name) (h : ¬ IsPrivate name)
    (className : String) : nameInClass className name = name := by
  rw [← nfkc_of_ascii hascii] at h
  rw [nameInClass_of_not_private h, nfkc_of_ascii hascii]

/-- A name stands for the same (`nameInClass`) in two classes unless it is private and the classes
have something else in front of what is. -/
theorem nameInClass_eq_iff {a b name : String} :
    nameInClass a name = nameInClass b name ↔
      privatePrefix a = privatePrefix b ∨ ¬ IsPrivate (nfkc name) := by
  by_cases h : IsPrivate (nfkc name)
  · rw [nameInClass, nameInClass, if_pos h, if_pos h, String.append_left_inj]
    simp [h]
  · simp [nameInClass_of_not_private h, h]

/-- Classes of ASCII have something else in front of private names (`privatePrefix`) if one has the
name of the other with more behind it. -/
theorem privatePrefix_ne_of_ascii {base more : String} (hascii : IsAscii (base ++ more))
    (hmore : more ≠ "") (hword : '_' ∉ more.toList) :
    privatePrefix base ≠ privatePrefix (base ++ more) := by
  have hbase : IsAscii base := fun c hc =>
    hascii c (String.toList_append ▸ List.mem_append_left _ hc)
  have hnonempty : more.toList ≠ [] := fun h => hmore (String.toList_eq_nil_iff.1 h)
  have hkept : more.toList.dropWhile (· == '_') = more.toList := by
    cases hchars : more.toList with
    | nil => rfl
    | cons c rest =>
      have hc : c ≠ '_' := fun h => hword (hchars ▸ h ▸ List.mem_cons_self)
      exact List.dropWhile_cons_of_neg (by simpa using hc)
  have hlonger : 0 < more.toList.length := List.length_pos_iff.2 hnonempty
  intro heq
  have hlengths := congrArg String.length heq
  rw [privatePrefix, privatePrefix, nfkc_of_ascii hascii, nfkc_of_ascii hbase, String.toList_append,
    List.dropWhile_append, hkept] at hlengths
  cases hstripped : base.toList.dropWhile (· == '_') with
  | nil =>
    -- the shorter name leaves nothing to put in front, the longer one does
    cases hchars : more.toList with
    | nil => exact hnonempty hchars
    | cons c rest =>
      simp only [hstripped, hchars, List.isEmpty_nil, if_true, String.length_empty,
        String.length_ofList, List.length_cons] at hlengths
      omega
  | cons c rest =>
    rw [hstripped] at hlengths
    simp only [List.isEmpty_cons, Bool.false_eq_true, if_false, List.cons_append,
      String.length_ofList, List.length_cons, List.length_append] at hlengths
    omega

end Parlance.Code
