import Parlance.Json.Reader
import Parlance.Proofs.Number.Digits
import Parlance.Proofs.Number.Nearest
import Parlance.Proofs.Results

/-!
# What JSON decodes to

A value that is read from a JSON text has no bytes, sets or calendar values in it, its integers have
no more digits than are read, its floating-point numbers have their own mantissas, and no object in
it has two entries of one name (`Value.Decoded`). This is what the program relies on of the reader
that it is given (`JsonDecoder.Documented`), and `Json.decoder` is such a reader (`documented`).
-/

namespace Parlance

open Parlance.Number

/-- Whether a value is one that JSON decodes to. -/
inductive Value.Decoded : Value → Prop
  | null : Decoded .null
  | bool (b : Bool) : Decoded (.bool b)
  | int {i : Int} (short : (decimalDigits i.natAbs).length ≤ digitLimit) : Decoded (.int i)
  | float {x : Double} (canonical : x.Canonical) : Decoded (.float x)
  | text (s : String) : Decoded (.text s)
  | list {items : List Value} (each : ∀ v ∈ items, Decoded v) : Decoded (.list items)
  | object {entries : List (String × Value)} (distinct : (entries.map (·.1)).Nodup)
      (each : ∀ e ∈ entries, Decoded e.2) : Decoded (.object entries)

/-- Whether a reader of JSON gives no other values than JSON decodes to. -/
def JsonDecoder.Documented (decoder : JsonDecoder) : Prop :=
  ∀ text v, decoder text = .ok v → v.Decoded

/-! ## Nested values -/

mutual

/-- How deeply lists and objects are nested in each other in a value. -/
def Value.nesting : Value → Nat
  | .list items => nestingOfItems items + 1
  | .set members => nestingOfItems members + 1
  | .object entries => nestingOfEntries entries + 1
  | _ => 0

/-- The deepest nesting among some values. -/
def nestingOfItems : List Value → Nat
  | [] => 0
  | v :: rest => max v.nesting (nestingOfItems rest)

/-- The deepest nesting among the values of the entries of an object. -/
def nestingOfEntries : List (String × Value) → Nat
  | [] => 0
  | (_, v) :: rest => max v.nesting (nestingOfEntries rest)

end

namespace Assoc

variable {α : Type}

/-- Setting a name (`set`) keeps names distinct. -/
theorem nodup_keys_set {entries : Assoc α} (h : (keys entries).Nodup) (name : String) (value : α) :
    (keys (set entries name value)).Nodup := by
  by_cases hmem : name ∈ keys entries
  · rwa [keys_set_of_mem value hmem]
  · rw [keys_set_of_not_mem value hmem]
    refine List.nodup_append.2 ⟨h, by simp, fun a ha b hb => ?_⟩
    rw [List.mem_singleton.1 hb]
    exact fun heq => hmem (heq ▸ ha)

/-- After setting a name (`set`), a value was there before or is the one that was set. -/
theorem forall_set {P : α → Prop} {entries : Assoc α} (h : ∀ e ∈ entries, P e.2) (name : String)
    {value : α} (hvalue : P value) : ∀ e ∈ set entries name value, P e.2 := by
  induction entries with
  | nil => simpa [set] using hvalue
  | cons entry rest ih =>
    obtain ⟨hentry, hrest⟩ := List.forall_mem_cons.1 h
    rw [set]
    split
    · exact List.forall_mem_cons.2 ⟨hvalue, hrest⟩
    · exact List.forall_mem_cons.2 ⟨hentry, ih hrest⟩

end Assoc

namespace Json

/-! ## Numbers and words -/

/-- A number that is read is an integer that `digitLimit` allows, or a double in canonical form. -/
private theorem decoded_of_readNumber {negative : Bool} {s whole rest : List Char} {v : Value}
    (h : readNumber negative s whole = .ok (v, rest)) : v.Decoded := by
  unfold readNumber at h
  dsimp only at h
  split at h
  · cases h
  · next hsome =>
    split at h
    · split at h
      · cases h
      · next hshort =>
        cases h
        refine .int ?_
        -- Leading zeros are not counted, so the number has no more digits than were read.
        have hdigits : (decimalDigits ((ofDigits? (wholePart s)).getD 0)).length ≤
            (wholePart s).length := length_decimalDigits_le (by simpa using hsome)
        have habs : (if negative then -((ofDigits? (wholePart s)).getD 0 : Int)
            else (ofDigits? (wholePart s)).getD 0).natAbs = (ofDigits? (wholePart s)).getD 0 := by
          split <;> simp
        rw [habs]
        omega
    · cases h
      refine .float ?_
      cases hread : Double.ofChars? ((if negative then ['-'] else []) ++ wholePart s ++
          fractionPart (List.drop (wholePart s).length s) ++ _) with
      | none => exact .notANumber
      | some x =>
        obtain ⟨d, -, rfl⟩ := Option.map_eq_some_iff.1 hread
        exact Double.canonical_ofDecimal d

/-- A word or a number is what JSON decodes (`Decoded`) to. -/
private theorem decoded_of_readScalar {s rest : List Char} {v : Value}
    (h : readScalar s = .ok (v, rest)) : v.Decoded := by
  unfold readScalar at h
  dsimp only at h
  split at h
  · next r hword =>
    cases h
    obtain ⟨c, hc, hafter⟩ := List.exists_of_findSome?_eq_some hword
    obtain ⟨after, -, heq⟩ := Option.map_eq_some_iff.1 hafter
    cases heq
    simp only [List.mem_cons, List.not_mem_nil, or_false] at hc
    -- a word is one of six; anything else is a number
    rcases hc with rfl | rfl | rfl | rfl | rfl | rfl
    · exact .null
    · exact .bool true
    · exact .bool false
    · exact .float .notANumber
    · exact .float .infinite
    · exact .float .infinite
  · split at h
    · exact decoded_of_readNumber h
    · exact decoded_of_readNumber h

/-! ## Lists and objects -/

/-- Whether all that is read with some fuel is what JSON decodes to. -/
structure Decodes (limit fuel : Nat) : Prop where
  value : ∀ {level s v rest}, readValue limit level fuel s = .ok (v, rest) → v.Decoded
  items : ∀ {level s vs rest}, readItems limit level fuel s = .ok (vs, rest) → ∀ v ∈ vs, v.Decoded
  members : ∀ {level entries s all rest}, readMembers limit level fuel entries s = .ok (all, rest) →
    (Assoc.keys entries).Nodup → (∀ e ∈ entries, e.2.Decoded) →
      (Assoc.keys all).Nodup ∧ ∀ e ∈ all, e.2.Decoded

section

variable {limit fuel : Nat} (hfuel : Decodes limit fuel)

include hfuel

/-- A value is read (`readValue`) from parts that are read with less fuel. -/
theorem Decodes.decoded_of_readValue {level : Nat} {s rest : List Char} {v : Value}
    (h : readValue limit level (fuel + 1) s = .ok (v, rest)) : v.Decoded := by
  unfold readValue at h
  split at h
  · obtain ⟨r, -, heq⟩ := map_eq_ok_iff.1 h
    cases heq
    exact .text _
  · split at h
    · cases h
    · split at h
      · cases h
        exact .object (by simp) (by simp)
      · obtain ⟨r, hr, heq⟩ := map_eq_ok_iff.1 h
        cases heq
        -- The entries start from none, of which the invariant holds.
        obtain ⟨hdistinct, heach⟩ := hfuel.members hr (by simp [Assoc.keys]) (by simp)
        exact .object hdistinct heach
  · split at h
    · cases h
    · split at h
      · cases h
        exact .list (by simp)
      · obtain ⟨r, hr, heq⟩ := map_eq_ok_iff.1 h
        cases heq
        exact .list (hfuel.items hr)
  · exact decoded_of_readScalar h

/-- The items of a list (`readItems`) are read one by one, each with less fuel. -/
theorem Decodes.decoded_of_readItems {level : Nat} {s rest : List Char} {vs : List Value}
    (h : readItems limit level (fuel + 1) s = .ok (vs, rest)) : ∀ v ∈ vs, v.Decoded := by
  unfold readItems at h
  split at h
  · cases h
  · next v more hv =>
    have hfirst := hfuel.value hv
    split at h
    · cases h
      simpa using hfirst
    · -- after a comma the other items are read
      obtain ⟨r, hr, heq⟩ := map_eq_ok_iff.1 h
      cases heq
      exact List.forall_mem_cons.2 ⟨hfirst, hfuel.items hr⟩
    · cases h

/-- Each entry of an object (`readMembers`) is set among those that were read before. -/
theorem Decodes.decoded_of_readMembers {level : Nat} {entries all : Assoc Value}
    {s rest : List Char} (h : readMembers limit level (fuel + 1) entries s = .ok (all, rest))
    (hdistinct : (Assoc.keys entries).Nodup) (heach : ∀ e ∈ entries, e.2.Decoded) :
    (Assoc.keys all).Nodup ∧ ∀ e ∈ all, e.2.Decoded := by
  unfold readMembers at h
  split at h
  · split at h
    · cases h
    · next name _ _ =>
      split at h
      · split at h
        · cases h
        · next v _ hv =>
          -- a name that comes again replaces the value and keeps its place
          have hkeys := Assoc.nodup_keys_set hdistinct (String.ofList name) v
          have hvalues := Assoc.forall_set heach (String.ofList name) (hfuel.value hv)
          split at h
          · cases h
            exact ⟨hkeys, hvalues⟩
          · exact hfuel.members h hkeys hvalues
          · cases h
      · cases h
  · cases h

end

/-- With any fuel, all that is read is what JSON decodes (`Decodes`) to. -/
theorem decodes (limit fuel : Nat) : Decodes limit fuel := by
  induction fuel with
  | zero =>
    -- without fuel nothing is read
    constructor
    · intro level s v rest h
      unfold readValue at h
      cases h
    · intro level s vs rest h
      unfold readItems at h
      cases h
    · intro level entries s all rest h
      unfold readMembers at h
      cases h
  | succ fuel ih =>
    exact ⟨ih.decoded_of_readValue, ih.decoded_of_readItems, ih.decoded_of_readMembers⟩

/-- What is read from a JSON text is what JSON decodes (`Decoded`) to. -/
theorem decoded_of_read {limit : Nat} {text : String} {v : Value} (h : read limit text = .ok v) :
    v.Decoded := by
  rw [read] at h
  split at h
  · next hall =>
    cases h
    unfold readAll at hall
    split at hall
    · cases hall
    · split at hall
      · cases hall
      · -- a value was read, and only blanks are behind it
        next hvalue =>
        split at hall
        · cases hall
          exact (decodes limit _).value hvalue
        · cases hall
  · cases h

/-- However deeply lists and objects may be nested, the reader of JSON gives what JSON decodes to
(`Documented`). -/
theorem documented (limit : Nat) : (decoder limit).Documented := by
  intro text v h
  unfold decoder at h
  split at h
  · next hread =>
    cases h
    exact decoded_of_read hread
  all_goals cases h

end Json

end Parlance
