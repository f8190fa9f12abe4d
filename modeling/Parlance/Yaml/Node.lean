import Parlance.Yaml.Meaning

/-!
# Nodes of a YAML document

Scalars, sequences and mappings, each with a tag and with what it denotes. A collection keeps its
meaning beside its parts, so that a node that many aliases stand for is understood once. Entries of
a mapping have scalars as keys; a later entry with the key of an earlier one gives the value at the
earlier place, and entries that are merged in come before the mapping's own.
-/

namespace Parlance.Yaml

open Parlance.Number

/-- A node. A scalar knows the place of its tag, if it was given one. In a mapping, `flat` holds the
entries together with those that are merged in, or nothing if something other than mappings is to be
merged. -/
inductive Node where
  | scalar (tag : Tag) (text : String) (place : Option Place)
  | sequence (tag : Tag) (items : List Node) (meaning : Meaning Value)
  | mapping (tag : Tag) (entries : List (Node × Node)) (flat : Option (List (Node × Node)))
      (meaning : Meaning Value)
deriving Inhabited

/-! ## Keys -/

/-- The sign, numerator and denominator of a number. -/
def ratio? : Value → Option (Bool × Nat × Nat)
  | .bool b => some (false, b.toNat, 1)
  | .int i => some (i < 0, i.natAbs, 1)
  | .float (.finite negative mantissa exponent) =>
    let (num, den) := Double.ratioOf mantissa exponent
    some (negative && num != 0, num, den)
  | _ => none

/-- Whether two scalars are one key. Numbers are if they are equal, and truth values are numbers. -/
def sameKey (a b : Value) : Bool :=
  match ratio? a, ratio? b with
  | some (s, n, d), some (t, m, e) => s == t && n * e == m * d
  | none, none =>
    match a, b with
    | .null, .null => true
    | .text s, .text t => s == t
    | .bytes s, .bytes t => s == t
    | .float (.infinite s), .float (.infinite t) => s == t
    | .moment k s, .moment l t => k == l && s == t
    | _, _ => false
  | _, _ => false

/-- Gives a key a value, in its place if it is present and at the end if it is not. -/
def putEntry : List (Value × Value) → Value × Value → List (Value × Value)
  | [], entry => [entry]
  | e :: rest, entry =>
    if sameKey e.1 entry.1 then (e.1, entry.2) :: rest else e :: putEntry rest entry

/-- Entries of which each key has one, with its last value. -/
def distinctEntries (entries : List (Value × Value)) : List (Value × Value) :=
  entries.foldl putEntry []

/-- Whether a value may be a key. -/
def isKey : Value → Bool
  | .list _ => false
  | .set _ => false
  | .object _ => false
  | _ => true

namespace Node

/-! ## Parts -/

/-- The tag of a node. -/
def tag : Node → Tag
  | scalar tag _ _ => tag
  | sequence tag _ _ => tag
  | mapping tag _ _ _ => tag

/-- What a node denotes. -/
def meaning : Node → Meaning Value
  | scalar tag text place => textMeaning tag text place
  | sequence _ _ meaning => meaning
  | mapping _ _ _ meaning => meaning

mutual

/-- The text of a scalar. A mapping stands for the value of its equals sign. -/
def text? : Node → Option String
  | scalar _ text _ => some text
  | sequence .. => none
  | mapping _ entries _ _ => textAtEquals? entries

/-- The text of the value of the equals sign among some entries. -/
def textAtEquals? : List (Node × Node) → Option String
  | [] => none
  | (k, v) :: rest => if k.tag == .value then text? v else textAtEquals? rest

end

/-- The meaning of a node as a key. The equals sign is text there. -/
def keyMeaning (n : Node) : Meaning Value :=
  if n.tag == .value then
    match n.text? with
    | some text => .ok (.text text)
    | none => .fault Fault.misfit.decodeFault
  else
    match n.meaning with
    | .ok key => if isKey key then .ok key else .fault Fault.compoundKey.decodeFault
    -- what is wrong below a collection comes too late: no collection is a key
    | .error (0, f) => .fault f
    | .error _ => .fault Fault.compoundKey.decodeFault

/-! ## Sequences -/

/-- The meaning of a node as a pair of a key and a value, for which it has to be a mapping of one
entry. -/
def pairMeaning : Node → Meaning Value
  | mapping _ [(k, v)] _ _ => (k.meaning.both v.meaning).map fun (k, v) => .list [k, v]
  | _ => .fault Fault.misfit.decodeFault

/-- What a sequence of items denotes whose tag stands at a place. -/
def itemsMeaning (tag : Tag) (items : List Node) (place : Option Place) : Meaning Value :=
  match tag with
  | .sequence => (Meaning.all (items.map meaning)).below.map .list
  | .pairs => (Meaning.all (items.map pairMeaning)).below.map .list
  | other => other.misfitMeaning "sequence" place

/-- The sequence of some items. -/
def ofItems (tag : Tag) (items : List Node) (place : Option Place) : Node :=
  .sequence tag items (itemsMeaning tag items place)

/-! ## Mappings -/

/-- All entries of a node that is a mapping. -/
def flat? : Node → Option (List (Node × Node))
  | mapping _ _ flat _ => flat
  | _ => none

/-- The entries that a node brings into a mapping it is merged into: those of a mapping, or of
several, of which the first wins. -/
def mergedIn? : Node → Option (List (Node × Node))
  | mapping _ _ flat _ => flat
  | sequence _ items _ => (items.mapM flat?).map fun parts => parts.reverse.flatten
  | scalar .. => none

/-- Entries with those that are merged in, which come first. -/
def flatten? (entries : List (Node × Node)) : Option (List (Node × Node)) :=
  let (merges, own) := entries.partition fun e => e.1.tag == .merge
  (merges.mapM fun (e : Node × Node) => e.2.mergedIn?).map fun parts => parts.flatten ++ own

/-- The keys and values of some entries. -/
def entriesMeaning (flat : Option (List (Node × Node))) : Meaning (List (Value × Value)) :=
  match flat with
  | none => (Meaning.fault Fault.malformedMerge.decodeFault).below
  | some entries =>
    (Meaning.all (entries.map fun e => e.1.keyMeaning.both e.2.meaning)).below.map distinctEntries

/-- What a mapping denotes. One that has the tag of a scalar stands for the value of its equals
sign; a date does not allow that. -/
def mappingMeaning (tag : Tag) (entries : List (Node × Node))
    (flat : Option (List (Node × Node))) : Meaning Value :=
  match tag with
  | .mapping =>
    (entriesMeaning flat).map fun es => .object (es.map fun e => (e.1.plainText, e.2))
  | .set => (entriesMeaning flat).map fun es => .set (es.map Prod.fst)
  | .timestamp =>
    -- a mapping may give a scalar by the key `=`
    match textAtEquals? entries with
    | none => .fault Fault.misfit.decodeFault
    | some _ => .fault (.noSuchValue .notText)
  | other =>
    match textAtEquals? entries with
    | none => other.misfitMeaning "mapping" none
    | some text => textMeaning other text none

/-- The mapping of some entries. -/
def ofEntries (tag : Tag) (entries : List (Node × Node)) : Node :=
  let flat := flatten? entries
  .mapping tag entries flat (mappingMeaning tag entries flat)

end Node

end Parlance.Yaml
