import Mathlib.Data.List.Basic
import Parlance.Message.Visitor

/-!
# Outlines of messages

A part of a message is found from a part around it by the steps that lead to it: which of the parts
held there one goes into, and so on (`StandsAt`). An outline lists all parts that are found without
going into a leaf, in the order of their paths, in which a part comes before what it holds, and what
is held comes in the order of the source. Every walk goes through an outline, to its end or to the
first part that lies too deep (`exists_traced`).
-/

namespace Parlance

/-! ## Parts inside parts -/

namespace Part

/-- The parts that a part holds, in the order of the source. -/
def held : Part → List Part
  | message m => m.map node
  | branch b => [message b.message]
  | node (.choice _ _ branches _) => branches.map branch
  | node _ => []

variable {P : Part → Prop}

-- the induction goes down a message through its nodes, their branches and the messages of these
mutual

/-- Induction over parts, for a node. -/
private theorem induct_node (h : ∀ p, (∀ q ∈ p.held, P q) → P p) : ∀ n : Node, P (node n)
  | .text _ _ => h _ (by simp [held])
  | .reference _ _ => h _ (by simp [held])
  | .argument _ _ _ _ => h _ (by simp [held])
  | .choice _ _ branches _ => h _ fun q hq => by
    obtain ⟨b, hb, rfl⟩ := List.mem_map.1 hq
    exact induct_branches h branches b hb

/-- Induction over parts, for each of several branches. -/
private theorem induct_branches (h : ∀ p, (∀ q ∈ p.held, P q) → P p) :
    ∀ branches : List Branch, ∀ b ∈ branches, P (branch b)
  | [], _, hb => by cases hb
  | .mk key inner span :: rest, b, hb => by
    rcases List.mem_cons.1 hb with heq | hb
    · refine heq ▸ h _ fun q hq => ?_
      obtain rfl := List.mem_singleton.1 hq
      refine h _ fun q hq => ?_
      obtain ⟨n, hn, rfl⟩ := List.mem_map.1 hq
      exact induct_nodes h inner n hn
    · exact induct_branches h rest b hb

/-- Induction over parts, for each of several nodes. -/
private theorem induct_nodes (h : ∀ p, (∀ q ∈ p.held, P q) → P p) :
    ∀ nodes : List Node, ∀ n ∈ nodes, P (node n)
  | [], _, hn => by cases hn
  | first :: rest, n, hn => by
    rcases List.mem_cons.1 hn with heq | hn
    · exact heq ▸ induct_node h first
    · exact induct_nodes h rest n hn

end

/-- What passes from the parts that a part holds to the part itself holds of all parts. -/
theorem induct (h : ∀ p, (∀ q ∈ p.held, P q) → P p) (p : Part) : P p := by
  cases p with
  | message m =>
    refine h _ fun q hq => ?_
    obtain ⟨n, -, rfl⟩ := List.mem_map.1 hq
    exact induct_node h n
  | branch b => exact induct_branches h [b] b (by simp)
  | node n => exact induct_node h n

end Part

/-! ## Places -/

/-- Whether the steps of a path lead from one part to another, and into no leaf on the way. -/
inductive StandsAt (isLeaf : PartClass → Bool) : Part → List Nat → Part → Prop
  | here {p : Part} : StandsAt isLeaf p [] p
  | inside {p q r : Part} {i : Nat} {path : List Nat} (hleaf : isLeaf p.classOf = false)
      (hheld : p.held[i]? = some q) (h : StandsAt isLeaf q path r) : StandsAt isLeaf p (i :: path) r

/-- A part, with the path that leads to it. -/
structure Place where
  path : List Nat
  part : Part

namespace Place

/-- The depth of a place; the part where all paths start is at depth one. -/
def depth (p : Place) : Nat := p.path.length + 1

/-- A place as it is found from the part around. -/
def below (i : Nat) (p : Place) : Place := ⟨i :: p.path, p.part⟩

end Place

/-- The places of all parts that are found without going into a leaf, in order of their paths. -/
structure Outline (isLeaf : PartClass → Bool) (root : Part) (places : List Place) : Prop where
  ordered : places.Pairwise fun a b => a.path < b.path
  mem_iff : ∀ p : Place, p ∈ places ↔ StandsAt isLeaf root p.path p.part

/-- A part has only one outline (`Outline`). -/
theorem Outline.unique {isLeaf : PartClass → Bool} {root : Part} {places places' : List Place}
    (h : Outline isLeaf root places) (h' : Outline isLeaf root places') : places = places' := by
  have hne : ∀ a b : Place, a.path < b.path → a ≠ b := by
    rintro a _ hlt rfl
    exact List.lt_irrefl _ hlt
  have hperm := (List.perm_ext_iff_of_nodup (h.ordered.imp (hne _ _)) (h'.ordered.imp (hne _ _))).2
    fun p => (h.mem_iff p).trans (h'.mem_iff p).symm
  exact hperm.eq_of_pairwise (fun _ _ _ _ hlt hlt' => absurd hlt' (List.lt_asymm hlt)) h.ordered
    h'.ordered

/-- The places inside the parts of a list, the first of which is reached by the step `first`. -/
structure OutlineFrom (isLeaf : PartClass → Bool) (first : Nat) (parts : List Part)
    (places : List Place) : Prop where
  ordered : places.Pairwise fun a b => a.path < b.path
  mem_iff : ∀ p : Place, p ∈ places ↔ ∃ i q path, parts[i]? = some q ∧
    p.path = (first + i) :: path ∧ StandsAt isLeaf q path p.part

variable {isLeaf : PartClass → Bool}

/-- At the empty path stands (`StandsAt`) the part itself. -/
theorem standsAt_nil_iff {p q : Part} : StandsAt isLeaf p [] q ↔ p = q := by
  constructor
  · rintro ⟨⟩
    rfl
  · rintro rfl
    exact .here

/-- A path leads into one of the parts that a part holds, if the part is no leaf. -/
theorem standsAt_cons_iff {p r : Part} {i : Nat} {path : List Nat} :
    StandsAt isLeaf p (i :: path) r ↔
      isLeaf p.classOf = false ∧ ∃ q, p.held[i]? = some q ∧ StandsAt isLeaf q path r := by
  constructor
  · rintro (_ | ⟨hleaf, hheld, h⟩)
    exact ⟨hleaf, _, hheld, h⟩
  · rintro ⟨hleaf, q, hheld, h⟩
    exact .inside hleaf hheld h

/-- Without parts there are no places. -/
theorem outlineFrom_nil (first : Nat) : OutlineFrom isLeaf first [] [] :=
  ⟨.nil, by simp⟩

/-- The places inside a part come before those inside the parts after it. -/
theorem OutlineFrom.cons {first : Nat} {part : Part} {parts : List Part} {here after : List Place}
    (hhere : Outline isLeaf part here) (hafter : OutlineFrom isLeaf (first + 1) parts after) :
    OutlineFrom isLeaf first (part :: parts) (here.map (.below first) ++ after) := by
  -- all paths into the first part begin with one step, and all others with a later one
  constructor
  · refine List.pairwise_append.2 ⟨?_, hafter.ordered, fun a ha b hb => ?_⟩
    · refine List.pairwise_map.2 (hhere.ordered.imp fun hlt => ?_)
      exact List.cons_lt_cons_iff.2 (.inr ⟨rfl, hlt⟩)
    · obtain ⟨p, -, rfl⟩ := List.mem_map.1 ha
      obtain ⟨i, q, path, -, hpath, -⟩ := (hafter.mem_iff b).1 hb
      rw [hpath]
      exact List.cons_lt_cons_iff.2 (.inl (by omega))
  · intro p
    rw [List.mem_append, hafter.mem_iff p, List.mem_map]
    constructor
    · rintro (⟨q, hq, rfl⟩ | ⟨i, q, path, hheld, hpath, h⟩)
      · exact ⟨0, part, q.path, rfl, rfl, (hhere.mem_iff q).1 hq⟩
      · exact ⟨i + 1, q, path, hheld, by rw [hpath]; congr 1; omega, h⟩
    · rintro ⟨i, q, path, hheld, hpath, h⟩
      obtain ⟨own, target⟩ := p
      obtain rfl : own = (first + i) :: path := hpath
      cases i with
      | zero =>
        cases hheld
        exact .inl ⟨⟨path, target⟩, (hhere.mem_iff _).2 h, rfl⟩
      | succ i => exact .inr ⟨i, q, path, hheld, by simp; omega, h⟩

/-- A leaf is all that is found from it. -/
theorem outline_leaf {p : Part} (hleaf : isLeaf p.classOf = true) :
    Outline isLeaf p [⟨[], p⟩] := by
  refine ⟨List.pairwise_singleton _ _, ?_⟩
  rintro ⟨_ | ⟨i, path⟩, r⟩
  · simp [standsAt_nil_iff, eq_comm]
  · simp [standsAt_cons_iff, hleaf]

/-- A part that is no leaf comes before all that is found inside the parts that it holds. -/
theorem outline_cons {p : Part} {inside : List Place} (hleaf : isLeaf p.classOf = false)
    (hinside : OutlineFrom isLeaf 0 p.held inside) : Outline isLeaf p (⟨[], p⟩ :: inside) := by
  constructor
  · refine List.pairwise_cons.2 ⟨fun b hb => ?_, hinside.ordered⟩
    obtain ⟨i, q, path, -, hpath, -⟩ := (hinside.mem_iff b).1 hb
    rw [hpath]
    exact List.nil_lt_cons _ _
  · -- the part stands at the empty path, and what it holds at the longer ones
    rintro ⟨_ | ⟨i, path⟩, r⟩
    · rw [List.mem_cons, hinside.mem_iff, standsAt_nil_iff]
      simp [eq_comm]
    · rw [List.mem_cons, hinside.mem_iff, standsAt_cons_iff]
      simp [hleaf]

/-! ## Going through outlines -/

/-- What has come of going through parts: the parts visited, and what has put an end to it early. -/
structure Tour (ε : Type) where
  visited : List Part
  refusal : Option ε

variable {ε : Type}

namespace Tour

/-- A tour that visits nothing. -/
def empty : Tour ε := ⟨[], none⟩

/-- One tour and then another, which does not start if the first has come to an early end. -/
def andThen (a b : Tour ε) : Tour ε :=
  match a.refusal with
  | none => ⟨a.visited ++ b.visited, b.refusal⟩
  | some _ => a

/-- Nothing behind a tour leaves it as it is. -/
@[simp] theorem andThen_empty (a : Tour ε) : a.andThen empty = a := by
  cases a with
  | mk visited refusal => cases refusal <;> simp [andThen, empty]

end Tour

/-- Tours that go through places one after the other: to the end, or up to the first place that is
refused, which is still visited. -/
inductive GoesThrough (refusal? : Place → Option ε) : List Place → Tour ε → Prop
  | whole {places : List Place} (h : ∀ p ∈ places, refusal? p = none) :
      GoesThrough refusal? places ⟨places.map (·.part), none⟩
  | stopped {before after : List Place} {p : Place} {e : ε}
      (hbefore : ∀ q ∈ before, refusal? q = none) (hp : refusal? p = some e) :
      GoesThrough refusal? (before ++ p :: after) ⟨before.map (·.part) ++ [p.part], some e⟩

namespace GoesThrough

variable {refusal? : Place → Option ε} {places places' : List Place} {t t' : Tour ε}

/-- No places are gone through by no tour. -/
theorem nil : GoesThrough refusal? [] Tour.empty := .whole (by simp)

/-- A tour ends at a place that is refused, whatever comes after it. -/
theorem refused {p : Place} {e : ε} (hp : refusal? p = some e) (after : List Place) :
    GoesThrough refusal? (p :: after) ⟨[p.part], some e⟩ :=
  @GoesThrough.stopped ε refusal? [] after p e (by simp) hp

/-- Tours one after the other go through their places one after the other. -/
theorem append (h : GoesThrough refusal? places t) (h' : GoesThrough refusal? places' t') :
    GoesThrough refusal? (places ++ places') (t.andThen t') := by
  cases h with
  | whole hall =>
    cases h' with
    | whole hall' =>
      rw [Tour.andThen, ← List.map_append]
      exact .whole (List.forall_mem_append.2 ⟨hall, hall'⟩)
    | stopped hbefore hp =>
      rw [Tour.andThen, ← List.append_assoc, ← List.append_assoc, ← List.map_append]
      exact .stopped (List.forall_mem_append.2 ⟨hall, hbefore⟩) hp
  | stopped hbefore hp =>
    -- what comes after the place where the tour has ended does not matter
    rw [List.append_assoc, List.cons_append]
    exact .stopped hbefore hp

/-- A place that is not refused, and then others. -/
theorem cons {p : Place} (hp : refusal? p = none) (h : GoesThrough refusal? places t) :
    GoesThrough refusal? (p :: places) ⟨p.part :: t.visited, t.refusal⟩ :=
  append (.whole (List.forall_mem_singleton.2 hp)) h

/-- The same tour, told by the places as they are found from the part around. -/
theorem below {outer : Place → Option ε} {i : Nat} (h : GoesThrough refusal? places t)
    (houter : ∀ p : Place, outer (p.below i) = refusal? p) :
    GoesThrough outer (places.map (.below i)) t := by
  have hall : ∀ ps : List Place, (∀ p ∈ ps, refusal? p = none) →
      ∀ p ∈ ps.map (.below i), outer p = none := by
    intro ps hps p hp
    obtain ⟨q, hq, rfl⟩ := List.mem_map.1 hp
    exact (houter q).trans (hps q hq)
  -- A tour tells the parts it visits, and they do not depend on where paths start.
  have hparts : ∀ ps : List Place, (ps.map (Place.below i)).map Place.part = ps.map Place.part :=
    fun ps => List.map_map
  cases h with
  | whole hwhole => exact hparts places ▸ .whole (hall places hwhole)
  | stopped hbefore hp =>
    rw [List.map_append, List.map_cons, ← hparts]
    exact .stopped (hall _ hbefore) ((houter _).trans hp)

/-- A tour gets to the end if it meets no place that is refused. -/
theorem refusal_eq_none_iff (h : GoesThrough refusal? places t) :
    t.refusal = none ↔ ∀ p ∈ places, refusal? p = none := by
  cases h with
  | whole hall => exact iff_of_true rfl hall
  | @stopped before after p e hbefore hp =>
    refine iff_of_false nofun fun hall => ?_
    rw [hall p (by simp)] at hp
    cases hp

/-- A tour that got to the end has visited all places. -/
theorem visited_eq (h : GoesThrough refusal? places t) (hnone : t.refusal = none) :
    t.visited = places.map (·.part) := by
  cases h with
  | whole => rfl
  | stopped => cases hnone

/-- What ends a tour is the refusal of a place, and of none before it. -/
theorem exists_refused {e : ε} (h : GoesThrough refusal? places t) (he : t.refusal = some e) :
    ∃ before p after, places = before ++ p :: after ∧ (∀ q ∈ before, refusal? q = none) ∧
      refusal? p = some e := by
  cases h with
  | whole => cases he
  | stopped hbefore hp =>
    cases he
    exact ⟨_, _, _, rfl, hbefore, hp⟩

end GoesThrough

namespace Walk

/-- A walk as a tour: it has nothing to say of why it stops. -/
def toTour (w : Walk) : Tour Unit := ⟨w.visited, if w.complete then none else some ()⟩

/-- Walks one after the other make tours (`toTour`) one after the other. -/
private theorem toTour_andThen (w w' : Walk) : (w.andThen w').toTour = w.toTour.andThen w'.toTour :=
    by
  cases w with
  | mk visited complete => cases complete <;> rfl

/-- A walk comes to its end if and only if its tour is refused nothing. -/
theorem complete_iff (w : Walk) : w.complete = true ↔ w.toTour.refusal = none := by
  cases w with
  | mk visited complete => cases complete <;> simp [toTour]


/-- The walk through a part. -/
def ofPart (isLeaf : PartClass → Bool) (depth : Nat) : Part → Walk
  | .message m => ofMessage isLeaf depth m
  | .branch b => ofBranch isLeaf depth b
  | .node n => ofNode isLeaf depth n

/-- The walk through some parts. -/
def ofParts (isLeaf : PartClass → Bool) (depth : Nat) : List Part → Walk
  | [] => empty
  | p :: rest => (ofPart isLeaf depth p).andThen (ofParts isLeaf depth rest)

/-- A walk through nodes (`ofNodes`) is one through parts. -/
private theorem ofNodes_eq (depth : Nat) (nodes : List Node) :
    ofNodes isLeaf depth nodes = ofParts isLeaf depth (nodes.map .node) := by
  induction nodes with
  | nil => rw [ofNodes, List.map_nil, ofParts]
  | cons n rest ih => rw [ofNodes, List.map_cons, ofParts, ih, ofPart]

/-- A walk through branches (`ofBranches`) is one through parts. -/
private theorem ofBranches_eq (depth : Nat) (branches : List Branch) :
    ofBranches isLeaf depth branches = ofParts isLeaf depth (branches.map .branch) := by
  induction branches with
  | nil => rw [ofBranches, List.map_nil, ofParts]
  | cons b rest ih => rw [ofBranches, List.map_cons, ofParts, ih, ofPart]

/-- A walk through a part (`ofPart`) visits it and then goes through the parts that it holds. -/
theorem ofPart_eq (depth : Nat) (p : Part) :
    ofPart isLeaf depth p = visit isLeaf p depth (ofParts isLeaf (depth - 1) p.held) := by
  cases p with
  | message m => rw [ofPart, ofMessage, ofNodes_eq, Part.held]
  | branch b =>
    cases b with
    | mk key message span =>
      -- a branch holds its message alone, which holds the nodes
      rw [ofPart, ofBranch, ofNodes_eq, Part.held, ofParts, ofParts, andThen_empty, ofPart,
        ofMessage, ofNodes_eq]
      rfl
  | node n =>
    cases n with
    | choice kind name branches span => rw [ofPart, ofNode, ofBranches_eq, Part.held]
    | text | reference | argument =>
      rw [ofPart, ofNode, Part.held, ofParts] <;> simp

end Walk

/-! ## Every part has an outline -/

/-- Where a walk stops that may go so deep. -/
def Place.stop? (isLeaf : PartClass → Bool) (depth : Nat) (p : Place) : Option Unit :=
  if isLeaf p.part.classOf = false ∧ depth < p.depth then some () else none

/-- A place one level deeper is stopped at one level later. -/
private theorem Place.stop?_below {depth i : Nat} {p : Place} :
    (p.below i).stop? isLeaf (depth + 1) = p.stop? isLeaf depth :=
  if_congr (and_congr_right' (by simp [below, Place.depth])) rfl rfl

/-- Places that are the outline of a part, and through which all walks through the part go. -/
structure Traced (isLeaf : PartClass → Bool) (root : Part) (places : List Place) : Prop where
  outline : Outline isLeaf root places
  walk : ∀ depth : Nat,
    GoesThrough (Place.stop? isLeaf depth) places (Walk.ofPart isLeaf depth root).toTour

private theorem exists_traced_from {parts : List Part}
    (h : ∀ p ∈ parts, ∃ places, Traced isLeaf p places) (first : Nat) :
    ∃ places, OutlineFrom isLeaf first parts places ∧ ∀ depth : Nat,
      GoesThrough (Place.stop? isLeaf (depth + 1)) places
        (Walk.ofParts isLeaf depth parts).toTour := by
  induction parts generalizing first with
  | nil => exact ⟨[], outlineFrom_nil first, fun depth => by rw [Walk.ofParts]; exact .nil⟩
  | cons p rest ih =>
    obtain ⟨⟨here, hhere⟩, hrest⟩ := List.forall_mem_cons.1 h
    obtain ⟨after, hafter, hwalks⟩ := ih hrest (first + 1)
    refine ⟨_, hafter.cons hhere.outline, fun depth => ?_⟩
    rw [Walk.ofParts, Walk.toTour_andThen]
    exact ((hhere.walk depth).below fun _ => Place.stop?_below).append (hwalks depth)

/-- Every part has an outline, and a walk through the part goes through the outline up to the first
place that lies too deep for it. -/
theorem exists_traced (isLeaf : PartClass → Bool) (root : Part) :
    ∃ places, Traced isLeaf root places := by
  induction root using Part.induct with
  | h p ih =>
    cases hleaf : isLeaf p.classOf with
    | true =>
      refine ⟨_, outline_leaf hleaf, fun depth => ?_⟩
      rw [Walk.ofPart_eq, Walk.visit, if_pos hleaf]
      exact .whole (by simp [Place.stop?, hleaf])
    | false =>
      obtain ⟨inside, hinside, hwalks⟩ := exists_traced_from ih 0
      refine ⟨_, outline_cons hleaf hinside, fun depth => ?_⟩
      rw [Walk.ofPart_eq, Walk.visit, if_neg (by simp [hleaf])]
      cases depth with
      | zero =>
        -- the part itself is the first place that lies too deep
        rw [if_pos rfl]
        exact .refused (p := ⟨[], p⟩) (by simp [Place.stop?, Place.depth, hleaf]) inside
      | succ depth =>
        rw [if_neg (Nat.succ_ne_zero depth)]
        exact .cons (p := ⟨[], p⟩) (by simp [Place.stop?, Place.depth]) (hwalks depth)

/-! ## What lies on the way -/

/-- The way to a part leads through parts that are no leaves. -/
theorem StandsAt.exists_take {p r : Part} {path : List Nat} (h : StandsAt isLeaf p path r) {n : Nat}
    (hn : n < path.length) :
    ∃ q, StandsAt isLeaf p (path.take n) q ∧ isLeaf q.classOf = false := by
  induction h generalizing n with
  | here => cases hn
  | @inside p q r i path hleaf hheld h ih =>
    cases n with
    | zero => exact ⟨p, .here, hleaf⟩
    | succ n =>
      obtain ⟨s, hs, hleaf'⟩ := ih (Nat.lt_of_succ_lt_succ hn)
      exact ⟨s, .inside hleaf hheld hs, hleaf'⟩

/-- What lies on the way to a place comes before it in the outline (`Outline`). -/
theorem Outline.exists_before {root : Part} {before after : List Place} {p : Place} {n : Nat}
    (h : Outline isLeaf root (before ++ p :: after)) (hn : n < p.path.length) :
    ∃ q ∈ before, q.path.length = n ∧ isLeaf q.part.classOf = false := by
  obtain ⟨q, hq, hleaf⟩ := ((h.mem_iff p).1 (by simp)).exists_take hn
  have hlength : (p.path.take n).length = n := List.length_take_of_le (Nat.le_of_lt hn)
  refine ⟨⟨p.path.take n, q⟩, ?_, hlength, hleaf⟩
  have hmem := (h.mem_iff ⟨p.path.take n, q⟩).2 hq
  -- A shorter path comes first among the paths that it begins, so the place is on the left.
  have hlt : p.path.take n < p.path := by
    have hdrop : p.path.take n ++ [] < p.path.take n ++ p.path.drop n := by
      refine List.append_left_lt ?_
      rw [List.drop_eq_getElem_cons hn]
      exact List.nil_lt_cons _ _
    rwa [List.append_nil, List.take_append_drop] at hdrop
  have hordered := (List.pairwise_append.1 h.ordered).2.1
  rcases List.mem_append.1 hmem with hbefore | hafter
  · exact hbefore
  · rcases List.mem_cons.1 hafter with heq | hafter
    · have hpath : p.path.take n = p.path := congrArg Place.path heq
      rw [hpath] at hlength
      exact absurd hlength (Nat.ne_of_gt hn)
    · exact absurd hlt (List.lt_asymm (List.rel_of_pairwise_cons hordered hafter))

end Parlance
