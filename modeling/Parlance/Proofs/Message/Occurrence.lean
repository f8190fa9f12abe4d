import Parlance.Placeholder.Inference

/-!
# Occurrences of names in messages

A name occurs in a message where a node at any depth writes it out, chooses by it, or shows it as a
date or time. `Occurs` says so without walking. A walk that comes to its end meets just the nodes
that stand in the message (`node_mem_ofMessage_iff`), so that the roles collected in messages are
those in which names occur (`tallies_usagesOf`).
-/

namespace Parlance

/-- How a node uses a name: it writes the value out, or gives the name a role. -/
inductive Use where
  | plain
  | role (r : Role)
deriving DecidableEq, Repr

/-- The name that a node uses, and how. -/
def Node.usage? : Node → Option (String × Use)
  | .text _ _ => none
  | .reference name _ => some (name, .plain)
  | .choice .plural name _ _ => some (name, .role .plural)
  | .choice .select name _ _ => some (name, .role .select)
  | .argument name _ _ _ => some (name, .role .dateTime)

/-- A node stands in a message, at some depth. -/
inductive Within : Message → Node → Prop
  | top {m : Message} {n : Node} (h : n ∈ m) : Within m n
  | inside {m : Message} {kind : ChoiceKind} {name : String} {branches : List Branch} {span : Span}
      {b : Branch} {n : Node} (hchoice : .choice kind name branches span ∈ m)
      (hbranch : b ∈ branches) (h : Within b.message n) : Within m n

/-- A name occurs in a message in a certain use. -/
def Occurs (m : Message) (name : String) (use : Use) : Prop :=
  ∃ n, Within m n ∧ n.usage? = some (name, use)

/-- A name occurs in some of the messages in a certain use. -/
def UsedIn (messages : List Message) (name : String) (use : Use) : Prop :=
  ∃ m ∈ messages, Occurs m name use

/-! ## Nodes at any depth -/

/-- Nothing stands in (`Within`) a message without nodes. -/
theorem not_within_nil (n : Node) : ¬ Within [] n := by
  intro h
  cases h with
  | top h => cases h
  | inside hchoice => cases hchoice

/-- What stands in a message (`Within`) stands in every message with more nodes. -/
theorem Within.mono {m more : Message} {n : Node} (h : Within m n) (hsub : m ⊆ more) :
    Within more n := by
  cases h with
  | top h => exact .top (hsub h)
  | inside hchoice hbranch h => exact .inside (hsub hchoice) hbranch h

/-- What stands in a message (`Within`) stands in its first node or in the rest. -/
private theorem within_cons_iff {first n : Node} {rest : Message} :
    Within (first :: rest) n ↔ Within [first] n ∨ Within rest n := by
  constructor
  · intro h
    cases h with
    | top h =>
      rcases List.mem_cons.1 h with rfl | h
      · exact .inl (.top List.mem_cons_self)
      · exact .inr (.top h)
    | inside hchoice hbranch h =>
      -- A node inside a branch is in the choice, which is the first node or one of the rest.
      rcases List.mem_cons.1 hchoice with rfl | hchoice
      · exact .inl (.inside List.mem_cons_self hbranch h)
      · exact .inr (.inside hchoice hbranch h)
  · rintro (h | h)
    · exact h.mono (by simp)
    · exact h.mono (List.subset_cons_self _ _)

/-- In a message of one choice stand the choice and what stands in its branches (`Within`). -/
theorem within_choice_iff {kind : ChoiceKind} {name : String} {branches : List Branch}
    {span : Span} {n : Node} :
    Within [.choice kind name branches span] n ↔
      n = .choice kind name branches span ∨ ∃ b ∈ branches, Within b.message n := by
  constructor
  · intro h
    -- the message has one part, so only a branch of it has others
    cases h with
    | top h => exact .inl (List.mem_singleton.1 h)
    | inside hchoice hbranch h =>
      cases List.mem_singleton.1 hchoice
      exact .inr ⟨_, hbranch, h⟩
  · rintro (rfl | ⟨b, hbranch, h⟩)
    · exact .top List.mem_cons_self
    · exact .inside List.mem_cons_self hbranch h

/-- In a message of one node that is no choice stands only the node (`Within`). -/
theorem within_single_iff {first n : Node}
    (hfirst : ∀ kind name branches span, first ≠ .choice kind name branches span) :
    Within [first] n ↔ n = first := by
  constructor
  · intro h
    cases h with
    | top h => exact List.mem_singleton.1 h
    | inside hchoice => exact absurd (List.mem_singleton.1 hchoice).symm (hfirst _ _ _ _)
  · rintro rfl
    exact .top (by simp)

/-! ## Names that occur -/

/-- What occurs (`Occurs`) in a message occurs in its first node or in the rest. -/
theorem occurs_cons_iff {n : Node} {rest : Message} {name : String} {use : Use} :
    Occurs (n :: rest) name use ↔ Occurs [n] name use ∨ Occurs rest name use := by
  constructor
  · rintro ⟨inner, hinner, huse⟩
    exact (within_cons_iff.1 hinner).imp (fun h => ⟨inner, h, huse⟩) (fun h => ⟨inner, h, huse⟩)
  · rintro (⟨inner, hinner, huse⟩ | ⟨inner, hinner, huse⟩)
    · exact ⟨inner, within_cons_iff.2 (.inl hinner), huse⟩
    · exact ⟨inner, within_cons_iff.2 (.inr hinner), huse⟩

/-- Nothing occurs (`Occurs`) in a message without nodes. -/
theorem not_occurs_nil (name : String) (use : Use) : ¬ Occurs [] name use := by
  rintro ⟨n, hn, -⟩
  exact not_within_nil n hn

/-- In a message of one node that is no choice occurs (`Occurs`) only what the node uses. -/
theorem occurs_single_iff {n : Node}
    (hn : ∀ kind name branches span, n ≠ .choice kind name branches span) {name : String}
    {use : Use} : Occurs [n] name use ↔ n.usage? = some (name, use) := by
  simp only [Occurs, within_single_iff hn, exists_eq_left]

/-- In a message of one choice occur (`Occurs`) the name that it chooses by and what occurs in its
branches. -/
theorem occurs_choice_iff {kind : ChoiceKind} {own : String} {branches : List Branch} {span : Span}
    {name : String} {use : Use} :
    Occurs [.choice kind own branches span] name use ↔
      (Node.choice kind own branches span).usage? = some (name, use) ∨
        ∃ b ∈ branches, Occurs b.message name use := by
  constructor
  · rintro ⟨n, hn, huse⟩
    rcases within_choice_iff.1 hn with rfl | ⟨b, hb, hinner⟩
    · exact .inl huse
    · exact .inr ⟨b, hb, n, hinner, huse⟩
  · rintro (huse | ⟨b, hb, n, hinner, huse⟩)
    · exact ⟨_, within_choice_iff.2 (.inl rfl), huse⟩
    · exact ⟨n, within_choice_iff.2 (.inr ⟨b, hb, hinner⟩), huse⟩

/-! ## Walks meet all that stands in a message -/

/-- Two walks come to their end (`Walk.complete`) if and only if each one does. -/
private theorem complete_andThen_iff {a b : Walk} :
    (a.andThen b).complete = true ↔ a.complete = true ∧ b.complete = true := by
  rw [Walk.andThen]
  split <;> simp_all

/-- A walk behind one that comes to its end visits its parts (`Walk.visited`) after those of the
first. -/
private theorem visited_andThen {a b : Walk} (ha : a.complete = true) :
    (a.andThen b).visited = a.visited ++ b.visited := by
  rw [Walk.andThen, if_pos ha]

/-- A walk that goes into a part to its end visits (`visit`) the part and then what it holds. -/
private theorem visited_visit {isLeaf : PartClass → Bool} {part : Part} {depth : Nat}
    {inside : Walk} (hleaf : isLeaf part.classOf = false)
    (h : (Walk.visit isLeaf part depth inside).complete = true) :
    inside.complete = true ∧
      (Walk.visit isLeaf part depth inside).visited = part :: inside.visited := by
  rw [Walk.visit, if_neg (by simp [hleaf])] at h ⊢
  split at h
  · cases h
  · next hdepth =>
    rw [if_neg hdepth]
    exact ⟨h, rfl⟩

/-- A visit (`visit`) to a part that holds nothing visits the part, whether it is a leaf or not. -/
private theorem visited_visit_empty (isLeaf : PartClass → Bool) (part : Part) (depth : Nat) :
    (Walk.visit isLeaf part depth Walk.empty).visited = [part] := by
  rw [Walk.visit]
  split
  · rfl
  · split <;> rfl

mutual

/-- A walk through nodes (`ofNodes`) that comes to its end meets just the nodes that stand among
them. -/
theorem node_mem_ofNodes_iff (n : Node) : ∀ (nodes : List Node) (depth : Nat),
    (Walk.ofNodes Usages.isLeaf depth nodes).complete = true →
    (Part.node n ∈ (Walk.ofNodes Usages.isLeaf depth nodes).visited ↔ Within nodes n)
  | [], _, _ => by
    rw [Walk.ofNodes]
    simpa [Walk.empty] using not_within_nil n
  | first :: rest, depth, h => by
    rw [Walk.ofNodes] at h ⊢
    obtain ⟨hfirst, hrest⟩ := complete_andThen_iff.1 h
    rw [visited_andThen hfirst, List.mem_append, within_cons_iff,
      node_mem_ofNode_iff n first depth hfirst, node_mem_ofNodes_iff n rest depth hrest]

/-- A walk through a node (`ofNode`) that comes to its end meets the node and what stands in it. -/
theorem node_mem_ofNode_iff (n : Node) : ∀ (first : Node) (depth : Nat),
    (Walk.ofNode Usages.isLeaf depth first).complete = true →
    (Part.node n ∈ (Walk.ofNode Usages.isLeaf depth first).visited ↔ Within [first] n)
  | .text _ _, _, _ => by
    rw [Walk.ofNode, visited_visit_empty, within_single_iff (by simp)] <;> simp
  | .reference _ _, _, _ => by
    rw [Walk.ofNode, visited_visit_empty, within_single_iff (by simp)] <;> simp
  | .argument _ _ _ _, _, _ => by
    rw [Walk.ofNode, visited_visit_empty, within_single_iff (by simp)] <;> simp
  | .choice kind name branches span, depth, h => by
    rw [Walk.ofNode] at h ⊢
    -- A choice is no leaf for the collector, so the walk goes into its branches.
    have hleaf : Usages.isLeaf (Part.node (.choice kind name branches span)).classOf = false := by
      cases kind <;> rfl
    obtain ⟨hinside, hvisited⟩ := visited_visit hleaf h
    rw [hvisited, List.mem_cons, Part.node.injEq, within_choice_iff,
      node_mem_ofBranches_iff n branches (depth - 1) hinside]

/-- A walk through branches (`ofBranches`) that comes to its end meets just what stands in them. -/
theorem node_mem_ofBranches_iff (n : Node) : ∀ (branches : List Branch) (depth : Nat),
    (Walk.ofBranches Usages.isLeaf depth branches).complete = true →
    (Part.node n ∈ (Walk.ofBranches Usages.isLeaf depth branches).visited ↔
      ∃ b ∈ branches, Within b.message n)
  | [], _, _ => by
    rw [Walk.ofBranches]
    simp [Walk.empty]
  | .mk key message span :: rest, depth, h => by
    rw [Walk.ofBranches] at h ⊢
    obtain ⟨hfirst, hrest⟩ := complete_andThen_iff.1 h
    rw [visited_andThen hfirst, List.mem_append, node_mem_ofBranches_iff n rest depth hrest]
    rw [Walk.ofBranch] at hfirst ⊢
    -- a branch and its message are parts of their own around the nodes
    obtain ⟨hinner, hvisited⟩ := visited_visit rfl hfirst
    obtain ⟨hnodes, hvisited'⟩ := visited_visit rfl hinner
    rw [hvisited, hvisited']
    have hmem := node_mem_ofNodes_iff n message (depth - 2) hnodes
    simp [hmem, Branch.message]

end

/-- A walk through a message (`ofMessage`) that comes to its end meets just the nodes that stand in
it. -/
theorem node_mem_ofMessage_iff {m : Message} {n : Node} {depth : Nat}
    (h : (Walk.ofMessage Usages.isLeaf depth m).complete = true) :
    Part.node n ∈ (Walk.ofMessage Usages.isLeaf depth m).visited ↔ Within m n := by
  rw [Walk.ofMessage] at h ⊢
  obtain ⟨hinside, hvisited⟩ := visited_visit rfl h
  rw [hvisited]
  simpa using node_mem_ofNodes_iff n m (depth - 1) hinside

/-! ## Roles that are recorded -/

namespace Use

/-- The set of one use. -/
def roles : Use → Roles
  | plain => { Roles.none with plain := true }
  | role .plural => { Roles.none with plural := true }
  | role .select => { Roles.none with select := true }
  | role .dateTime => { Roles.none with dateTime := true }

end Use

namespace Roles

/-- Whether a use is among the roles. -/
def has (r : Roles) : Use → Bool
  | .plain => r.plain
  | .role .plural => r.plural
  | .role .select => r.select
  | .role .dateTime => r.dateTime

/-- Without roles there is no use. -/
@[simp] private theorem has_none (use : Use) : none.has use = false := by
  rcases use with _ | r
  · rfl
  · cases r <;> rfl

/-- Roles that are put together tell the uses of both. -/
@[simp] private theorem has_union (a b : Roles) (use : Use) :
    (a.union b).has use = (a.has use || b.has use) := by
  rcases use with _ | r
  · rfl
  · cases r <;> rfl

/-- The roles of one use tell just this use. -/
@[simp] private theorem has_roles_iff (one use : Use) : one.roles.has use = true ↔ use = one := by
  rcases one with _ | r <;> rcases use with _ | s
  · simp [Use.roles, has]
  · cases s <;> simp [Use.roles, has, none]
  · cases r <;> simp [Use.roles, has, none]
  · cases r <;> cases s <;> simp [Use.roles, has, none]

end Roles

/-- A part (`ofPart?`) of a message is recorded as the use that the node is. -/
theorem ofPart?_node (n : Node) :
    Usages.ofPart? (.node n) = n.usage?.map fun u => (u.1, u.2.roles) := by
  cases n with
  | text => rfl
  | reference => rfl
  | argument => rfl
  | choice kind => cases kind <;> rfl

/-- The names and roles in a list of usages are those of a relation, each name once. -/
structure Tallies (usages : Usages) (occurs : String → Use → Prop) : Prop where
  has_iff : ∀ name use, (usages.rolesOf name).has use = true ↔ occurs name use
  mem_iff : ∀ name, name ∈ usages.map (·.1) ↔ ∃ use, occurs name use
  nodup : (usages.map (·.1)).Nodup

variable {usages : Usages} {occurs : String → Use → Prop}

/-- Usages that tally with some occurrences tally with the same ones told differently. -/
theorem Tallies.congr {others : String → Use → Prop} (h : Tallies usages occurs)
    (heq : ∀ name use, others name use ↔ occurs name use) : Tallies usages others := by
  have : others = occurs := by
    funext name use
    exact propext (heq name use)
  rwa [this]

/-- No usages tally with no occurrences. -/
theorem tallies_nil : Tallies [] fun _ _ => False :=
  ⟨by simp [Usages.rolesOf], by simp, by simp⟩

/-- The roles (`rolesOf`) of a name are those of the first entry with it. -/
private theorem rolesOf_cons (u : String × Roles) (rest : Usages) (name : String) :
    Usages.rolesOf (u :: rest) name = if u.1 = name then u.2 else rest.rolesOf name := by
  by_cases h : u.1 = name <;> simp [Usages.rolesOf, h]

/-- Recording (`record`) a use adds it to the roles of its name and of no other. -/
theorem rolesOf_record (usages : Usages) (name other : String) (roles : Roles) :
    (usages.record name roles).rolesOf other =
      if other = name then (usages.rolesOf name).union roles else usages.rolesOf other := by
  induction usages with
  | nil =>
    -- Only the entry of `name` changes, and where there is none, one is added at the end.
    by_cases h : other = name
    · subst h
      cases roles
      simp [Usages.record, Usages.rolesOf, Roles.none, Roles.union]
    · simp [Usages.record, Usages.rolesOf, h, Ne.symm h]
  | cons u rest ih =>
    rw [Usages.record]
    split
    · next heq =>
      by_cases h : other = name
      · simp [rolesOf_cons, heq, h]
      · simp [rolesOf_cons, heq, h, Ne.symm h]
    · next hne =>
      rw [rolesOf_cons, rolesOf_cons, rolesOf_cons, ih]
      by_cases h : other = name
      · simp [h, hne]
      · simp [h]

/-- Recording (`record`) a use puts its name at the end unless it is there already. -/
theorem names_record (usages : Usages) (name : String) (roles : Roles) :
    (usages.record name roles).map (·.1) =
      if name ∈ usages.map (·.1) then usages.map (·.1) else usages.map (·.1) ++ [name] := by
  induction usages with
  | nil => simp [Usages.record]
  | cons u rest ih =>
    rw [Usages.record]
    split
    · next heq => simp [heq]
    · next hne =>
      rw [List.map_cons, ih]
      by_cases h : name ∈ rest.map (·.1) <;> simp_all [Ne.symm hne]

/-- Recording (`record`) a use keeps the tally, with one more occurrence. -/
theorem Tallies.record (h : Tallies usages occurs) (name : String) (use : Use) :
    Tallies (usages.record name use.roles)
      fun other u => occurs other u ∨ (other, u) = (name, use) := by
  refine ⟨fun other u => ?_, fun other => ?_, ?_⟩
  · rw [rolesOf_record]
    by_cases hother : other = name
    · simp [hother, ← h.has_iff]
    · simp [hother, ← h.has_iff]
  · have hmem := h.mem_iff other
    rw [names_record]
    -- A new name is put at the end; one that is there keeps its place.
    by_cases hname : name ∈ usages.map (·.1)
    · rw [if_pos hname, hmem]
      constructor
      · rintro ⟨u, hu⟩
        exact ⟨u, .inl hu⟩
      · rintro ⟨u, hu | hu⟩
        · exact ⟨u, hu⟩
        · cases hu
          exact (h.mem_iff name).1 hname
    · rw [if_neg hname, List.mem_append, hmem, List.mem_singleton]
      constructor
      · rintro (⟨u, hu⟩ | rfl)
        · exact ⟨u, .inl hu⟩
        · exact ⟨use, .inr rfl⟩
      · rintro ⟨u, hu | hu⟩
        · exact .inl ⟨u, hu⟩
        · cases hu
          exact .inr rfl
  · rw [names_record]
    split
    · exact h.nodup
    · next hname =>
      exact List.nodup_append.2 ⟨h.nodup, by simp, by
        intro a ha b hb heq
        rw [List.mem_singleton.1 hb] at heq
        exact hname (heq ▸ ha)⟩

/-- Recording parts (`recordParts`) adds the uses that the nodes among them are. -/
theorem Tallies.recordParts (h : Tallies usages occurs) (parts : List Part) :
    Tallies (usages.recordParts parts) fun name use =>
      occurs name use ∨ ∃ n, .node n ∈ parts ∧ n.usage? = some (name, use) := by
  induction parts generalizing usages occurs with
  | nil => exact h.congr (by simp)
  | cons part rest ih =>
    cases hpart : Usages.ofPart? part with
    | none =>
      have hstep : usages.recordParts (part :: rest) = usages.recordParts rest := by
        simp [Usages.recordParts, hpart]
      rw [hstep]
      refine (ih h).congr fun name use => or_congr_right ?_
      -- what records nothing is no node that uses a name
      have hnone : ∀ n, part = .node n → n.usage? = none := by
        rintro n rfl
        simpa [ofPart?_node] using hpart
      constructor
      · rintro ⟨n, hn, huse⟩
        rcases List.mem_cons.1 hn with heq | hn
        · rw [hnone n heq.symm] at huse
          cases huse
        · exact ⟨n, hn, huse⟩
      · rintro ⟨n, hn, huse⟩
        exact ⟨n, List.mem_cons_of_mem _ hn, huse⟩
    | some u =>
      obtain ⟨n, rfl⟩ : ∃ n, part = .node n := by
        cases part with
        | node n => exact ⟨n, rfl⟩
        | message => cases hpart
        | branch => cases hpart
      obtain ⟨⟨name, use⟩, huse, rfl⟩ := Option.map_eq_some_iff.1 (ofPart?_node n ▸ hpart)
      have hstep : usages.recordParts (.node n :: rest) =
          (usages.record name use.roles).recordParts rest := by
        simp [Usages.recordParts, hpart]
      rw [hstep]
      refine (ih (h.record name use)).congr fun other u => ?_
      simp only [List.mem_cons, Part.node.injEq, or_and_right, exists_or, exists_eq_left, huse,
        Option.some.injEq, or_assoc, eq_comm (a := (name, use))]

/-- Collecting (`collect`) the uses in a message that is walked through adds what occurs in it. -/
theorem Tallies.collect (h : Tallies usages occurs) {m : Message}
    (hcomplete : (usages.collect m).2 = true) :
    Tallies (usages.collect m).1 fun name use => occurs name use ∨ Occurs m name use := by
  refine (h.recordParts _).congr fun name use => or_congr_right ?_
  have hnodes := fun n => node_mem_ofMessage_iff (n := n) hcomplete
  simp only [hnodes]
  rfl

/-- The uses in several messages are what occurs in some of them. -/
theorem Tallies.usagesOf (h : Tallies usages occurs) {messages : List Message} {all : Usages}
    (hall : Inferred.usagesOf usages messages = .ok all) :
    Tallies all fun name use => occurs name use ∨ UsedIn messages name use := by
  induction messages generalizing usages occurs with
  | nil =>
    cases hall
    exact h.congr (by simp [UsedIn])
  | cons m rest ih =>
    simp only [Inferred.usagesOf] at hall
    split at hall
    · next hcomplete =>
      -- the uses in `m` are collected before those in the rest
      refine (ih (h.collect hcomplete) hall).congr fun name use => ?_
      simp [UsedIn, or_assoc]
    · cases hall

/-- The uses that are collected in messages are those that occur in them. -/
theorem tallies_usagesOf {messages : List Message} {all : Usages}
    (h : Inferred.usagesOf [] messages = .ok all) : Tallies all (UsedIn messages) :=
  (tallies_nil.usagesOf h).congr (by simp)

end Parlance
