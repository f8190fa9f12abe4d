import Parlance.Proofs.Message.Outline

/-!
# What visitors do

A visitor goes through the outline of a part, up to the first place for which it lacks either
levels or calls (`Place.fault?`). It comes back with the guard as it was, and what it remembers of
the classes that it has met is what it would find out again (`Visitor.Recalls`). So a visitor that
has been used before, whatever came of it, goes through a part as a new one does
(`visits_outline`).

Levels are not calls: a visit spends several calls on each level, and a limit that was clamped to
what the call stack bears may still be greater than what a visit can go down
(`visitPart_outOfCalls_nested`). A visit that has calls enough for its limit (`CallCosts.Lasts`) is
refused for its depth or not at all.
-/

namespace Parlance

variable {isLeaf : PartClass → Bool} {costs : CallCosts} {α β : Type}

/-! ## Why a place is not visited -/

namespace DepthGuard

/-- The guard one level deeper. -/
def deeper (g : DepthGuard) : DepthGuard := { g with depth := g.depth + 1 }

/-- Leaving (`leave`) a level that was entered gives the guard back. -/
private theorem leave_deeper (g : DepthGuard) : g.deeper.leave = g := by simp [deeper, leave]

end DepthGuard

namespace Place

/-- Why the visit to a place is not done, if it is not, by a visitor that comes with this guard and
so many calls to the part where all paths start. -/
def fault? (isLeaf : PartClass → Bool) (costs : CallCosts) (g : DepthGuard) (calls : Nat)
    (p : Place) : Option VisitFault :=
  let left := calls - costs.level * p.path.length
  if isLeaf p.part.classOf then (if left < costs.leaf then some .outOfCalls else none)
  else if g.limit < g.depth + p.depth then
    some (if left < costs.refuse then .outOfCalls else .tooDeep g.limit)
  else if left < costs.enter then some .outOfCalls else none

variable {g : DepthGuard} {calls : Nat} {p : Place}

/-- Each step of a path takes one level and the calls for it (`Place.below`). -/
theorem fault?_below (i : Nat) :
    (p.below i).fault? isLeaf costs g calls =
      p.fault? isLeaf costs g.deeper (calls - costs.level) := by
  have hcalls : calls - costs.level * (p.path.length + 1) =
      calls - costs.level - costs.level * p.path.length := by
    rw [Nat.mul_succ, Nat.sub_sub, Nat.add_comm]
  have hdepth : g.depth + (p.below i).depth = g.deeper.depth + p.depth := by
    simp only [depth, below, DepthGuard.deeper, List.length_cons]
    omega
  rw [fault?, fault?, hdepth, show (p.below i).path.length = p.path.length + 1 from rfl, hcalls]
  rfl

/-- The fault (`fault?`) of the part where all paths start. -/
private theorem fault?_here (p : Part) :
    fault? isLeaf costs g calls ⟨[], p⟩ =
      if isLeaf p.classOf then (if calls < costs.leaf then some .outOfCalls else none)
      else if g.isExceeded then
        some (if calls < costs.refuse then .outOfCalls else .tooDeep g.limit)
      else if calls < costs.enter then some .outOfCalls else none := by
  have hdeep : g.limit < g.depth + (⟨[], p⟩ : Place).depth ↔ g.isExceeded = true := by
    simp only [DepthGuard.isExceeded, decide_eq_true_eq, depth, List.length_nil]
    omega
  rw [fault?, if_congr hdeep rfl rfl]
  rfl

/-- Whether a place would be gone into although it lies deeper than a limit. -/
def TooDeep (isLeaf : PartClass → Bool) (limit : Int) (p : Place) : Prop :=
  isLeaf p.part.classOf = false ∧ limit < p.depth

/-- Only what lies too deep (`TooDeep`) is refused for its depth, and the refusal names the limit.
-/
theorem tooDeep_of_fault? {limit shown : Int}
    (h : p.fault? isLeaf costs ⟨limit, 0⟩ calls = some (.tooDeep shown)) :
    p.TooDeep isLeaf limit ∧ shown = limit := by
  simp only [fault?, Int.zero_add] at h
  -- a leaf never enters the guard
  split at h
  · split at h <;> cases h
  next hleaf =>
    split at h
    next hdeep =>
      split at h
      · cases h
      · cases h
        exact ⟨⟨Bool.not_eq_true _ ▸ hleaf, hdeep⟩, rfl⟩
    next => split at h <;> cases h

/-- What lies too deep (`TooDeep`) is not visited to the end, be it for want of calls. -/
theorem TooDeep.fault?_ne_none {limit : Int} (h : p.TooDeep isLeaf limit) :
    p.fault? isLeaf costs ⟨limit, 0⟩ calls ≠ none := by
  obtain ⟨hleaf, hdeep⟩ := h
  simp [fault?, hleaf, hdeep]

end Place

/-! ## Visits to parts -/

namespace Visitor

section

variable (isLeaf costs)

/-- Visits to some parts. -/
def visitParts : List Part → Visiting Unit
  | [] => Visiting.done
  | p :: rest => (visitPart isLeaf costs p).andThen (visitParts rest)

/-- A visit to nodes (`visitNodes`) is one to parts. -/
private theorem visitNodes_eq (nodes : List Node) :
    visitNodes isLeaf costs nodes = visitParts isLeaf costs (nodes.map .node) := by
  induction nodes with
  | nil => rw [visitNodes, List.map_nil, visitParts]
  | cons n rest ih => rw [visitNodes, List.map_cons, visitParts, ih, visitPart]

/-- A visit to branches (`visitBranches`) is one to parts. -/
private theorem visitBranches_eq (branches : List Branch) :
    visitBranches isLeaf costs branches = visitParts isLeaf costs (branches.map .branch) := by
  induction branches with
  | nil => rw [visitBranches, List.map_nil, visitParts]
  | cons b rest ih => rw [visitBranches, List.map_cons, visitParts, ih, visitPart]

/-- A visit to a part (`visitPart`) goes on with visits to the parts that it holds. -/
theorem visitPart_eq (p : Part) :
    visitPart isLeaf costs p = visit isLeaf costs p (visitParts isLeaf costs p.held) := by
  cases p with
  | message m => rw [visitPart, visitMessage, visitNodes_eq, Part.held]
  | branch b =>
    cases b with
    | mk key message span =>
      -- a branch holds its message alone, which holds the nodes
      rw [visitPart, visitBranch, visitNodes_eq, Part.held, visitParts, visitParts, visitPart,
        visitMessage, visitNodes_eq]
      rfl
  | node n =>
    cases n with
    | choice kind name branches span => rw [visitPart, visitNode, visitBranches_eq, Part.held]
    | text | reference | argument =>
      rw [visitPart, visitNode, Part.held, visitParts] <;> simp

/-- Whether a visitor remembers of classes what it would find out about them. -/
def Recalls (v : Visitor) : Prop := ∀ k ∈ v.known, k.2 = isLeaf k.1

end

/-- A new visitor remembers nothing (`Visitor.ofLimit`), and so nothing wrong. -/
private theorem recalls_ofLimit (requested : Int) : Recalls isLeaf (ofLimit requested) := by
  simp [Recalls, ofLimit]

/-- A visitor that remembers rightly deals with a class (`Visitor.dispatch`) as it would without its
memory, and goes on remembering rightly. -/
theorem Recalls.dispatch {v : Visitor} (h : Recalls isLeaf v) (c : PartClass) :
    ∃ known, Visitor.dispatch isLeaf v c = (isLeaf c, { v with known := known }) ∧
      Recalls isLeaf { v with known := known } := by
  unfold Visitor.dispatch
  cases hlookup : v.known.lookup c with
  | some leaf =>
    obtain ⟨before, after, hknown, -⟩ := List.lookup_eq_some_iff.1 hlookup
    have hmem : (c, leaf) ∈ v.known := by simp [hknown]
    obtain rfl : leaf = isLeaf c := h _ hmem
    exact ⟨v.known, rfl, h⟩
  | none => exact ⟨_, rfl, List.forall_mem_cons.2 ⟨rfl, h⟩⟩

end Visitor

/-! ## Visitors make tours -/

/-- Whether a visitor that comes out of something has made a tour: it has visited the parts of it
and got to its end, and its guard is as it was. -/
structure Follows (isLeaf : PartClass → Bool) (t : Tour VisitFault) (a : α) (v : Visitor)
    (out : Visitor × Except VisitFault α) : Prop where
  visited : out.1.visited = v.visited ++ t.visited
  result : out.2 = t.refusal.elim (.ok a) .error
  guard : out.1.guard = v.guard
  recalls : Visitor.Recalls isLeaf out.1

section

variable {v : Visitor} {calls : Nat} {t t' : Tour VisitFault} {a : α} {b : β}

/-- A visitor that does nothing makes no tour (`Tour.empty`). -/
private theorem follows_ok (a : α) (h : Visitor.Recalls isLeaf v) :
    Follows isLeaf Tour.empty a v (v, .ok a) :=
  ⟨by simp [Tour.empty], rfl, rfl, h⟩

/-- A visitor that comes out with a fault has made a tour that ends with it (`Follows`). -/
theorem Follows.refusal_eq {out : Visitor × Except VisitFault α} {e : VisitFault}
    (h : Follows isLeaf t a v out) (he : out.2 = .error e) : t.refusal = some e := by
  rw [h.result] at he
  cases hrefusal : t.refusal with
  | none =>
    rw [hrefusal] at he
    cases he
  | some e' =>
    rw [hrefusal] at he
    cases he
    rfl

/-- Two things done one after the other make two tours. -/
theorem Follows.andThen {first : Visiting α} {second : Visiting β}
    (hfirst : Follows isLeaf t a v (first calls v))
    (hsecond : Follows isLeaf t' b (first calls v).1 (second calls (first calls v).1)) :
    Follows isLeaf (t.andThen t') b v (first.andThen second calls v) := by
  obtain ⟨hvisited, hresult, hguard, hrecalls⟩ := hfirst
  rcases hout : first calls v with ⟨v', result⟩
  rw [hout] at hvisited hresult hguard hrecalls hsecond
  dsimp only at hvisited hresult hguard hsecond
  rw [Tour.andThen, Visiting.andThen, hout]
  cases hrefusal : t.refusal with
  | none =>
    obtain rfl : result = .ok a := by rw [hresult, hrefusal, Option.elim_none]
    obtain ⟨hvisited', hresult', hguard', hrecalls'⟩ := hsecond
    refine ⟨?_, hresult', hguard'.trans hguard, hrecalls'⟩
    rw [hvisited', hvisited, List.append_assoc]
  | some e =>
    -- the second is not done, and so its tour does not start
    obtain rfl : result = .error e := by rw [hresult, hrefusal, Option.elim_some]
    exact ⟨hvisited, by rw [hrefusal, Option.elim_some], hguard, hrecalls⟩

/-- What is done one level deeper makes its tour there, if there is a level and calls to go
(`DepthGuard.enter`). -/
theorem follows_guarded {inside : Visiting α} (hopen : v.guard.isExceeded = false)
    (hcalls : costs.enter ≤ calls)
    (h : Follows isLeaf t a { v with guard := v.guard.deeper }
      (inside (calls - costs.level) { v with guard := v.guard.deeper })) :
    Follows isLeaf t a v (Visiting.guarded costs inside calls v) := by
  rw [Visiting.guarded, DepthGuard.enter, if_neg (by rw [hopen]; exact Bool.false_ne_true)]
  dsimp only
  rw [if_neg (Nat.not_lt.2 hcalls)]
  refine ⟨h.visited, h.result, ?_, h.recalls⟩
  -- the guard that comes out of it is the one that went in, a level deeper
  exact (congrArg DepthGuard.leave h.guard).trans v.guard.leave_deeper

/-- A visit (`visit`) that is refused at its own place visits that part and no other. -/
theorem follows_visit_of_fault {inside : Visiting Unit} {p : Part} {e : VisitFault}
    (hv : Visitor.Recalls isLeaf v)
    (he : Place.fault? isLeaf costs v.guard calls ⟨[], p⟩ = some e) :
    Follows isLeaf ⟨[p], some e⟩ p v (Visitor.visit isLeaf costs p inside calls v) := by
  obtain ⟨known, hdispatch, hrecalls⟩ := Visitor.Recalls.dispatch
    (show Visitor.Recalls isLeaf { v with visited := v.visited ++ [p] } from hv) p.classOf
  rw [Place.fault?_here] at he
  rw [Visitor.visit, hdispatch]
  dsimp only
  -- A leaf is refused for want of calls only, any other part for its depth as well, and for that
  -- first.
  cases hleaf : isLeaf p.classOf with
  | true =>
    rw [hleaf, if_pos rfl] at he
    rw [if_pos rfl]
    split at he
    next hcalls =>
      cases he
      exact ⟨rfl, if_pos hcalls, rfl, hrecalls⟩
    next => cases he
  | false =>
    rw [hleaf, if_neg Bool.false_ne_true] at he
    rw [if_neg Bool.false_ne_true, Visiting.andThen, Visiting.guarded, DepthGuard.enter]
    dsimp only
    split at he
    next hexceeded =>
      cases he
      rw [if_pos hexceeded]
      exact ⟨rfl, rfl, rfl, hrecalls⟩
    next hopen =>
      rw [if_neg hopen]
      split at he
      next hcalls =>
        cases he
        dsimp only
        rw [if_pos hcalls]
        exact ⟨rfl, rfl, rfl, hrecalls⟩
      next => cases he

/-- A visit to a leaf (`isLeaf`) that has the calls for it visits just that. -/
theorem follows_visit_of_isLeaf {inside : Visiting Unit} {p : Part}
    (hv : Visitor.Recalls isLeaf v) (hleaf : isLeaf p.classOf = true)
    (hnone : Place.fault? isLeaf costs v.guard calls ⟨[], p⟩ = none) :
    Follows isLeaf ⟨[p], none⟩ p v (Visitor.visit isLeaf costs p inside calls v) := by
  obtain ⟨known, hdispatch, hrecalls⟩ := Visitor.Recalls.dispatch
    (show Visitor.Recalls isLeaf { v with visited := v.visited ++ [p] } from hv) p.classOf
  have hcalls : ¬ calls < costs.leaf := by simpa [Place.fault?_here, hleaf] using hnone
  rw [Visitor.visit, hdispatch]
  dsimp only
  rw [hleaf, if_pos rfl, if_neg hcalls]
  exact ⟨rfl, rfl, rfl, hrecalls⟩

/-- A visit (`visit`) that goes into a part visits that part, and then what is visited inside. -/
theorem follows_visit {inside : Visiting Unit} {p : Part}
    (hv : Visitor.Recalls isLeaf v) (hleaf : isLeaf p.classOf = false)
    (hnone : Place.fault? isLeaf costs v.guard calls ⟨[], p⟩ = none)
    (h : ∀ u, Visitor.Recalls isLeaf u → u.guard = v.guard.deeper →
      Follows isLeaf t () u (inside (calls - costs.level) u)) :
    Follows isLeaf ⟨p :: t.visited, t.refusal⟩ p v
      (Visitor.visit isLeaf costs p inside calls v) := by
  obtain ⟨known, hdispatch, hrecalls⟩ := Visitor.Recalls.dispatch
    (show Visitor.Recalls isLeaf { v with visited := v.visited ++ [p] } from hv) p.classOf
  obtain ⟨hopen, hcalls⟩ : v.guard.isExceeded = false ∧ costs.enter ≤ calls := by
    rw [Place.fault?_here, hleaf, if_neg Bool.false_ne_true] at hnone
    split at hnone
    · cases hnone
    next hopen => exact ⟨Bool.not_eq_true _ ▸ hopen, by simpa using hnone⟩
  -- the part is visited before the guard is entered
  let u : Visitor := { v with visited := v.visited ++ [p], known := known }
  have hinside : Follows isLeaf t () u (Visiting.guarded costs inside calls u) :=
    follows_guarded hopen hcalls (h _ hrecalls rfl)
  have hthen : Follows isLeaf _ p u
      ((Visiting.guarded costs inside).andThen (fun _ v => (v, .ok p)) calls u) :=
    hinside.andThen (follows_ok p hinside.recalls)
  rw [Tour.andThen_empty] at hthen
  rw [Visitor.visit, hdispatch]
  dsimp only
  rw [hleaf, if_neg Bool.false_ne_true]
  refine ⟨?_, hthen.result, hthen.guard, hthen.recalls⟩
  rw [hthen.visited, List.append_assoc]
  rfl

end

/-! ## Visits go through outlines -/

/-- Places that are the outline of a part, and through which visitors go that visit the part. -/
structure Toured (isLeaf : PartClass → Bool) (costs : CallCosts) (root : Part)
    (places : List Place) : Prop where
  outline : Outline isLeaf root places
  visit : ∀ g calls, ∃ t, GoesThrough (Place.fault? isLeaf costs g calls) places t ∧
    ∀ v, Visitor.Recalls isLeaf v → v.guard = g →
      Follows isLeaf t root v (Visitor.visitPart isLeaf costs root calls v)

private theorem exists_toured_from {parts : List Part}
    (h : ∀ p ∈ parts, ∃ places, Toured isLeaf costs p places) (first : Nat) :
    ∃ places, OutlineFrom isLeaf first parts places ∧ ∀ g calls, ∃ t,
      GoesThrough (Place.fault? isLeaf costs g calls) places t ∧
      ∀ v, Visitor.Recalls isLeaf v → v.guard = g.deeper → Follows isLeaf t () v
        (Visitor.visitParts isLeaf costs parts (calls - costs.level) v) := by
  induction parts generalizing first with
  | nil =>
    exact ⟨[], outlineFrom_nil first, fun g calls => ⟨_, .nil, fun v hv _ => follows_ok () hv⟩⟩
  | cons p rest ih =>
    obtain ⟨⟨here, hhere⟩, hrest⟩ := List.forall_mem_cons.1 h
    obtain ⟨after, hafter, htours⟩ := ih hrest (first + 1)
    refine ⟨_, hafter.cons hhere.outline, fun g calls => ?_⟩
    obtain ⟨t, ht, hvisit⟩ := hhere.visit g.deeper (calls - costs.level)
    obtain ⟨t', ht', hvisits⟩ := htours g calls
    refine ⟨_, (ht.below fun _ => Place.fault?_below _).append ht', fun v hv hguard => ?_⟩
    rw [Visitor.visitParts]
    have hfirst := hvisit v hv hguard
    -- the visitor goes on with the guard and the calls with which it began
    exact hfirst.andThen (hvisits _ hfirst.recalls (hfirst.guard.trans hguard))

/-- Every part has an outline, and visitors go through it when they visit the part (`Toured`). -/
theorem exists_toured (isLeaf : PartClass → Bool) (costs : CallCosts) (root : Part) :
    ∃ places, Toured isLeaf costs root places := by
  induction root using Part.induct with
  | h p ih =>
    obtain ⟨inside, hinside, htours⟩ := exists_toured_from ih 0
    cases hleaf : isLeaf p.classOf with
    | true =>
      refine ⟨_, outline_leaf hleaf, fun g calls => ?_⟩
      rw [Visitor.visitPart_eq]
      -- Where the part itself is refused, nothing inside of it is visited.
      cases hfault : Place.fault? isLeaf costs g calls ⟨[], p⟩ with
      | some e =>
        refine ⟨_, .refused hfault [], fun v hv hguard => ?_⟩
        exact follows_visit_of_fault hv (hguard ▸ hfault)
      | none =>
        refine ⟨_, .cons hfault .nil, fun v hv hguard => ?_⟩
        exact follows_visit_of_isLeaf hv hleaf (hguard ▸ hfault)
    | false =>
      refine ⟨_, outline_cons hleaf hinside, fun g calls => ?_⟩
      rw [Visitor.visitPart_eq]
      cases hfault : Place.fault? isLeaf costs g calls ⟨[], p⟩ with
      | some e =>
        refine ⟨_, .refused hfault inside, fun v hv hguard => ?_⟩
        exact follows_visit_of_fault hv (hguard ▸ hfault)
      | none =>
        obtain ⟨t, ht, hvisits⟩ := htours g calls
        refine ⟨_, .cons hfault ht, fun v hv hguard => ?_⟩
        exact follows_visit hv hleaf (hguard ▸ hfault) fun u hu hdeeper =>
          hvisits u hu (hdeeper.trans (congrArg _ hguard))

/-! ## Calls that last -/

/-- Whether visits with so many calls never lack any, if they do not go deeper than a limit. -/
def CallCosts.Lasts (costs : CallCosts) (limit : Int) (calls : Nat) : Prop :=
  costs.level * limit.toNat + costs.most ≤ calls

instance (limit : Int) (calls : Nat) : Decidable (costs.Lasts limit calls) :=
  inferInstanceAs (Decidable (_ ≤ _))

/-- Where the calls last (`Lasts`), the first place that is refused is refused for its depth: a
place that is still deeper has one on its way that lies too deep. -/
theorem CallCosts.Lasts.refusal_ne {limit : Int} {calls : Nat} {root : Part} {places : List Place}
    {t : Tour VisitFault} (hlasts : costs.Lasts limit calls) (houtline : Outline isLeaf root places)
    (ht : GoesThrough (Place.fault? isLeaf costs ⟨limit, 0⟩ calls) places t) :
    t.refusal ≠ some .outOfCalls := by
  intro hrefusal
  obtain ⟨before, p, after, rfl, hbefore, hp⟩ := ht.exists_refused hrefusal
  -- A place within the limit has calls left, by what `Lasts` promises.
  by_cases hlength : limit.toNat < p.path.length
  · obtain ⟨q, hq, hpath, hleaf⟩ := houtline.exists_before hlength
    have hdeep : q.TooDeep isLeaf limit := ⟨hleaf, by rw [Place.depth, hpath]; omega⟩
    exact hdeep.fault?_ne_none (hbefore q hq)
  · have hlevel : costs.level * p.path.length ≤ costs.level * limit.toNat :=
      Nat.mul_le_mul_left _ (Nat.not_lt.1 hlength)
    have hleft : costs.most ≤ calls - costs.level * p.path.length := by
      rw [CallCosts.Lasts] at hlasts
      omega
    obtain ⟨hleaf, henter, hrefuse⟩ : costs.leaf ≤ calls - costs.level * p.path.length ∧
        costs.enter ≤ calls - costs.level * p.path.length ∧
        costs.refuse ≤ calls - costs.level * p.path.length := by
      rw [CallCosts.most] at hleft
      omega
    simp [Place.fault?, Nat.not_lt.2 hleaf, Nat.not_lt.2 henter, Nat.not_lt.2 hrefuse] at hp

/-- A tour is refused for its depth if its calls last (`Lasts`) and something lies too deep. -/
theorem CallCosts.Lasts.refusal_eq_iff {limit : Int} {calls : Nat} {root : Part}
    {places : List Place} {t : Tour VisitFault} (hlasts : costs.Lasts limit calls)
    (houtline : Outline isLeaf root places)
    (ht : GoesThrough (Place.fault? isLeaf costs ⟨limit, 0⟩ calls) places t) :
    (t.refusal = some (.tooDeep limit) ↔ ∃ p ∈ places, p.TooDeep isLeaf limit) ∧
      (t.refusal = none ↔ ¬ ∃ p ∈ places, p.TooDeep isLeaf limit) := by
  have hdeep : (∃ p ∈ places, p.TooDeep isLeaf limit) → t.refusal ≠ none := by
    rintro ⟨p, hp, hdeep⟩ hnone
    exact hdeep.fault?_ne_none (ht.refusal_eq_none_iff.1 hnone p hp)
  cases hrefusal : t.refusal with
  | none => simp_all
  | some e =>
    cases e with
    | outOfCalls => exact absurd hrefusal (hlasts.refusal_ne houtline ht)
    | tooDeep shown =>
      obtain ⟨before, p, after, rfl, -, hp⟩ := ht.exists_refused hrefusal
      -- A refusal for depth names a place, and this is the one that is looked for.
      obtain ⟨hp, rfl⟩ := Place.tooDeep_of_fault? hp
      have hexists : ∃ q ∈ before ++ p :: after, q.TooDeep isLeaf shown := ⟨p, by simp, hp⟩
      exact ⟨iff_of_true rfl hexists, iff_of_false nofun fun hnot => hnot hexists⟩

/-! ## Visitors that are used again -/

/-- A visitor that has visited parts (`afterVisits`) is as it was, but for what it has visited. -/
theorem guard_afterVisits {v : Visitor} (hv : Visitor.Recalls isLeaf v)
    (earlier : List (Nat × Part)) :
    (v.afterVisits isLeaf costs earlier).guard = v.guard ∧
      Visitor.Recalls isLeaf (v.afterVisits isLeaf costs earlier) := by
  induction earlier generalizing v with
  | nil => exact ⟨rfl, hv⟩
  | cons e rest ih =>
    obtain ⟨calls, p⟩ := e
    obtain ⟨places, htoured⟩ := exists_toured isLeaf costs p
    obtain ⟨t, -, hvisit⟩ := htoured.visit v.guard calls
    have hfirst := hvisit v hv rfl
    obtain ⟨hguard, hrecalls⟩ := ih hfirst.recalls
    exact ⟨hguard.trans hfirst.guard, hrecalls⟩

/-- A visitor makes the same tour (`Follows`) of a part whatever it has visited before. -/
theorem exists_tour (isLeaf : PartClass → Bool) (costs : CallCosts) (requested : Int)
    (calls : Nat) (root : Part) :
    let limit := DepthGuard.effectiveLimit requested
    ∃ places t, Outline isLeaf root places ∧
      GoesThrough (Place.fault? isLeaf costs ⟨limit, 0⟩ calls) places t ∧
      ∀ earlier : List (Nat × Part),
        let v := Visitor.afterVisits isLeaf costs (Visitor.ofLimit requested) earlier
        v.guard = ⟨limit, 0⟩ ∧
          Follows isLeaf t root v (Visitor.visitPart isLeaf costs root calls v) := by
  intro limit
  obtain ⟨places, htoured⟩ := exists_toured isLeaf costs root
  obtain ⟨t, ht, hvisit⟩ := htoured.visit ⟨limit, 0⟩ calls
  refine ⟨places, t, htoured.outline, ht, fun earlier => ?_⟩
  have hnew : Visitor.Recalls isLeaf (Visitor.ofLimit requested) := Visitor.recalls_ofLimit _
  -- earlier visits leave the guard as it was, and only add to what is recalled
  obtain ⟨hguard, hrecalls⟩ := guard_afterVisits hnew earlier
  exact ⟨hguard, hvisit _ hrecalls hguard⟩

/-- A visitor that may go down to a limit visits what is found without going into a leaf, each part
once and in the order of the source, a part before what it holds, up to the first place for which it
lacks levels or calls, and that place too. If its calls last for its limit, it is refused just if a
part that is no leaf lies deeper than the limit, and else gets to the end. Its guard is afterwards
as it was, and all of this holds whatever the visitor has visited before: the same part or others,
to the end or not. -/
theorem visits_outline (isLeaf : PartClass → Bool) (costs : CallCosts) (requested : Int)
    (calls : Nat) (root : Part) :
    let limit := DepthGuard.effectiveLimit requested
    let deep := ∃ path p, StandsAt isLeaf root path p ∧ isLeaf p.classOf = false ∧
      limit < path.length + 1
    ∃ places t, Outline isLeaf root places ∧
      GoesThrough (Place.fault? isLeaf costs ⟨limit, 0⟩ calls) places t ∧
      (costs.Lasts limit calls →
        (t.refusal = some (.tooDeep limit) ↔ deep) ∧ (t.refusal = none ↔ ¬ deep)) ∧
      ∀ earlier : List (Nat × Part),
        let v := Visitor.afterVisits isLeaf costs (Visitor.ofLimit requested) earlier
        let out := Visitor.visitPart isLeaf costs root calls v
        v.guard = ⟨limit, 0⟩ ∧ out.1.guard = v.guard ∧
        out.1.visited = v.visited ++ t.visited ∧
        out.2 = t.refusal.elim (.ok root) .error := by
  intro limit deep
  obtain ⟨places, t, houtline, ht, hvisits⟩ := exists_tour isLeaf costs requested calls root
  refine ⟨places, t, houtline, ht, fun hlasts => ?_, fun earlier => ?_⟩
  · -- The places of the outline are the parts that stand at the paths.
    have hdeep : (∃ p ∈ places, p.TooDeep isLeaf limit) ↔ deep := by
      constructor
      · rintro ⟨p, hp, hleaf, hlimit⟩
        exact ⟨p.path, p.part, (houtline.mem_iff p).1 hp, hleaf, hlimit⟩
      · rintro ⟨path, p, hstands, hleaf, hlimit⟩
        exact ⟨⟨path, p⟩, (houtline.mem_iff _).2 hstands, hleaf, hlimit⟩
    rw [← hdeep]
    exact hlasts.refusal_eq_iff houtline ht
  · obtain ⟨hguard, hout⟩ := hvisits earlier
    exact ⟨hguard, hout.guard, hout.visited, hout.result⟩

/-- Choices inside of choices, down to an empty message. -/
def nestedMessage : Nat → Message
  | 0 => []
  | n + 1 => [.choice .plural "n" [.mk .other (nestedMessage n) ⟨0, 0⟩] ⟨0, 0⟩]

/-- A limit that is no greater than `callLimit` allows is no promise that a visit is either done or
refused for its depth: at two calls for each level, all calls are spent before. -/
theorem visitPart_outOfCalls_nested :
    let out := Visitor.visitPart (fun _ => false) .plain (.message (nestedMessage 170))
      callLimit.toNat (Visitor.ofLimit 950)
    out.1.guard = ⟨950, 0⟩ ∧ out.2 = .error .outOfCalls := by
  intro out
  have hguard : out.1.guard = ⟨950, 0⟩ := by decide +kernel
  -- parts cannot be compared, so what is computed is the fault alone
  have hfault : (match out.2 with | .ok _ => none | .error e => some e) =
      some VisitFault.outOfCalls := by decide +kernel
  refine ⟨hguard, ?_⟩
  split at hfault
  · cases hfault
  next e he => rw [he, Option.some.inj hfault]

/-- The node inside a message is visited even if there is no level left to go into it. -/
example : (Visitor.visitMessage (fun _ => false) .plain [.reference "n" ⟨0, 3⟩] 8
    (Visitor.ofLimit 1)).1.visited =
      [.message [.reference "n" ⟨0, 3⟩], .node (.reference "n" ⟨0, 3⟩)] := by
  rfl

end Parlance
