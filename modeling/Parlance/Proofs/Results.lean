import Mathlib.Data.List.Forall2
import Parlance.Log

/-!
# Results that are good

What is known of the parts of a computation that may fail, when the whole of it has not failed
(`bind_eq_ok_iff`, `map_eq_ok_iff`, `mapM_eq_ok_iff`), also where it keeps records on the way
(`Logged.bind_result_eq_ok_iff`, `Logged.traverse_result_eq_ok_iff`). Two computations are `Alike`
if they fail in the same way or have related results, and are so if their parts are. All failures of
a computation are of a kind (`FailsAs`) if those of its parts are.
-/

namespace Parlance

variable {α β ε : Type} {x : Except ε α} {b : β}

/-- A computation in two steps succeeds when both do. -/
theorem bind_eq_ok_iff {f : α → Except ε β} :
    x.bind f = .ok b ↔ ∃ a, x = .ok a ∧ f a = .ok b := by
  cases x with
  | error e => simp [Except.bind]
  | ok a => simp [Except.bind]

/-- What `x.map f` gives is `f` of what `x` gives. -/
theorem map_eq_ok_iff {f : α → β} : x.map f = .ok b ↔ ∃ a, x = .ok a ∧ f a = b := by
  cases x with
  | error e => simp [Except.map]
  | ok a => simp [Except.map]

/-- `x.map f` fails just as `x` does. -/
theorem map_eq_error_iff {f : α → β} {e : ε} : x.map f = .error e ↔ x = .error e := by
  cases x with
  | error e => simp [Except.map]
  | ok a => simp [Except.map]

/-- A computation that `isOk` has a result. -/
theorem exists_eq_ok_of_isOk {a : Except ε α} (h : a.isOk = true) : ∃ b, a = .ok b := by
  cases a with
  | error e => cases h
  | ok b => exact ⟨b, rfl⟩

/-- A computation in two steps succeeds if the second does whatever the first gives. -/
theorem exists_bind_eq_ok {f : α → Except ε β} (hx : ∃ a, x = .ok a)
    (hf : ∀ a, ∃ b, f a = .ok b) : ∃ b, x.bind f = .ok b := by
  obtain ⟨a, rfl⟩ := hx
  exact hf a

/-- `x.map f` succeeds if `x` does. -/
theorem exists_map_eq_ok {f : α → β} (hx : ∃ a, x = .ok a) : ∃ b, x.map f = .ok b := by
  obtain ⟨a, rfl⟩ := hx
  exact ⟨f a, rfl⟩

/-- Rewording failures with `mapError` leaves the good results alone. -/
theorem mapError_eq_ok_iff {δ : Type} {f : ε → δ} {a : α} : x.mapError f = .ok a ↔ x = .ok a := by
  cases x with
  | error e => simp [Except.mapError]
  | ok a => simp [Except.mapError]

/-- A computation for each item succeeds when every one does. -/
theorem mapM_eq_ok_iff {f : α → Except ε β} {xs : List α} {ys : List β} :
    xs.mapM f = .ok ys ↔ List.Forall₂ (fun x y => f x = .ok y) xs ys := by
  induction xs generalizing ys with
  | nil => simp [pure, Except.pure, eq_comm]
  | cons x rest ih =>
    rw [List.mapM_cons, List.forall₂_cons_left_iff]
    -- `mapM` on a list with a head is two binds
    change (f x).bind (fun y => (rest.mapM f).bind fun ys => .ok (y :: ys)) = .ok ys ↔ _
    simp only [bind_eq_ok_iff, ih, Except.ok.injEq]
    constructor
    · rintro ⟨y, hy, more, hmore, rfl⟩
      exact ⟨y, more, hy, hmore, rfl⟩
    · rintro ⟨y, more, hy, hmore, rfl⟩
      exact ⟨y, hy, more, hmore, rfl⟩

/-- Items that all have a value have values together. -/
theorem exists_mapM_eq_some {f : α → Option β} {xs : List α} (h : ∀ x ∈ xs, ∃ y, f x = some y) :
    ∃ ys, xs.mapM f = some ys := by
  induction xs with
  | nil => exact ⟨[], rfl⟩
  | cons x rest ih =>
    obtain ⟨⟨y, hy⟩, hrest⟩ := List.forall_mem_cons.1 h
    obtain ⟨ys, hys⟩ := ih hrest
    rw [List.mapM_cons, hy, hys]
    exact ⟨_, rfl⟩

/-- Items that all have a value have the list of their values. -/
theorem eq_map_of_mapM_eq_some {f : α → Option β} {g : α → β}
    (hg : ∀ x y, f x = some y → g x = y) {xs : List α} {ys : List β}
    (h : xs.mapM f = some ys) : xs.map g = ys := by
  induction xs generalizing ys with
  | nil =>
    cases h
    rfl
  | cons x rest ih =>
    rw [List.mapM_cons] at h
    obtain ⟨y, hy, hmore⟩ := Option.bind_eq_some_iff.1 h
    obtain ⟨more, hrest, hlist⟩ := Option.bind_eq_some_iff.1 hmore
    cases hlist
    rw [List.map_cons, hg x y hy, ih hrest]

/-- Items that are each related to something are together related to a list. -/
theorem exists_forall₂_iff {R : α → β → Prop} {xs : List α} :
    (∃ ys, List.Forall₂ R xs ys) ↔ ∀ x ∈ xs, ∃ y, R x y := by
  induction xs with
  | nil => simp
  | cons x rest ih =>
    simp only [List.forall₂_cons_left_iff, List.forall_mem_cons, ← ih]
    constructor
    · rintro ⟨_, y, more, hy, hmore, rfl⟩
      exact ⟨⟨y, hy⟩, more, hmore⟩
    · rintro ⟨⟨y, hy⟩, more, hmore⟩
      exact ⟨_, y, more, hy, hmore, rfl⟩

/-- Lists that are related item by item agree in what related items agree in. -/
theorem map_eq_map_of_forall₂ {γ : Type} {R : α → β → Prop} {f : α → γ} {g : β → γ} {xs : List α}
    {ys : List β} (h : List.Forall₂ R xs ys) (heq : ∀ x y, R x y → f x = g y) :
    xs.map f = ys.map g := by
  rw [← List.forall₂_eq_eq_eq, List.forall₂_map_left_iff, List.forall₂_map_right_iff]
  exact h.imp heq

/-- An item of a list is related to one of the list that it is related to. -/
theorem exists_mem_of_forall₂ {R : α → β → Prop} {xs : List α} {ys : List β}
    (h : List.Forall₂ R xs ys) {y : β} (hy : y ∈ ys) : ∃ x ∈ xs, R x y := by
  induction h with
  | nil => cases hy
  | cons hfirst _ ih =>
    rcases List.mem_cons.1 hy with rfl | hy
    · exact ⟨_, List.mem_cons_self, hfirst⟩
    · obtain ⟨x, hx, hR⟩ := ih hy
      exact ⟨x, List.mem_cons_of_mem _ hx, hR⟩

/-! ## Computations that are alike -/

/-- Whether two computations fail in the same way, or succeed with results that are related. -/
inductive Alike {α β ε : Type} (R : α → β → Prop) : Except ε α → Except ε β → Prop
  | error (e : ε) : Alike R (.error e) (.error e)
  | ok {a : α} {b : β} (h : R a b) : Alike R (.ok a) (.ok b)

section

variable {γ δ : Type} {y : Except ε β} {R : α → β → Prop} {S : γ → δ → Prop}

/-- What is related by `R` may be related more loosely. -/
theorem Alike.mono {R' : α → β → Prop} (h : Alike R x y) (hR : ∀ a b, R a b → R' a b) :
    Alike R' x y := by
  cases h with
  | error e => exact .error e
  | ok h => exact .ok (hR _ _ h)

/-- Every computation is `Alike` to itself. -/
theorem Alike.refl (x : Except ε α) : Alike Eq x x := by
  cases x with
  | error e => exact .error e
  | ok a => exact .ok rfl

/-- Computations that are `Alike` up to equality are equal. -/
theorem Alike.eq {y : Except ε α} (h : Alike Eq x y) : x = y := by
  cases h with
  | error e => rfl
  | ok h => rw [h]

/-- Computations in two steps are alike (`Alike`) if the first steps are, and the second ones after
related results. -/
theorem Alike.bind {f : α → Except ε γ} {g : β → Except ε δ} (h : Alike R x y)
    (hfg : ∀ a b, R a b → Alike S (f a) (g b)) : Alike S (x.bind f) (y.bind g) := by
  cases h with
  | error e => exact .error e
  | ok h => exact hfg _ _ h

/-- Images under `f` and `g` are alike if these take related results to related ones. -/
theorem Alike.map {f : α → γ} {g : β → δ} (h : Alike R x y)
    (hfg : ∀ a b, R a b → S (f a) (g b)) : Alike S (x.map f) (y.map g) := by
  cases h with
  | error e => exact .error e
  | ok h => exact .ok (hfg _ _ h)

/-- Computations stay `Alike` when their failures are reworded in the same way. -/
theorem Alike.mapError {ε' : Type} (f : ε → ε') (h : Alike R x y) :
    Alike R (x.mapError f) (y.mapError f) := by
  cases h with
  | error e => exact .error (f e)
  | ok h => exact .ok h

end

/-! ## Computations that fail in certain ways only -/

/-- Whether all failures of a computation are of a kind. -/
def FailsAs {α ε : Type} (kind : ε → Prop) (x : Except ε α) : Prop := ∀ e, x = .error e → kind e

section

variable {kind : ε → Prop}

/-- A computation that succeeds has no failure to speak of (`FailsAs`). -/
theorem failsAs_ok (a : α) : FailsAs kind (.ok a : Except ε α) := nofun

/-- A failure of the `kind` is the only one of `.error e`. -/
theorem failsAs_error {e : ε} (h : kind e) : FailsAs kind (.error e : Except ε α) := by
  rintro _ ⟨⟩
  exact h

/-- A computation in two steps fails as they do. -/
theorem FailsAs.bind {f : α → Except ε β} (h : FailsAs kind x) (hf : ∀ a, FailsAs kind (f a)) :
    FailsAs kind (x.bind f) := by
  cases x with
  | error e => exact failsAs_error (h e rfl)
  | ok a => exact hf a

/-- `x.map f` fails as `x` does. -/
theorem FailsAs.map {f : α → β} (h : FailsAs kind x) : FailsAs kind (x.map f) :=
  fun e he => h e (map_eq_error_iff.1 he)

/-- A computation for each item fails as it does for one of them. -/
theorem failsAs_mapM {f : α → Except ε β} {xs : List α} (h : ∀ x ∈ xs, FailsAs kind (f x)) :
    FailsAs kind (xs.mapM f) := by
  induction xs with
  | nil => exact failsAs_ok []
  | cons x rest ih =>
    obtain ⟨hx, hrest⟩ := List.forall_mem_cons.1 h
    rw [List.mapM_cons]
    exact hx.bind fun y => (ih hrest).bind fun ys => failsAs_ok (y :: ys)

end

/-! ## Computations with records -/

namespace Logged

/-- A computation in two steps that keeps records (`Logged`) succeeds when both do. -/
theorem bind_result_eq_ok_iff {x : Logged ε α} {f : α → Logged ε β} :
    (x.bind f).result = .ok b ↔ ∃ a, x.result = .ok a ∧ (f a).result = .ok b := by
  rw [Logged.bind]
  cases x.result with
  | error e => simp
  | ok a => simp

/-- A computation for each item that keeps records (`Logged`) succeeds when every one does. -/
theorem traverse_result_eq_ok_iff {f : α → Logged ε β} {xs : List α} {ys : List β} :
    (traverse f xs).result = .ok ys ↔ List.Forall₂ (fun x y => (f x).result = .ok y) xs ys := by
  induction xs generalizing ys with
  | nil => simp [traverse, Logged.pure, eq_comm]
  | cons x rest ih =>
    rw [traverse, List.forall₂_cons_left_iff]
    simp only [bind_result_eq_ok_iff, ih, Logged.pure, Except.ok.injEq]
    -- the records do not matter for the results
    constructor
    · rintro ⟨y, hy, more, hmore, rfl⟩
      exact ⟨y, more, hy, hmore, rfl⟩
    · rintro ⟨y, more, hy, hmore, rfl⟩
      exact ⟨y, hy, more, hmore, rfl⟩

/-- Computations in two steps that keep records are alike (`Alike`) if their steps are. -/
theorem alike_bind {γ δ : Type} {x : Logged ε α} {y : Logged ε β} {f : α → Logged ε γ}
    {g : β → Logged ε δ} {R : α → β → Prop} {S : γ → δ → Prop} (h : Alike R x.result y.result)
    (hfg : ∀ a b, R a b → Alike S (f a).result (g b).result) :
    Alike S (x.bind f).result (y.bind g).result := by
  obtain ⟨x, logs⟩ := x
  obtain ⟨y, logs'⟩ := y
  cases h with
  | error e => exact .error e
  | ok h => exact hfg _ _ h

/-- Computations for each item are alike (`Alike`) if they are so item by item. -/
theorem alike_traverse {γ δ : Type} {f : α → Logged ε γ} {g : β → Logged ε δ} {S : γ → δ → Prop}
    {xs : List α} {ys : List β}
    (h : List.Forall₂ (fun x y => Alike S (f x).result (g y).result) xs ys) :
    Alike (List.Forall₂ S) (traverse f xs).result (traverse g ys).result := by
  induction h with
  | nil => exact .ok .nil
  | cons hfirst _ ih =>
    refine alike_bind hfirst fun a b hab => ?_
    exact alike_bind ih fun as bs hrest => .ok (.cons hab hrest)

/-- Computations for each item are alike (`Alike`) if they are so for one item and the same for all
others; then the results differ only there. -/
theorem alike_traverse_append {f : α → Logged ε β} {S : β → β → Prop} {x y : α}
    (h : Alike S (f x).result (f y).result) (before after : List α) :
    Alike (fun as bs => ∃ as₁ a b as₂, as = as₁ ++ a :: as₂ ∧ bs = as₁ ++ b :: as₂ ∧ S a b)
      (traverse f (before ++ x :: after)).result (traverse f (before ++ y :: after)).result := by
  induction before with
  | nil =>
    refine alike_bind h fun a b hab => ?_
    -- the computations after the item are the same on both sides
    refine alike_bind (.refl _) fun as _ heq => ?_
    subst heq
    exact .ok ⟨[], a, b, as, rfl, rfl, hab⟩
  | cons first rest ih =>
    -- so is the one before it
    refine alike_bind (.refl _) fun c _ heq => ?_
    subst heq
    refine alike_bind ih fun as bs hrest => ?_
    obtain ⟨as₁, a, b, as₂, rfl, rfl, hab⟩ := hrest
    exact .ok ⟨c :: as₁, a, b, as₂, rfl, rfl, hab⟩

end Logged

end Parlance
