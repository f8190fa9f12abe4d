import Parlance.Proofs.Results
import Parlance.Session

/-!
# What the module reads of an entry

The module and the report of missing messages do not read all of an entry: of its renditions they
read the message in a locale, if there is one, and the placeholders as the locale formats them.
Entries that agree in what is read (`Entry.Agree`) give the same module or fail alike
(`module_of_agree`), and they give the same report (`untranslatedIn_of_agree`).
-/

namespace Parlance

open Code

/-! ## Entries -/

/-- Whether two entries agree in all that the module and the report read. -/
structure Entry.Agree (e e' : Entry) : Prop where
  key : e.key = e'.key
  reference : e.reference = e'.reference
  description : e.description = e'.description
  context : e.context = e'.context
  placeholders : e.placeholders = e'.placeholders
  messageFor : ∀ locale, e.messageFor? locale = e'.messageFor? locale
  placeholdersFor : ∀ locale, e.placeholdersFor locale = e'.placeholdersFor locale

/-- An entry agrees (`Agree`) with itself. -/
theorem Entry.Agree.refl (e : Entry) : e.Agree e :=
  ⟨rfl, rfl, rfl, rfl, rfl, fun _ => rfl, fun _ => rfl⟩

section

variable {entries entries' : List Entry} (h : List.Forall₂ Entry.Agree entries entries')

include h

/-- Entries that agree are missing (`missingKeys`) in the same locales. -/
theorem missingKeys_of_agree (locale : Locale) :
    Session.missingKeys entries locale = Session.missingKeys entries' locale := by
  unfold Session.missingKeys
  induction h with
  | nil => rfl
  | cons hfirst _ ih =>
    have htranslated := congrArg Option.isSome (hfirst.messageFor locale)
    rw [List.filter_cons, List.filter_cons, Entry.isTranslated, Entry.isTranslated, htranslated]
    split
    · rw [List.map_cons, List.map_cons, hfirst.key, ih]
    · exact ih

/-- Entries that agree give the same report of missing messages (`untranslatedIn`). -/
theorem untranslatedIn_of_agree (template : Locale) (locales : List Locale) :
    Session.untranslatedIn entries template locales =
      Session.untranslatedIn entries' template locales := by
  have hkeys := funext (missingKeys_of_agree h)
  unfold Session.untranslatedIn
  rw [hkeys]

end

/-! ## Plans -/

namespace Code

/-- Whether two members have entries that agree, and the same names. -/
structure Member.Agree (m m' : Member) : Prop where
  entry : m.entry.Agree m'.entry
  method : m.method = m'.method
  parameters : m.parameters = m'.parameters

/-- Whether two plans differ only in members that agree. -/
def Plan.Agree (p p' : Plan) : Prop :=
  ∃ members, List.Forall₂ Member.Agree p.members members ∧ p' = { p with members := members }

/-- Entries that agree (`Agree`) give their accessors the same names. -/
private theorem methodNames_of_agree {entries entries' : List Entry}
    (h : List.Forall₂ Entry.Agree entries entries') :
    Plan.methodNames entries = Plan.methodNames entries' := by
  induction h with
  | nil => rfl
  | cons hfirst _ ih => rw [Plan.methodNames, Plan.methodNames, hfirst.key, ih]

/-- Named entries that agree have members that agree, or are refused alike (`Alike`). -/
private theorem alike_membersOf {named named' : List (Entry × String)}
    (h : List.Forall₂ (fun x y => x.1.Agree y.1 ∧ x.2 = y.2) named named') :
    Alike (List.Forall₂ Member.Agree) (Plan.membersOf named) (Plan.membersOf named') := by
  induction h with
  | nil => exact .ok .nil
  | @cons x y _ _ hfirst _ ih =>
    obtain ⟨hentry, hmethod⟩ := hfirst
    -- parameters and checks are those of the placeholders, which are the same
    rw [Plan.membersOf, Plan.membersOf, hentry.placeholders]
    refine (Alike.refl _).bind fun parameters _ heq => ?_
    subst heq
    refine (Alike.refl _).bind fun _ _ _ => ?_
    exact ih.map fun members members' hrest => .cons ⟨hentry, hmethod, rfl⟩ hrest

/-- Entries stay related when both lists get the same `names`. -/
private theorem forall₂_zip_names {entries entries' : List Entry}
    (h : List.Forall₂ Entry.Agree entries entries') (names : List String) :
    List.Forall₂ (fun x y : Entry × String => x.1.Agree y.1 ∧ x.2 = y.2) (entries.zip names)
      (entries'.zip names) := by
  induction h generalizing names with
  | nil => exact .nil
  | cons hfirst _ ih =>
    cases names with
    | nil => exact .nil
    | cons name rest => exact .cons ⟨hfirst, rfl⟩ (ih rest)

/-- Entries that agree have plans that agree, or are refused alike (`Alike`). -/
theorem alike_make {entries entries' : List Entry}
    (h : List.Forall₂ Entry.Agree entries entries') (locales : List Locale)
    (templateLocale : Locale) (options : ModuleOptions) :
    Alike Plan.Agree (Plan.make entries locales templateLocale options)
      (Plan.make entries' locales templateLocale options) := by
  dsimp only [Plan.make]
  -- keys decide the names, and the keys are the same
  rw [methodNames_of_agree h]
  split
  · exact .error _
  · refine (Alike.refl _).bind fun _ _ _ => ?_
    -- all checks are made of names alone, so both sides pass or fail them together
    refine (Alike.refl _).bind fun methods _ heq => ?_
    subst heq
    refine (Alike.refl _).bind fun _ _ _ => ?_
    exact (alike_membersOf (forall₂_zip_names h _)).map fun members members' hmembers =>
      ⟨members', hmembers, rfl⟩

/-! ## Text of the module -/

/-- Members that agree are written as one text, if `f` and `g` write each of them alike. -/
private theorem joinMapped_of_agree {f g : Member → Except Failure String}
    {members members' : List Member}
    (hfg : ∀ m m', m.Agree m' → f m = g m') (h : List.Forall₂ Member.Agree members members') :
    joinMapped f members = joinMapped g members' := by
  induction h with
  | nil => rfl
  | cons hfirst _ ih => rw [joinMapped, joinMapped, hfg _ _ hfirst, ih]

section

variable {p : Plan} {m m' : Member} {members : List Member}

/-- The head of an accessor (`accessorHead`) does not tell members that agree apart. -/
private theorem accessorHead_of_agree (h : m.Agree m') (isAbstract : Bool) :
    accessorHead p m isAbstract = accessorHead { p with members := members } m' isAbstract := by
  unfold accessorHead parameterList
  rw [h.entry.placeholders, h.method, h.parameters]

/-- Nor does the abstract member (`abstractMember`). -/
private theorem abstractMember_of_agree (h : m.Agree m') :
    abstractMember p m = abstractMember { p with members := members } m' := by
  unfold abstractMember documentation
  rw [accessorHead_of_agree h, h.entry.description, h.entry.context, h.entry.reference,
    h.entry.key]

/-- Nor does the accessor in a `locale`. -/
private theorem accessor_of_agree (locale : Locale) (h : m.Agree m') :
    accessor p locale m = accessor { p with members := members } locale m' := by
  unfold accessor statementsFor
  rw [accessorHead_of_agree h, h.entry.messageFor, h.entry.placeholdersFor, h.entry.key,
    h.parameters]

variable (h : List.Forall₂ Member.Agree p.members members)

include h

/-- The header depends on the members only in whether it imports `datetime`. -/
private theorem headerBlock_of_agree : headerBlock p = headerBlock { p with members := members } :=
    by
  have hdates : usesDates p = usesDates { p with members := members } := by
    unfold usesDates
    -- whether dates are used depends on the placeholders of the members alone
    have hplaceholders : p.members.map (fun m => m.entry.placeholders) =
        members.map (fun m => m.entry.placeholders) :=
      map_eq_map_of_forall₂ h fun m m' hm => hm.entry.placeholders
    have hany := congrArg (List.any · fun ps => ps.any (·.type == .dateTime)) hplaceholders
    simpa only [List.any_map, Function.comp_def] using hany
  unfold headerBlock
  rw [hdates]
  rfl

/-- Members that agree have the same base class (`baseClassBlock`). -/
private theorem baseClassBlock_of_agree :
    baseClassBlock p = baseClassBlock { p with members := members } := by
  unfold baseClassBlock
  rw [joinMapped_of_agree (fun m m' => @abstractMember_of_agree p m m' members) h]
  rfl

/-- Members that agree have the same class in every locale. -/
private theorem localeClassBlocks_of_agree (locales : List Locale) :
    localeClassBlocks p locales = localeClassBlocks { p with members := members } locales := by
  induction locales with
  | nil => rfl
  | cons locale rest ih =>
    have hblock : localeClassBlock p locale =
        localeClassBlock { p with members := members } locale := by
      unfold localeClassBlock
      rw [joinMapped_of_agree (fun m m' => @accessor_of_agree p m m' members locale) h]
      rfl
    rw [localeClassBlocks, localeClassBlocks, hblock, ih]

end

/-- Plans that agree (`Agree`) are written as the same text, or fail alike. -/
theorem emit_of_agree {p p' : Plan} (h : p.Agree p') : emit p = emit p' := by
  obtain ⟨members, hmembers, rfl⟩ := h
  unfold emit blocks
  rw [headerBlock_of_agree hmembers, baseClassBlock_of_agree hmembers,
    localeClassBlocks_of_agree hmembers]
  rfl

/-- Entries that agree (`Agree`) give the same module, or fail alike. -/
theorem module_of_agree {entries entries' : List Entry}
    (h : List.Forall₂ Entry.Agree entries entries') (locales : List Locale)
    (templateLocale : Locale) (options : ModuleOptions) :
    ((Plan.make entries locales templateLocale options).mapError .fault).bind emit =
      ((Plan.make entries' locales templateLocale options).mapError .fault).bind emit := by
  have hplans := (alike_make h locales templateLocale options).mapError Failure.fault
  -- related plans have one text, so the two computations are equal
  refine (hplans.bind fun p p' hp => ?_).eq
  rw [emit_of_agree hp]
  exact .refl _

end Code

end Parlance
