import Parlance.Proofs.Code.Classes
import Parlance.Proofs.Code.Emission

/-!
# Accessors of the base class and of the classes of locales

The base class has an abstract member for every entry, and so has the class of each locale, with the
same head (`isClass_baseClassBlock`, `isClass_localeClassBlock`). Members of one name override each
other only if they are one attribute (`nameInClass`): a private name is another attribute in every
class that is called differently. Two names may also be one attribute. So a class overrides all
accessors if and only if no key has a private identifier and all are attributes of their own; among
names of ASCII this is so if and only if no key has a private identifier and no key comes twice
(`overrides_iff`).
-/

namespace Parlance.Code

open Parlance.Text

/-! ## Members as they are written -/

/-- What the head of a member tells. -/
structure Signature where
  name : String
  /-- The parameters after `self`; a property has none. -/
  parameters : Option (List String)
deriving DecidableEq, Repr

/-- The head of a member. -/
def Signature.print (s : Signature) (isAbstract : Bool) : String :=
  let mark := if isAbstract then "    @abc.abstractmethod\n" else ""
  match s.parameters with
  | none => s!"\n    @property\n{mark}    def {s.name}(self) -> str:\n"
  | some ps => s!"\n{mark}    def {s.name}(self, " ++ ", ".intercalate ps ++ ") -> str:\n"

/-- The signature of the accessor of an entry: a property if it has no placeholders. -/
def Plan.signature (plan : Plan) (m : Member) : Signature :=
  let declared := m.entry.placeholders.map fun p =>
    s!"{(m.parameters.get? p.name).getD m.method}: {p.type.annotation}"
  ⟨m.method,
    if m.entry.placeholders.isEmpty then none
    else some (if plan.options.namedParameters then "*" :: declared else declared)⟩

/-- The signatures of all accessors, in the order of the entries. -/
def Plan.signatures (plan : Plan) : List Signature := plan.members.map plan.signature

/-- Whether a text is that of a class with members of some signatures, each with a body. -/
def IsClass (name base : String) (isAbstract : Bool) (signatures : List Signature)
    (text : String) : Prop :=
  ∃ heading bodies, (s!"class {name}({base}):\n").toList <+: heading.toList ∧
    bodies.length = signatures.length ∧
    text = heading ++
      String.join (List.zipWith (fun s body => s.print isAbstract ++ body) signatures bodies)

/-- The head of an accessor (`accessorHead`) is its signature. -/
theorem eq_print_of_accessorHead {plan : Plan} {m : Member} {isAbstract : Bool} {s : String}
    (h : accessorHead plan m isAbstract = .ok s) :
    s = (plan.signature m).print isAbstract := by
  dsimp only [accessorHead] at h
  by_cases hempty : m.entry.placeholders.isEmpty = true
  · rw [if_pos hempty] at h
    cases h
    rw [Plan.signature, if_pos hempty]
    rfl
  · rw [if_neg hempty] at h
    obtain ⟨ps, hps, rfl⟩ := map_eq_ok_iff.1 h
    dsimp only [parameterList] at hps
    split at hps
    · cases hps
    · next declared hdeclared =>
      cases hps
      -- all parameters are found, so that no default is used
      have hfound : m.entry.placeholders.map (fun p =>
          s!"{(m.parameters.get? p.name).getD m.method}: {p.type.annotation}") = declared := by
        refine eq_map_of_mapM_eq_some (fun p y hy => ?_) hdeclared
        obtain ⟨i, hi, rfl⟩ := Option.map_eq_some_iff.1 hy
        rw [hi]
        rfl
      rw [Plan.signature, if_neg hempty, hfound]
      rfl

/-- Members that are each a head and a body, one after another (`joinMapped`). What is told of each
body by its member is told of all of them. -/
theorem exists_bodies_of_joinMapped {f : Member → Except Failure String} {head : Member → String}
    {P : Member → String → Prop} {members : List Member} {text : String}
    (hhead : ∀ m ∈ members, ∀ s, f m = .ok s → ∃ body, s = head m ++ body ∧ P m body)
    (h : joinMapped f members = .ok text) :
    ∃ bodies, List.Forall₂ (fun m body => f m = .ok (head m ++ body) ∧ P m body) members bodies ∧
      text = String.join (List.zipWith (fun m body => head m ++ body) members bodies) := by
  obtain ⟨texts, htexts, hjoin⟩ := forall₂_of_joinMapped h
  subst hjoin
  clear h
  -- the induction is on the texts and their members side by side
  induction htexts with
  | nil => exact ⟨[], .nil, rfl⟩
  | @cons m s rest others hs _ ih =>
    obtain ⟨hfirst, hmore⟩ := List.forall_mem_cons.1 hhead
    obtain ⟨body, hbody, hP⟩ := hfirst s hs
    obtain ⟨bodies, hall, hothers⟩ := ih hmore
    refine ⟨body :: bodies, .cons ⟨hbody ▸ hs, hP⟩ hall, ?_⟩
    rw [String.join_cons, hothers, hbody, List.zipWith_cons_cons, String.join_cons]

section

variable {plan : Plan} {text : String}

/-- A class (`IsClass`) is made of its heading and members that begin with the signatures. -/
private theorem isClass_append {f : Member → Except Failure String}
    {name base heading members : String}
    {isAbstract : Bool} (hheading : (s!"class {name}({base}):\n").toList <+: heading.toList)
    (hmembers : joinMapped f plan.members = .ok members)
    (hhead : ∀ m s, f m = .ok s → ∃ body, s = (plan.signature m).print isAbstract ++ body) :
    IsClass name base isAbstract plan.signatures (heading ++ members) := by
  obtain ⟨bodies, hbodies, heq⟩ := exists_bodies_of_joinMapped (P := fun _ _ => True)
    (fun m _ s hs => (hhead m s hs).imp fun _ hbody => ⟨hbody, trivial⟩) hmembers
  refine ⟨heading, bodies, hheading, ?_, ?_⟩
  · rw [Plan.signatures, List.length_map, hbodies.length_eq]
  · rw [heq, Plan.signatures, List.zipWith_map_left]

/-- The members of the base class (`abstractMember`) end its text. -/
theorem exists_members_of_baseClassBlock (h : baseClassBlock plan = .ok text) :
    ∃ heading members,
      ("class " ++ plan.options.outputClass ++ "(" ++ "abc.ABC" ++ "):\n").toList <+:
        heading.toList ∧
      joinMapped (abstractMember plan) plan.members = .ok members ∧ text = heading ++ members := by
  unfold baseClassBlock at h
  obtain ⟨fallback, -, hmore⟩ := bind_eq_ok_iff.1 h
  obtain ⟨members, hmembers, htext⟩ := map_eq_ok_iff.1 hmore
  have hbase : "(abc.ABC):\n" = "(" ++ ("abc.ABC" ++ "):\n") := rfl
  refine ⟨_, members, ?_, hmembers, htext.symm⟩
  simp only [toString, hbase, String.toList_append, List.append_assoc, List.prefix_append_right_inj]
  exact List.prefix_append _ _

/-- The members of the class of a locale (`localeClassBlock`) end its text. -/
theorem exists_members_of_localeClassBlock {l : Locale} (h : localeClassBlock plan l = .ok text) :
    ∃ name heading members, plan.className? l = some name ∧
      (s!"class {name}({plan.options.outputClass}):\n").toList <+: heading.toList ∧
      joinMapped (accessor plan l) plan.members = .ok members ∧ text = heading ++ members := by
  rw [localeClassBlock] at h
  obtain ⟨members, hmembers, hmore⟩ := bind_eq_ok_iff.1 h
  cases hname : plan.className? l with
  | none =>
    rw [hname] at hmore
    cases hmore
  -- the heading is all that stands before the members
  | some name =>
    rw [hname] at hmore
    cases hmore
    refine ⟨name, _, members, rfl, ?_, hmembers, rfl⟩
    simp only [String.toList_append, List.append_assoc, List.prefix_append_right_inj]
    exact List.prefix_append _ _

/-- The base class (`baseClassBlock`) has an abstract member for each signature. -/
theorem isClass_baseClassBlock (h : baseClassBlock plan = .ok text) :
    IsClass plan.options.outputClass "abc.ABC" true plan.signatures text := by
  obtain ⟨heading, members, hheading, hmembers, rfl⟩ := exists_members_of_baseClassBlock h
  apply isClass_append hheading hmembers
  intro m s hs
  obtain ⟨head, hhead, rfl⟩ := map_eq_ok_iff.1 hs
  exact ⟨_, by rw [eq_print_of_accessorHead hhead, String.append_assoc]⟩

/-- The class of a locale (`localeClassBlock`) has a member for each signature. -/
theorem isClass_localeClassBlock {l : Locale} {name : String}
    (hname : plan.className? l = some name) (h : localeClassBlock plan l = .ok text) :
    IsClass name plan.options.outputClass false plan.signatures text := by
  obtain ⟨other, heading, members, hother, hheading, hmembers, rfl⟩ :=
    exists_members_of_localeClassBlock h
  cases hname.symm.trans hother
  apply isClass_append hheading hmembers
  intro m s hs
  obtain ⟨statements, -, hs⟩ := bind_eq_ok_iff.1 hs
  obtain ⟨head, hhead, rfl⟩ := map_eq_ok_iff.1 hs
  exact ⟨_, by rw [eq_print_of_accessorHead hhead, String.append_assoc]⟩

end

/-! ## Overriding -/

/-- Whether the members of a class override those of its base, one by one: they are the same
attribute and have the same parameters, or are both properties. -/
def Overrides (base className : String) (inherited own : List Signature) : Prop :=
  List.Forall₂ (fun a b => nameInClass base a.name = nameInClass className b.name ∧
    a.parameters = b.parameters) inherited own

/-- Whether names are attributes of their own in a class: no two the same, and none with a reserved
name. -/
def Apart (className : String) (names : List String) : Prop :=
  (names.map (nameInClass className)).Nodup ∧
    ∀ name ∈ names, nameInClass className name ∉ reservedMembers

/-- Whether a class overrides all members of its base, both with members that are apart. -/
def OverridesAll (base className : String) (members : List Signature) : Prop :=
  Overrides base className members members ∧ Apart base (members.map (·.name)) ∧
    Apart className (members.map (·.name))

/-- Names that stand for the same in two classes are apart (`Apart`) in both or in none. -/
private theorem apart_congr {a b : String} {names : List String}
    (h : ∀ name ∈ names, nameInClass a name = nameInClass b name) :
    Apart a names ↔ Apart b names := by
  rw [Apart, Apart, List.map_congr_left h]
  exact and_congr_right fun _ => forall₂_congr fun name hname => by rw [h name hname]

/-- Names of ASCII none of which is private are apart (`Apart`) as they are spelled. -/
private theorem apart_iff_of_ascii {names : List String} (hascii : ∀ name ∈ names, IsAscii name)
    (hpublic : ∀ name ∈ names, ¬ IsPrivate name) (className : String) :
    Apart className names ↔ names.Nodup ∧ ∀ name ∈ names, name ∉ reservedMembers := by
  have hsame : ∀ name ∈ names, nameInClass className name = id name := fun name hname =>
    nameInClass_of_ascii (hascii name hname) (hpublic name hname) className
  rw [Apart, List.map_congr_left hsame, List.map_id]
  exact and_congr_right fun _ => forall₂_congr fun name hname => by rw [hsame name hname, id]

/-- A class overrides (`OverridesAll`) all members if they are apart in its base, and stand for the
same in both. -/
private theorem overridesAll_iff {base className : String} {members : List Signature} :
    OverridesAll base className members ↔ Apart base (members.map (·.name)) ∧
      (privatePrefix base = privatePrefix className ∨
        ∀ s ∈ members, ¬ IsPrivate (nfkc s.name)) := by
  have hoverrides : Overrides base className members members ↔
      (privatePrefix base = privatePrefix className ∨
        ∀ s ∈ members, ¬ IsPrivate (nfkc s.name)) := by
    rw [Overrides, List.forall₂_same]
    simp only [nameInClass_eq_iff, and_true]
    by_cases hfront : privatePrefix base = privatePrefix className <;> simp [hfront]
  rw [OverridesAll, hoverrides, and_comm, and_assoc]
  refine and_congr_right fun hapart => and_iff_right_of_imp fun hsame => ?_
  -- names that are not private are the same in both classes
  refine (apart_congr fun name hname => ?_).1 hapart
  obtain ⟨s, hs, rfl⟩ := List.mem_map.1 hname
  exact nameInClass_eq_iff.2 (hsame.imp_right fun hpublic => hpublic s hs)

section

variable {entries : List Entry} {locales : List Locale} {templateLocale : Locale}
  {options : ModuleOptions} {plan : Plan}
  (h : Plan.make entries locales templateLocale options = .ok plan)

include h

/-- The names of the accessors (`signatures`) are the identifiers of the keys. -/
private theorem map_name_signatures_of_make :
    plan.signatures.map (·.name) = entries.map fun e => snakeCase e.key := by
  obtain ⟨methods, hmethods, hmembers, -⟩ := eq_of_make h
  have hnames : entries.map (fun e => snakeCase e.key) = methods.map (·.2) :=
    map_eq_map_of_forall₂ (forall₂_of_methodNames hmethods) fun e p hp =>
      (eq_snakeCase_of_identifierOf hp.2).symm
  have hlength : methods.length = entries.length := (forall₂_of_methodNames hmethods).length_eq.symm
  -- the plan pairs each entry with the name made for it
  have hzip : (entries.zip (methods.map (·.2))).map (·.2) = plan.members.map (·.method) :=
    map_eq_map_of_forall₂ (forall₂_of_membersOf hmembers) fun e m hm => hm.2.1.symm
  have hsecond : (entries.zip (methods.map (·.2))).map (·.2) = methods.map (·.2) :=
    List.map_snd_zip (by rw [List.length_map, hlength])
  rw [Plan.signatures, List.map_map, hnames, ← hsecond, hzip]
  rfl

/-- What holds of the names of the accessors holds of the identifiers of the keys (`snakeCase`), and
the other way round. -/
private theorem forall_signatures_iff_of_make {P : String → Prop} :
    (∀ s ∈ plan.signatures, P s.name) ↔ ∀ e ∈ entries, P (snakeCase e.key) := by
  rw [← List.forall_mem_map (P := P), map_name_signatures_of_make h, List.forall_mem_map]

/-- No accessor has a reserved name (`reservedMembers`). -/
private theorem not_reserved_of_make : ∀ s ∈ plan.signatures, s.name ∉ reservedMembers := by
  rw [forall_signatures_iff_of_make h (P := fun name => name ∉ reservedMembers)]
  intro e he
  obtain ⟨methods, hmethods, -⟩ := eq_of_make h
  obtain ⟨p, -, -, hp⟩ := exists_mem_of_forall₂ (forall₂_of_methodNames hmethods).flip he
  rw [← eq_snakeCase_of_identifierOf hp]
  exact not_mem_of_identifierOf hp

/-- The accessors (`signatures`) have distinct names if and only if the keys are distinct. -/
private theorem nodup_names_iff_of_make :
    (plan.signatures.map (·.name)).Nodup ↔ (entries.map (·.key)).Nodup := by
  rw [map_name_signatures_of_make h]
  constructor
  · intro hnames
    rw [← Function.comp_def snakeCase, ← List.map_map] at hnames
    exact hnames.of_map
  · -- the plan has been checked: two keys do not share an identifier
    intro hkeys
    obtain ⟨-, methods, hmethods, hunique⟩ := checked_of_make h
    have hmap : methods.map (·.1) = entries.map (·.key) :=
      (map_eq_map_of_forall₂ (forall₂_of_methodNames hmethods) fun e p hp => hp.1.symm).symm
    have hnames : entries.map (fun e => snakeCase e.key) = methods.map (·.2) :=
      map_eq_map_of_forall₂ (forall₂_of_methodNames hmethods) fun e p hp =>
        (eq_snakeCase_of_identifierOf hp.2).symm
    rw [hnames]
    rwa [Assoc.ofPairs_of_nodup (hmap ▸ hkeys), checkUnique_eq_ok_iff] at hunique

/-- The class of a locale overrides all accessors (`OverridesAll`) if and only if the identifiers of
the keys are attributes of their own, none of them private unless that makes no difference. If all
names are of ASCII, this is so if and only if no key comes twice or has a private identifier, except
where the class has the name of the base class. -/
theorem overrides_iff {l : Locale} (hl : l ∈ locales) {base text : String}
    (hbase : baseClassBlock plan = .ok base) (htext : localeClassBlock plan l = .ok text) :
    IsClass options.outputClass "abc.ABC" true plan.signatures base ∧
    IsClass (options.outputClass ++ l.camelCase) options.outputClass false plan.signatures text ∧
    (OverridesAll options.outputClass (options.outputClass ++ l.camelCase) plan.signatures ↔
      Apart options.outputClass (entries.map fun e => snakeCase e.key) ∧
        (privatePrefix options.outputClass = privatePrefix (options.outputClass ++ l.camelCase) ∨
          ∀ e ∈ entries, ¬ IsPrivate (nfkc (snakeCase e.key)))) ∧
    (IsAscii (options.outputClass ++ l.camelCase) → (∀ e ∈ entries, IsAscii (snakeCase e.key)) →
      l.camelCase ≠ "" →
      (OverridesAll options.outputClass (options.outputClass ++ l.camelCase) plan.signatures ↔
        (entries.map (·.key)).Nodup ∧ ∀ e ∈ entries, ¬ IsPrivate (snakeCase e.key))) := by
  obtain ⟨hoptions, -, -⟩ := options_of_make h
  have hclass : plan.className? l = some (plan.options.outputClass ++ l.camelCase) := by
    rw [className?_of_make h hl, hoptions]
  have hnames := map_name_signatures_of_make h
  have hall : OverridesAll options.outputClass (options.outputClass ++ l.camelCase)
      plan.signatures ↔ Apart options.outputClass (entries.map fun e => snakeCase e.key) ∧
        (privatePrefix options.outputClass = privatePrefix (options.outputClass ++ l.camelCase) ∨
          ∀ e ∈ entries, ¬ IsPrivate (nfkc (snakeCase e.key))) := by
    rw [overridesAll_iff, hnames,
      forall_signatures_iff_of_make h (P := fun name => ¬ IsPrivate (nfkc name))]
  refine ⟨hoptions ▸ isClass_baseClassBlock hbase, ?_, hall, fun hclassAscii hascii hmore => ?_⟩
  · have hwritten := isClass_localeClassBlock hclass htext
    rwa [hoptions] at hwritten
  · -- in ASCII two classes have the same prefix only if they have the same name
    have hfront := privatePrefix_ne_of_ascii hclassAscii hmore l.underscore_not_mem_camelCase
    have hpublic : (∀ e ∈ entries, ¬ IsPrivate (nfkc (snakeCase e.key))) ↔
        ∀ e ∈ entries, ¬ IsPrivate (snakeCase e.key) :=
      forall₂_congr fun e he => by rw [nfkc_of_ascii (hascii e he)]
    rw [hall, or_iff_right hfront, hpublic, and_congr_left_iff]
    -- so private identifiers are out of the question, and the rest are compared as they are spelled
    intro hnone
    rw [apart_iff_of_ascii (List.forall_mem_map.2 hascii) (List.forall_mem_map.2 hnone),
      ← nodup_names_iff_of_make h, hnames]
    refine and_iff_left (List.forall_mem_map.2 ?_)
    exact (forall_signatures_iff_of_make h (P := fun name => name ∉ reservedMembers)).1
      (not_reserved_of_make h)

end

/-- A base class and the class of a locale, with one accessor for two placeholders (`guestsEntry`).
-/
theorem overrides_guests :
    guestsTranslation.locale ∈ guestsCollection.locales ∧
    ∃ plan base text,
      Plan.make [guestsEntry] guestsCollection.locales guestsTemplate.locale guestsModule =
        .ok plan ∧
      baseClassBlock plan = .ok base ∧ localeClassBlock plan guestsTranslation.locale = .ok text ∧
      IsClass "AppLocalizations" "abc.ABC" true plan.signatures base ∧
      IsClass "AppLocalizationsDe" "AppLocalizations" false plan.signatures text ∧
      OverridesAll "AppLocalizations" "AppLocalizationsDe" plan.signatures := by
  have hl : guestsTranslation.locale ∈ guestsCollection.locales := by decide
  have hwritten : (Plan.make [guestsEntry] guestsCollection.locales guestsTemplate.locale
      guestsModule).map (fun plan => (baseClassBlock plan).isOk &&
        (localeClassBlock plan guestsTranslation.locale).isOk) = .ok true := by
    decide +kernel
  obtain ⟨plan, hplan, hblocks⟩ := map_eq_ok_iff.1 hwritten
  rw [Bool.and_eq_true] at hblocks
  obtain ⟨base, hbase⟩ := exists_eq_ok_of_isOk hblocks.1
  obtain ⟨text, htext⟩ := exists_eq_ok_of_isOk hblocks.2
  obtain ⟨hinherited, hown, -, hall⟩ := overrides_iff hplan hl hbase htext
  have hascii : IsAscii "AppLocalizationsDe" ∧ ∀ e ∈ [guestsEntry], IsAscii (snakeCase e.key) := by
    decide +kernel
  -- the names are of ASCII, so the condition on the keys is enough
  have hcondition : ([guestsEntry].map (·.key)).Nodup ∧
      ∀ e ∈ [guestsEntry], ¬ IsPrivate (snakeCase e.key) := by
    decide +kernel
  exact ⟨hl, plan, base, text, hplan, hbase, htext, hinherited, hown,
    (hall hascii.1 hascii.2 (by decide)).2 hcondition⟩

/-- An entry whose key has a private identifier. -/
def underscoredEntry : Entry where
  key := "__greeting"
  reference := "Hi"
  description := none
  context := none
  renditions :=
    [⟨⟨"en", none, none, "en"⟩, "app_en.arb", some "Hi", some [.text "Hi" ⟨0, 2⟩], []⟩]
  placeholders := []
  hadErrors := false

/-- A plan is made of the entry and its module is written, but the class of the locale does not
override the accessor: the base class has `_AppLocalizations__greeting`, and the class of the locale
`_AppLocalizationsEn__greeting`. -/
theorem not_overridesAll_underscored :
    ∃ plan text, Plan.make [underscoredEntry] [⟨"en", none, none, "en"⟩] ⟨"en", none, none, "en"⟩
        .standard = .ok plan ∧
      emit plan = .ok text ∧
      plan.signatures = [⟨"__greeting", none⟩] ∧
      ¬ OverridesAll "AppLocalizations" "AppLocalizationsEn" plan.signatures := by
  have hwritten : (Plan.make [underscoredEntry] [⟨"en", none, none, "en"⟩]
      ⟨"en", none, none, "en"⟩ .standard).map (fun plan => ((emit plan).isOk, plan.signatures)) =
        .ok (true, [⟨"__greeting", none⟩]) := by
    decide +kernel
  obtain ⟨plan, hplan, heq⟩ := map_eq_ok_iff.1 hwritten
  obtain ⟨hemit, hsignatures⟩ := Prod.mk.inj heq
  obtain ⟨text, htext⟩ := exists_eq_ok_of_isOk hemit
  refine ⟨plan, text, hplan, htext, hsignatures, ?_⟩
  rw [hsignatures, overridesAll_iff]
  -- the prefixes differ, and the identifier is private
  rintro ⟨-, hfront | hpublic⟩
  · have hascii : IsAscii ("AppLocalizations" ++ "En") := by decide +kernel
    exact privatePrefix_ne_of_ascii hascii (by decide) (by decide) hfront
  · refine hpublic _ List.mem_cons_self ?_
    rw [nfkc_of_ascii (by decide +kernel)]
    decide

end Parlance.Code
