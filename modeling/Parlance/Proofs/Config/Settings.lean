import Parlance.Proofs.Config.Sources

/-!
# What the settings depend on

`Config.settings` lists all settings under the names of their options, and loses nothing
(`settings_injective`). An option changes the setting of its name and no other (`settings_assign`),
so after all options of a source each setting is the one that the source gives, or the default
(`get?_settings_applyAll`). Which source that is, the first one that there is decides alone.
-/

namespace Parlance.Config

/-- A setting that may be missing, as the value of its option. -/
def textOrNull (s : Option String) : Value := (s.map Value.text).getD .null

/-- The settings under the names of their options. -/
def settings (c : Config) : Assoc Value :=
  [("arb-dir", .text c.bundleDirectory),
   ("template-arb-file", .text c.templateFile),
   ("output-localization-file", .text c.outputFile),
   ("output-class", .text c.outputClass),
   ("preferred-supported-locales", .list (c.preferredLocales.map .text)),
   ("header", textOrNull c.header),
   ("header-file", textOrNull c.headerFile),
   ("use-deferred-loading", .bool c.deferredLoading),
   ("use-relaxed-syntax", .bool c.relaxed),
   ("synthetic-package", .bool c.syntheticPackage),
   ("use-escaping", .bool c.escaping),
   ("suppress-warnings", .bool c.suppressWarnings),
   ("use-named-parameters", .bool c.namedParameters),
   ("nullable-getter", .bool c.nullableGetter),
   ("format", .bool c.formats),
   ("required-resource-attributes", .bool c.requireAttributes),
   ("untranslated-messages-file", textOrNull c.reportFile)]

/-- The value that a setting gets from the value of its option: one string stands for a list of
it where several are taken. -/
def Setter.stored : Setter → Value → Value
  | .texts _, .text s => .list [.text s]
  | _, v => v

/-- A setting that may be `null` tells its string. -/
private theorem textOrNull_injective {s t : Option String} (h : textOrNull s = textOrNull t) : s =
    t := by
  cases s <;> cases t <;> simp_all [textOrNull]

/-- Lists of strings are told by the values they are stored as. -/
private theorem map_text_injective {ss ts : List String} (h : ss.map Value.text = ts.map Value.text)
    : ss = ts :=
  List.map_injective_iff.2 (fun _ _ heq => Value.text.inj heq) h

/-- Every configuration has settings (`settings`) of the same names. -/
theorem keys_settings (c c' : Config) : c.settings.keys = c'.settings.keys := rfl

/-- No setting (`settings`) is there twice. -/
theorem nodup_keys_settings (c : Config) : c.settings.keys.Nodup := by
  rw [keys_settings c standard]
  decide

/-- Settings (`settings`) that are all the same are of the same configuration. -/
theorem settings_injective {c c' : Config} (h : c.settings = c'.settings) : c = c' := by
  obtain ⟨⟩ := c
  obtain ⟨⟩ := c'
  simp only [settings, List.cons.injEq, Prod.mk.injEq, true_and, Value.text.injEq, Value.bool.injEq,
    Value.list.injEq, and_true] at h
  obtain ⟨rfl, rfl, rfl, rfl, hpreferred, hheader, hfile, rfl, rfl, rfl, rfl, rfl, rfl, rfl, rfl,
    rfl, hreport⟩ := h
  rw [map_text_injective hpreferred, textOrNull_injective hheader, textOrNull_injective hfile,
    textOrNull_injective hreport]

/-! ## One option -/

/-- Whether a setter changes the setting of a name to what it is given, and no other setting. -/
def Setter.Writes (name : String) : Setter → Prop
  | .text set => ∀ c s, (set c s).settings = c.settings.set name (.text s)
  | .flag set => ∀ c b, (set c b).settings = c.settings.set name (.bool b)
  | .texts set => ∀ c ss, (set c ss).settings = c.settings.set name (.list (ss.map .text))

/-- Every option changes the setting (`Writes`) of its name. -/
theorem writes_of_mem : ∀ p ∈ options, p.2.Writes p.1 := by
  simp only [options, List.forall_mem_cons, List.not_mem_nil, false_imp_iff, implies_true, and_true]
  and_intros <;> exact fun c value => rfl

/-- An option (`option?`) that is found by its name is in the table. -/
private theorem mem_options_of_option? {name : String} {setter : Setter}
    (h : option? name = some setter) : (name, setter) ∈ options := by
  obtain ⟨⟨found, _⟩, hfind, rfl⟩ := Option.map_eq_some_iff.1 h
  have hname : found = name := by
    simpa using List.find?_some hfind
  exact hname ▸ List.mem_of_find?_eq_some hfind

/-- The strings that are taken from a list (`text?`) are its items. -/
private theorem map_text_of_mapM {items : List Value} {ss : List String}
    (h : items.mapM Value.text? = some ss) : ss.map Value.text = items := by
  induction items generalizing ss with
  | nil =>
    cases h
    rfl
  | cons x rest ih =>
    rw [List.mapM_cons] at h
    obtain ⟨s, hs, hmore⟩ := Option.bind_eq_some_iff.1 h
    obtain ⟨more, hrest, hlist⟩ := Option.bind_eq_some_iff.1 hmore
    cases hlist
    -- only a text has a text
    cases x with
    | text t =>
      cases hs
      rw [List.map_cons, ih hrest]
    | _ => cases hs

/-- The strings that an option of several is given are those that are stored (`stored`). -/
private theorem stored_of_textsOf? {set : Config → List String → Config} {v : Value}
    {ss : List String}
    (h : textsOf? v = some ss) : (Setter.texts set).stored v = .list (ss.map .text) := by
  cases v with
  | text s =>
    cases h
    rfl
  | list items => exact congrArg Value.list (map_text_of_mapM h).symm
  | _ => cases h

/-- An option that is given a value changes the setting (`settings`) of its name, and no other. -/
theorem settings_assign {c c' : Config} {name : String} {setter : Setter} {value : Value}
    (hoption : option? name = some setter) (h : c.assign name setter value = .ok c') :
    c'.settings = c.settings.set name (setter.stored value) := by
  -- what a setter writes is checked once for the whole table of options
  have hwrites := writes_of_mem _ (mem_options_of_option? hoption)
  cases setter with
  | text set =>
    cases value with
    | text s =>
      cases h
      exact hwrites c s
    | _ => cases h
  | flag set =>
    cases value with
    | bool b =>
      cases h
      exact hwrites c b
    | _ => cases h
  | texts set =>
    rw [assign] at h
    cases htexts : textsOf? value with
    | none => simp [htexts] at h
    | some ss =>
      simp only [htexts, Except.ok.injEq] at h
      rw [← h, hwrites c ss, stored_of_textsOf? htexts]

/-! ## All options -/

/-- What a source gives for the setting of a name: the value of the option, unless it is absent or
`null`. -/
def given? (entries : Assoc Value) (name : String) : Option Value :=
  (option? name).bind fun setter => (Value.field? entries name).map setter.stored

section

variable {source : String} {entries : Assoc Value} {name : String} {value : Value}

/-- The first entry is found under its name, and counts as missing if it is `null`. -/
theorem field?_cons_self : Value.field? ((name, value) :: entries) name =
    if value.isNull then none else some value := by
  rw [Value.field?, Assoc.get?_cons, if_pos rfl]
  cases value <;> rfl

/-- An entry of another name does not matter to what is found (`field?`). -/
theorem field?_cons_of_ne {other : String} (h : name ≠ other) :
    Value.field? ((name, value) :: entries) other = Value.field? entries other := by
  rw [Value.field?, Value.field?, Assoc.get?_cons, if_neg h]

/-- A name that is no key is not found (`field?`). -/
theorem field?_of_not_mem (h : name ∉ entries.keys) : Value.field? entries name = none := by
  rw [Value.field?, Assoc.get?_of_not_mem h]

/-- An entry of another name does not matter to what is given (`given?`). -/
private theorem given?_cons_of_ne {other : String} (h : name ≠ other) :
    given? ((name, value) :: entries) other = given? entries other := by
  rw [given?, given?, field?_cons_of_ne h]

/-- Nothing is given (`given?`) for a name that is no key. -/
private theorem given?_of_not_mem (h : name ∉ entries.keys) : given? entries name = none := by
  rw [given?, field?_of_not_mem h]
  cases option? name <;> rfl

/-- Nothing is given (`given?`) by a source without entries. -/
private theorem given?_nil : given? [] name = none := given?_of_not_mem List.not_mem_nil

/-- After one option, the setting (`settings`) of its name is what the option gives, or what it was
before. -/
theorem get?_settings_applyOption {c c' : Config}
    (h : (applyOption source c name value).result = .ok c') (other : String) :
    Assoc.get? c'.settings other =
      (given? [(name, value)] other).or (Assoc.get? c.settings other) := by
  -- Only the setting under the name of the option can differ.
  by_cases hother : name = other
  · subst hother
    rw [given?, field?_cons_self]
    rw [applyOption] at h
    cases hoption : option? name with
    | none =>
      rw [hoption] at h
      cases h
      rfl
    | some setter =>
      simp only [hoption] at h
      cases hnull : value.isNull with
      | true =>
        rw [hnull] at h
        cases h
        rfl
      | false =>
        simp only [hnull, Bool.false_eq_true, if_false] at h
        rw [settings_assign hoption h, Assoc.get?_set_self]
        rfl
  · rw [given?_cons_of_ne hother, given?_nil, Option.none_or]
    rw [applyOption] at h
    cases hoption : option? name with
    | none =>
      rw [hoption] at h
      cases h
      rfl
    | some setter =>
      simp only [hoption] at h
      split at h
      · cases h
        rfl
      · rw [settings_assign hoption h, Assoc.get?_set_of_ne _ _ (Ne.symm hother)]

/-- After all options of a source, a setting (`settings`) is what the source gives for it, or the
default. -/
theorem get?_settings_applyAll (hdistinct : entries.keys.Nodup) {c c' : Config}
    (h : (applyAll source c entries).result = .ok c') (name : String) :
    Assoc.get? c'.settings name = (given? entries name).or (Assoc.get? c.settings name) := by
  induction entries generalizing c with
  | nil =>
    cases h
    rw [given?_nil, Option.none_or]
  | cons entry rest ih =>
    obtain ⟨first, v⟩ := entry
    obtain ⟨hfirst, hrest⟩ := List.nodup_cons.1 hdistinct
    obtain ⟨c₁, hc₁, hmore⟩ := Logged.bind_result_eq_ok_iff.1 h
    rw [ih hrest hmore, get?_settings_applyOption hc₁]
    -- As names are distinct, what the rest gives for this one is nothing.
    by_cases hname : first = name
    · subst hname
      rw [given?_of_not_mem hfirst, Option.none_or, given?, given?, field?_cons_self,
        field?_cons_self]
    · rw [given?_cons_of_ne hname, given?_cons_of_ne hname, given?_nil, Option.none_or]

/-- What is given for a name (`field?`) by distinct options is the value of one of them. -/
theorem field?_eq_some_iff (hdistinct : entries.keys.Nodup) :
    Value.field? entries name = some value ↔ (name, value) ∈ entries ∧ value ≠ .null := by
  induction entries with
  | nil => simp [Value.field?, Assoc.get?_nil]
  | cons entry rest ih =>
    obtain ⟨first, v⟩ := entry
    obtain ⟨hfirst, hrest⟩ := List.nodup_cons.1 hdistinct
    by_cases hname : first = name
    · subst hname
      -- the name stands first, so it does not come again
      have hnot : (first, value) ∉ rest := fun hmem => hfirst (List.mem_map.2 ⟨_, hmem, rfl⟩)
      rw [field?_cons_self]
      cases v <;> simp_all [Value.isNull, eq_comm]
    · rw [field?_cons_of_ne hname, ih hrest]
      simp [Ne.symm hname]

/-- The options (`ofOptions`) of a source give settings if and only if each option takes what is
given for it. -/
theorem exists_ofOptions_iff (hdistinct : entries.keys.Nodup) :
    (∃ c, (ofOptions source entries).result = .ok c) ↔
      ∀ name setter value, option? name = some setter →
        Value.field? entries name = some value → setter.Takes value := by
  constructor
  · rintro ⟨c, hc⟩ name setter value hoption hvalue
    obtain ⟨hmem, hnull⟩ := (field?_eq_some_iff hdistinct).1 hvalue
    -- A refusal would name an entry, which the settings `c` rule out.
    rcases ofOptions_cases source entries with ⟨hright, -⟩ | ⟨f, -, hf⟩
    · by_contra htakes
      exact hright _ hmem ⟨setter, hoption, hnull, htakes⟩
    · cases hc.symm.trans hf
  · intro h
    refine ((ofOptions_cases source entries).resolve_right ?_).2
    rintro ⟨f, ⟨before, name, value, after, setter, hsplit, -, ⟨hoption, hnull, htakes⟩, -⟩, -⟩
    have hmem : (name, value) ∈ entries := by
      rw [hsplit]
      simp
    exact htakes (h name setter value hoption ((field?_eq_some_iff hdistinct).2 ⟨hmem, hnull⟩))

end

/-- Whether two sources give the same for every option that is known. -/
def GiveSame (entries entries' : Assoc Value) : Prop :=
  ∀ name setter, option? name = some setter →
    Value.field? entries name = Value.field? entries' name

/-- Sources that `GiveSame` give the same under every name. -/
private theorem given?_eq_of_giveSame {entries entries' : Assoc Value}
    (h : GiveSame entries entries')
    (name : String) : given? entries name = given? entries' name := by
  rw [given?, given?]
  cases hoption : option? name with
  | none => rfl
  | some setter => rw [h name setter hoption]

/-- Sources that give the same (`GiveSame`) for every known option give the same settings. -/
theorem ofOptions_eq_ok_of_giveSame {source source' : String} {entries entries' : Assoc Value}
    (hdistinct : entries.keys.Nodup) (hdistinct' : entries'.keys.Nodup)
    (hsame : GiveSame entries entries') {c : Config}
    (h : (ofOptions source entries).result = .ok c) :
    (ofOptions source' entries').result = .ok c := by
  have htakes := (exists_ofOptions_iff hdistinct).1 ⟨c, h⟩
  obtain ⟨c', hc'⟩ : ∃ c', (ofOptions source' entries').result = .ok c' := by
    refine (exists_ofOptions_iff hdistinct').2 fun name setter value hoption hvalue => ?_
    exact htakes name setter value hoption ((hsame name setter hoption).trans hvalue)
  have hsettings : c.settings = c'.settings := by
    refine Assoc.eq_of_keys_eq (keys_settings c c') (nodup_keys_settings c) fun name => ?_
    rw [get?_settings_applyAll hdistinct h, get?_settings_applyAll hdistinct' hc',
      given?_eq_of_giveSame hsame]
  rw [hc', settings_injective hsettings]

/-! ## The first source -/

section

variable {decoders : Decoders} {fs fs' : FileSystem} {project path : String} {file : Option String}

/-- Without options the files decide (`ofFiles`). -/
private theorem load_of_no_options :
    load decoders fs project [] file = ofFiles decoders fs (candidates project file) :=
  if_pos rfl

/-- Without a named file, those of the project are tried in order (`candidates`). -/
private theorem candidates_of_none (h : file = none ∨ file = some "") :
    candidates project file =
      [Path.joinText project yamlFile, Path.joinText project projectFile] := by
  rcases h with rfl | rfl <;> rfl

/-- A named file is the only candidate (`candidates`). -/
private theorem candidates_of_some (h : path ≠ "") : candidates project (some path) = [path] := by
  have hfilter : (some path).filter (fun f => !f.isEmpty) = some path := by
    rw [Option.filter_some, if_pos]
    simpa using h
  rw [candidates, hfilter]

/-- A file that holds options decides alone (`ofOptions`). -/
theorem ofFiles_eq_of_chosen {files : List String} {entries : Assoc Value}
    (h : (optionsIn decoders fs path).result = .ok (some entries)) :
    (ofFiles decoders fs (path :: files)).result =
      (ofOptions path entries).result.mapError .fault := by
  rw [ofFiles, Logged.bind, h]
  rfl

/-- A file that holds no options (`optionsIn`) leaves the decision to those after it. -/
theorem ofFiles_eq_of_none {files : List String}
    (h : (optionsIn decoders fs path).result = .ok none) :
    (ofFiles decoders fs (path :: files)).result = (ofFiles decoders fs files).result := by
  rw [ofFiles, Logged.bind, h]

/-- A file that is not there holds no options (`optionsIn`). -/
private theorem optionsIn_of_missing (h : fs.pathExists path = false) :
    (optionsIn decoders fs path).result = .ok none :=
  optionsIn_of_unusable (.inl h)

/-- Files (`ofFiles`) decide by what they hold. -/
theorem ofFiles_eq_of_agreeAt {files : List String} (h : ∀ path ∈ files, AgreeAt fs fs' path) :
    (ofFiles decoders fs' files).result = (ofFiles decoders fs files).result := by
  induction files with
  | nil => rfl
  | cons path rest ih =>
    obtain ⟨hpath, hrest⟩ := List.forall_mem_cons.1 h
    rw [ofFiles, ofFiles, Logged.bind, Logged.bind, optionsIn_eq_of_agreeAt hpath]
    -- only a file without options leads on to the next one
    cases (optionsIn decoders fs path).result with
    | error e => rfl
    | ok entries =>
      cases entries with
      | none => exact ih hrest
      | some entries => rfl

end

/-- The first source decides alone. With options the result, settings or refusal, has nothing to do
with the file system; with a file that is named it has to do with that file only; with neither, it
is that of `l10n.yaml` if this holds options, be they none at all, and if it holds no options, it is
what it would be without it. From one source the settings follow by what it gives for the options
that are known: unknown names, values that are `null` and the order change nothing, and each
setting for which nothing is given has its default. -/
theorem first_source_decides (decoders : Decoders) (project : String) :
    (∀ (fs fs' : FileSystem) (options : Assoc Value) (file : Option String), options ≠ [] →
      (load decoders fs' project options file).result =
        (load decoders fs project options file).result) ∧
    (∀ (fs fs' : FileSystem) (path : String), path ≠ "" → AgreeAt fs fs' path →
      (load decoders fs' project [] (some path)).result =
        (load decoders fs project [] (some path)).result) ∧
    (∀ (fs fs' : FileSystem) (file : Option String), file = none ∨ file = some "" →
      (∀ entries, (optionsIn decoders fs (Path.joinText project yamlFile)).result =
          .ok (some entries) → AgreeAt fs fs' (Path.joinText project yamlFile) →
        (load decoders fs' project [] file).result = (load decoders fs project [] file).result) ∧
      ((optionsIn decoders fs (Path.joinText project yamlFile)).result = .ok none →
        fs'.pathExists (Path.joinText project yamlFile) = false →
        AgreeAt fs fs' (Path.joinText project projectFile) →
        (load decoders fs' project [] file).result = (load decoders fs project [] file).result)) ∧
    ∀ (source : String) (entries : Assoc Value), entries.keys.Nodup →
      (∀ (source' : String) (entries' : Assoc Value), entries'.keys.Nodup →
        GiveSame entries entries' → ∀ c, (ofOptions source entries).result = .ok c ↔
          (ofOptions source' entries').result = .ok c) ∧
      ∀ c, (ofOptions source entries).result = .ok c → ∀ name setter, option? name = some setter →
        Assoc.get? c.settings name =
          ((Value.field? entries name).map setter.stored).or
            (Assoc.get? standard.settings name) := by
  refine ⟨fun fs fs' options file hoptions => ?_, fun fs fs' path hpath hagree => ?_,
    fun fs fs' file hfile => ⟨fun entries hentries hagree => ?_, fun hnone hmissing hagree => ?_⟩,
    fun source entries hdistinct => ⟨fun source' entries' hdistinct' hsame c => ?_,
      fun c hc name setter hoption => ?_⟩⟩
  · -- With options, no file is read.
    have hnonempty : ¬ options.isEmpty = true := by
      simpa using hoptions
    rw [load, load, if_neg hnonempty, if_neg hnonempty]
  · rw [load_of_no_options, load_of_no_options, candidates_of_some hpath]
    exact ofFiles_eq_of_agreeAt (by simpa using hagree)
  · -- The first candidate holds options in both file systems, so the second is not tried.
    have hentries' := (optionsIn_eq_of_agreeAt hagree).trans hentries
    rw [load_of_no_options, load_of_no_options, candidates_of_none hfile,
      ofFiles_eq_of_chosen hentries, ofFiles_eq_of_chosen hentries']
  · rw [load_of_no_options, load_of_no_options, candidates_of_none hfile, ofFiles_eq_of_none hnone,
      ofFiles_eq_of_none (optionsIn_of_missing hmissing)]
    exact ofFiles_eq_of_agreeAt (by simpa using hagree)
  · -- The agreement of the sources goes both ways.
    have hsame' : GiveSame entries' entries := fun name setter hoption =>
      (hsame name setter hoption).symm
    exact ⟨ofOptions_eq_ok_of_giveSame hdistinct hdistinct' hsame,
      ofOptions_eq_ok_of_giveSame hdistinct' hdistinct hsame'⟩
  · rw [get?_settings_applyAll hdistinct hc, given?, hoption]
    rfl

/-- A project whose YAML file holds no options at all, beside a project file that fails. -/
def emptyMapping : FileSystem :=
  ⟨[(⟨"", ["l10n.yaml"]⟩, .text "\x7b\x7d\n"),
    (⟨"", ["pyproject.toml"]⟩, .text "tool = 1\n")], [], none⟩

/-- Options of which one is known and has a value. -/
def noisyOptions : Assoc Value :=
  [("colour", .int 1), ("output-class", .text "Texts"), ("header", .null)]

/-- An unknown name and a value that is `null` give nothing. -/
theorem giveSame_noisyOptions : GiveSame noisyOptions [("output-class", .text "Texts")] := by
  intro name setter hoption
  -- `colour` is no option, and a header of `null` counts as none
  have hcolour : "colour" ≠ name := by
    rintro rfl
    cases hoption
  rw [noisyOptions, field?_cons_of_ne hcolour]
  by_cases hclass : "output-class" = name
  · subst hclass
    rfl
  · rw [field?_cons_of_ne hclass, field?_cons_of_ne hclass]
    by_cases hheader : "header" = name
    · subst hheader
      rfl
    · rw [field?_cons_of_ne hheader]

/-- Options decide before any file, a named file before those of the project, an empty YAML file
(`emptyMapping`) before a project file that fails, and a YAML file that is not UTF-8 might as well
not be there. Of the options one sets the class, and the flag for formats has its default. -/
theorem first_source_decides_projects :
    (load .standard tableProject "." noisyOptions none).result =
      (load .standard emptyMapping "." noisyOptions none).result ∧
    (load .standard emptyMapping "." [] (some "conf.yaml")).result =
      (load .standard tableProject "." [] (some "conf.yaml")).result ∧
    (load .standard (emptyMapping.remove "pyproject.toml") "." [] none).result =
      (load .standard emptyMapping "." [] none).result ∧
    (load .standard (tableProject.remove "l10n.yaml") "." [] none).result =
      (load .standard tableProject "." [] none).result ∧
    (ofOptions "l10n.yaml" [("output-class", .text "Texts")]).result =
      .ok { standard with outputClass := "Texts" } ∧
    Assoc.get? { standard with outputClass := "Texts" }.settings "format" = some (.bool true) := by
  have hyaml : Path.joinText "." yamlFile = "l10n.yaml" := by decide
  have hproject : Path.joinText "." projectFile = "pyproject.toml" := by decide
  obtain ⟨hoptions, hnamed, hunnamed, hsource⟩ := first_source_decides .standard "."
  rw [hyaml, hproject] at hunnamed
  -- the file holds an empty mapping, which decides all the same
  have hempty : (optionsIn .standard emptyMapping "l10n.yaml").result = .ok (some []) := by
    have hdecoded : decoderFor .standard "l10n.yaml" "\x7b\x7d\n" = .ok (.object []) := by
      rw [decoderFor, if_neg (by decide)]
      decide +kernel
    refine optionsIn_of_chosen ⟨by decide, "\x7b\x7d\n", rfl, .document ?_ hdecoded⟩
    exact fun h => absurd h.1 (by decide)
  have hnone : (optionsIn .standard tableProject "l10n.yaml").result = .ok none :=
    optionsIn_of_unusable (.inr (.inl ⟨.undecodable, rfl⟩))
  have hnoisy : (ofOptions "options" noisyOptions).result =
      .ok { standard with outputClass := "Texts" } := by
    rfl
  obtain ⟨hsame, hdefault⟩ := hsource "options" noisyOptions (by decide)
  refine ⟨hoptions _ _ _ _ (by decide), hnamed _ _ "conf.yaml" (by decide) ⟨by decide, rfl⟩,
    (hunnamed _ _ none (.inl rfl)).1 [] hempty ⟨by decide, rfl⟩,
    (hunnamed _ _ none (.inl rfl)).2 hnone (by decide) ⟨by decide, rfl⟩,
    (hsame _ _ (by decide) giveSame_noisyOptions _).1 hnoisy, ?_⟩
  exact hdefault _ hnoisy "format" _ rfl

end Parlance.Config
