import Parlance.Config.Source
import Parlance.Proofs.Config.Options

/-!
# Sources that are passed over

What a configuration file holds is said by `Holds`: its document, or in the file of a project the
value at the place of the configuration's table. A file that is missing, cannot be read or decoded,
or holds no table of options is `Unusable` and passed over (`ofFiles_append_of_unusable`), so it
might as well not be there (`ofFiles_eq_of_unusable`). The options of the first other file decide
alone. There is one file that is neither: the file of a project in which `tool` is no table
(`Stumbles`).
-/

namespace Parlance.Config

/-- The reader of the format that a path ends in. -/
def decoderFor (decoders : Decoders) (path : String) : Decoder :=
  if isToml path then decoders.toml else decoders.yaml

/-- Whether a path is the file of a project, in which the configuration is one table of many. -/
def IsProjectFile (path : String) : Prop :=
  isToml path = true ∧ Path.nameOf path = projectFile

/-- Whether the configuration that a text holds is a value: its document, or what the file of a
project has in the place of the configuration's table. -/
inductive Holds (decoders : Decoders) (path text : String) : Value → Prop
  | document {v} (hpath : ¬ IsProjectFile path) (h : decoderFor decoders path text = .ok v) :
    Holds decoders path text v
  | noTool {entries} (hpath : IsProjectFile path)
      (h : decoderFor decoders path text = .ok (.object entries))
      (htool : Assoc.get? entries tablePath.1 = none) : Holds decoders path text .null
  | tool {entries tools} (hpath : IsProjectFile path)
      (h : decoderFor decoders path text = .ok (.object entries))
      (htool : Assoc.get? entries tablePath.1 = some (.object tools)) :
    Holds decoders path text ((Assoc.get? tools tablePath.2).getD .null)

/-- Whether a document is no table, or one in which `tool` is none. -/
def ToolIsNoTable (document : Value) : Prop :=
  ∀ entries, document = .object entries →
    ∃ tool, Assoc.get? entries tablePath.1 = some tool ∧ tool.object? = none

section

variable (decoders : Decoders) (fs : FileSystem) (path : String)

/-- Whether a file has options. -/
def Chosen (entries : Assoc Value) : Prop :=
  fs.pathExists path = true ∧
    ∃ text, fs.readText path = .ok text ∧ Holds decoders path text (.object entries)

/-- Whether a file is missing, cannot be read or decoded, or holds something else than options. -/
def Unusable : Prop :=
  fs.pathExists path = false ∨ (∃ f, fs.readText path = .error f) ∨
    ∃ text, fs.readText path = .ok text ∧
      ((∃ detail, decoderFor decoders path text = .error (.malformed detail)) ∨
        ∃ v, Holds decoders path text v ∧ v.object? = none)

/-- Whether a file is that of a project, and `tool` is no table in it. -/
def Stumbles : Prop :=
  fs.pathExists path = true ∧ IsProjectFile path ∧
    ∃ text document, fs.readText path = .ok text ∧
      decoderFor decoders path text = .ok document ∧ ToolIsNoTable document

/-- Whether the reader of a format, given the text of a file, answers a value or says that the text
is not of the format. -/
def Documented : Prop :=
  ∀ text failure, fs.readText path = .ok text →
    decoderFor decoders path text ≠ .error (.noSuchValue failure)

end

/-- Whether a file comes after unusable ones only. -/
def Reaches (decoders : Decoders) (fs : FileSystem) (files : List String) (path : String) : Prop :=
  ∃ before after, files = before ++ path :: after ∧ ∀ p ∈ before, Unusable decoders fs p

/-- What the settings of some files may be: the defaults if none is usable, and otherwise those that
the first usable one gives, or the refusal of its first option whose value has the wrong type. -/
inductive Settled (decoders : Decoders) (fs : FileSystem) (files : List String) :
    Except Failure Config → Prop
  | defaults (h : ∀ path ∈ files, Unusable decoders fs path) :
    Settled decoders fs files (.ok standard)
  | settings {path entries c} (hpath : Reaches decoders fs files path)
      (hentries : Chosen decoders fs path entries) (hright : ∀ e ∈ entries, ¬ WrongType e.1 e.2)
      (hc : (ofOptions path entries).result = .ok c) : Settled decoders fs files (.ok c)
  | wrongType {path entries f} (hpath : Reaches decoders fs files path)
      (hentries : Chosen decoders fs path entries) (hwrong : FirstWrong entries f) :
    Settled decoders fs files (.error (.fault f))

section

variable {decoders : Decoders} {fs fs' : FileSystem} {path text : String} {files : List String}

/-! ## Texts -/

/-- Of `pyproject.toml` the options are in a table of their own. -/
private theorem decode_of_isProjectFile (h : IsProjectFile path) :
    decode decoders path text =
      (decoderFor decoders path text).bind fun document =>
        (tableOf document).mapError .noSuchValue := by
  simp [decode, decoderFor, h.1, h.2]

/-- Any other file (`IsProjectFile`) holds the options themselves. -/
private theorem decode_of_not_isProjectFile (h : ¬ IsProjectFile path) :
    decode decoders path text = decoderFor decoders path text := by
  rw [decode, decoderFor]
  by_cases htoml : isToml path = true
  · have hname : Path.nameOf path ≠ projectFile := fun hname => h ⟨htoml, hname⟩
    simp only [htoml, if_true, beq_iff_eq, hname, if_false]
    cases decoders.toml text <;> rfl
  · simp [htoml]

/-- What a text `Holds` is what it decodes to. -/
theorem Holds.decode_eq {v : Value} (h : Holds decoders path text v) :
    decode decoders path text = .ok v := by
  cases h with
  | document hpath h => rw [decode_of_not_isProjectFile hpath, h]
  | noTool hpath h htool =>
    rw [decode_of_isProjectFile hpath, h]
    simp only [Except.bind, tableOf, htool]
    rfl
  | tool hpath h htool =>
    rw [decode_of_isProjectFile hpath, h]
    simp only [Except.bind, tableOf, htool]
    rfl

/-- A text that is not of its format does not decode (`decode`). -/
private theorem decode_of_malformed {detail : String}
    (h : decoderFor decoders path text = .error (.malformed detail)) :
    decode decoders path text = .error (.malformed detail) := by
  by_cases hpath : IsProjectFile path
  · rw [decode_of_isProjectFile hpath, h]
    rfl
  · rw [decode_of_not_isProjectFile hpath, h]

/-- Where `tool` is no table, looking into it fails. -/
private theorem tableOf_of_toolIsNoTable {document : Value} (h : ToolIsNoTable document) :
    tableOf document = .error .notTable := by
  cases document with
  | object entries =>
    obtain ⟨tool, htool, hnone⟩ := h entries rfl
    cases tool with
    | object tools => cases hnone
    | _ => simp only [tableOf, htool]
  | _ => rfl

/-- A project file in which `tool` is no table ends in the failure of `tableOf`. -/
private theorem decode_of_toolIsNoTable {document : Value} (hpath : IsProjectFile path)
    (h : decoderFor decoders path text = .ok document) (htool : ToolIsNoTable document) :
    decode decoders path text = .error (.noSuchValue .notTable) := by
  rw [decode_of_isProjectFile hpath, h]
  simp only [Except.bind, tableOf_of_toolIsNoTable htool]
  rfl

/-- What the text of a file holds is a value, unless `tool` is no table. -/
private theorem holds_or_toolIsNoTable {document : Value}
    (h : decoderFor decoders path text = .ok document) :
    (∃ v, Holds decoders path text v) ∨ (IsProjectFile path ∧ ToolIsNoTable document) := by
  by_cases hpath : IsProjectFile path
  · by_cases htable : ToolIsNoTable document
    · exact .inr ⟨hpath, htable⟩
    · simp only [ToolIsNoTable, not_forall, not_exists, not_and] at htable
      -- the document is a table whose `tool`, if there is one, is a table
      obtain ⟨entries, rfl, htool⟩ := htable
      cases hget : Assoc.get? entries tablePath.1 with
      | none => exact .inl ⟨_, .noTool hpath h hget⟩
      | some tool =>
        cases tool with
        | object tools => exact .inl ⟨_, .tool hpath h hget⟩
        | _ => exact absurd rfl (htool _ hget)
  · exact .inl ⟨document, .document hpath h⟩

/-! ## Files -/

/-- A `Chosen` file gives its entries. -/
theorem optionsIn_of_chosen {entries : Assoc Value} (h : Chosen decoders fs path entries) :
    (optionsIn decoders fs path).result = .ok (some entries) := by
  obtain ⟨hexists, text, htext, hholds⟩ := h
  simp only [optionsIn, hexists, htext, hholds.decode_eq]
  rfl

/-- An `Unusable` file gives no options, and no failure either. -/
theorem optionsIn_of_unusable (h : Unusable decoders fs path) :
    (optionsIn decoders fs path).result = .ok none := by
  rw [optionsIn]
  by_cases hexists : fs.pathExists path = true
  · -- One case for each way of being unusable, in the order in which the loader meets them.
    rcases h with hmissing | ⟨f, hf⟩ | ⟨text, htext, ⟨detail, hdetail⟩ | ⟨v, hholds, hnone⟩⟩
    · simp [hexists] at hmissing
    · simp only [hexists, hf]
      rfl
    · simp only [hexists, htext, decode_of_malformed hdetail]
      rfl
    · simp only [hexists, htext, hholds.decode_eq]
      cases v with
      | object entries => cases hnone
      | _ => rfl
  · simp only [hexists]
    rfl

/-- A file that `Stumbles` gives neither: the failure goes through. -/
private theorem optionsIn_of_stumbles (h : Stumbles decoders fs path) :
    (optionsIn decoders fs path).result = .error .notTable := by
  obtain ⟨hexists, hpath, text, document, htext, hdocument, htool⟩ := h
  simp only [optionsIn, hexists, htext, decode_of_toolIsNoTable hpath hdocument htool]
  rfl

/-- A file is unusable (`Unusable`), has options, or stumbles. -/
private theorem unusable_or_chosen_or_stumbles (hdoc : Documented decoders fs path) :
    Unusable decoders fs path ∨ (∃ entries, Chosen decoders fs path entries) ∨
      Stumbles decoders fs path := by
  by_cases hexists : fs.pathExists path = true
  · cases htext : fs.readText path with
    | error f => exact .inl (.inr (.inl ⟨f, htext⟩))
    | ok text =>
      cases hdecoded : decoderFor decoders path text with
      | error e =>
        cases e with
        | malformed detail =>
          exact .inl (.inr (.inr ⟨text, htext, .inl ⟨detail, hdecoded⟩⟩))
        -- The readers of the formats fail in no other way, by assumption.
        | noSuchValue failure => exact absurd hdecoded (hdoc text failure htext)
      | ok document =>
        rcases holds_or_toolIsNoTable hdecoded with ⟨v, hholds⟩ | ⟨hpath, htool⟩
        · cases hobject : v.object? with
          | none => exact .inl (.inr (.inr ⟨text, htext, .inr ⟨v, hholds, hobject⟩⟩))
          | some entries =>
            cases v with
            | object entries => exact .inr (.inl ⟨entries, hexists, text, htext, hholds⟩)
            | _ => cases hobject
        · exact .inr (.inr ⟨hexists, hpath, text, document, htext, hdecoded, htool⟩)
  · exact .inl (.inl (Bool.not_eq_true _ ▸ hexists))

/-! ## Several files -/

/-- An unusable (`Unusable`) file leaves the decision to those behind it. -/
theorem ofFiles_cons_of_unusable (h : Unusable decoders fs path) :
    (ofFiles decoders fs (path :: files)).result = (ofFiles decoders fs files).result := by
  rw [ofFiles, Logged.bind, optionsIn_of_unusable h]

/-- A chosen (`Chosen`) file decides alone. -/
theorem ofFiles_cons_of_chosen {entries : Assoc Value} (h : Chosen decoders fs path entries) :
    (ofFiles decoders fs (path :: files)).result =
      (ofOptions path entries).result.mapError .fault := by
  rw [ofFiles, Logged.bind, optionsIn_of_chosen h]
  rfl

/-- A file that stumbles (`Stumbles`) ends the search. -/
private theorem ofFiles_cons_of_stumbles (h : Stumbles decoders fs path) :
    (ofFiles decoders fs (path :: files)).result = .error .notTable := by
  rw [ofFiles, Logged.bind, optionsIn_of_stumbles h]

/-- Files that are unusable (`Unusable`) are passed over. -/
theorem ofFiles_append_of_unusable {before : List String}
    (h : ∀ p ∈ before, Unusable decoders fs p) :
    (ofFiles decoders fs (before ++ files)).result = (ofFiles decoders fs files).result := by
  induction before with
  | nil => rfl
  | cons p before ih =>
    obtain ⟨hp, hbefore⟩ := List.forall_mem_cons.1 h
    rw [List.cons_append, ofFiles_cons_of_unusable hp, ih hbefore]

/-- What is reached (`Reaches`) behind some files is reached behind one more that is unusable. -/
theorem Reaches.cons {first : String} (hfirst : Unusable decoders fs first)
    (h : Reaches decoders fs files path) : Reaches decoders fs (first :: files) path := by
  obtain ⟨before, after, rfl, hbefore⟩ := h
  exact ⟨first :: before, after, rfl, List.forall_mem_cons.2 ⟨hfirst, hbefore⟩⟩

/-- A decision among some files stands behind one more that is unusable (`Unusable`). -/
theorem Settled.cons {first : String} {result : Except Failure Config}
    (hfirst : Unusable decoders fs first) (h : Settled decoders fs files result) :
    Settled decoders fs (first :: files) result := by
  cases h with
  | defaults h => exact .defaults (List.forall_mem_cons.2 ⟨hfirst, h⟩)
  | settings hpath hentries hright hc => exact .settings (hpath.cons hfirst) hentries hright hc
  | wrongType hpath hentries hwrong => exact .wrongType (hpath.cons hfirst) hentries hwrong

/-- The first usable file decides, or it stumbles (`Stumbles`). -/
theorem settled_or_stumbles (hdoc : ∀ path ∈ files, Documented decoders fs path) :
    Settled decoders fs files (ofFiles decoders fs files).result ∨
      ∃ path, Reaches decoders fs files path ∧ Stumbles decoders fs path := by
  induction files with
  | nil => exact .inl (.defaults (by simp))
  | cons path rest ih =>
    obtain ⟨hpath, hrest⟩ := List.forall_mem_cons.1 hdoc
    have hreaches : Reaches decoders fs (path :: rest) path := ⟨[], rest, rfl, by simp⟩
    -- The induction is on the files: only an unusable first file leaves the question to the rest.
    rcases unusable_or_chosen_or_stumbles hpath with hunusable | ⟨entries, hchosen⟩ | hstumbles
    · rw [ofFiles_cons_of_unusable hunusable]
      rcases ih hrest with hsettled | ⟨p, hp, hstumbles⟩
      · exact .inl (hsettled.cons hunusable)
      · exact .inr ⟨p, hp.cons hunusable, hstumbles⟩
    · left
      rw [ofFiles_cons_of_chosen hchosen]
      rcases ofOptions_cases path entries with ⟨hright, c, hc⟩ | ⟨f, hwrong, hf⟩
      · rw [hc]
        exact .settings hreaches hchosen hright hc
      · rw [hf]
        exact .wrongType hreaches hchosen hwrong
    · exact .inr ⟨path, hreaches, hstumbles⟩

/-- Files fail if one is reached that stumbles (`Stumbles`). -/
theorem ofFiles_of_stumbles (hreaches : Reaches decoders fs files path)
    (h : Stumbles decoders fs path) : (ofFiles decoders fs files).result = .error .notTable := by
  obtain ⟨before, after, rfl, hbefore⟩ := hreaches
  rw [ofFiles_append_of_unusable hbefore, ofFiles_cons_of_stumbles h]

/-! ## Files that might as well not be there -/

/-- Whether two file systems have the same in a place. -/
def AgreeAt (fs fs' : FileSystem) (path : String) : Prop :=
  fs'.pathExists path = fs.pathExists path ∧ fs'.readText path = fs.readText path

/-- A file gives what it holds (`optionsIn`), whatever else is in the file system. -/
theorem optionsIn_eq_of_agreeAt (h : AgreeAt fs fs' path) :
    (optionsIn decoders fs' path).result = (optionsIn decoders fs path).result := by
  rw [optionsIn, optionsIn, h.1, h.2]
  cases fs.pathExists path with
  | false => simp only [Bool.not_false, if_true]
  | true =>
    simp only [Bool.not_true, Bool.false_eq_true, if_false]
    cases fs.readText path <;> rfl

/-- A file that is passed over (`Unusable`) might as well not be there. -/
theorem ofFiles_eq_of_unusable (h : Unusable decoders fs path)
    (hmissing : fs'.pathExists path = false)
    (hothers : ∀ other ∈ files, other ≠ path → AgreeAt fs fs' other) :
    (ofFiles decoders fs' files).result = (ofFiles decoders fs files).result := by
  induction files with
  | nil => rfl
  | cons first rest ih =>
    obtain ⟨hfirst, hrest⟩ := List.forall_mem_cons.1 hothers
    -- Only at `path` do the file systems differ, and there both give no options.
    by_cases heq : first = path
    · subst heq
      rw [ofFiles_cons_of_unusable h, ofFiles_cons_of_unusable (.inl hmissing), ih hrest]
    · rw [ofFiles, ofFiles, Logged.bind, Logged.bind, optionsIn_eq_of_agreeAt (hfirst heq)]
      cases (optionsIn decoders fs first).result with
      | error e => rfl
      | ok entries =>
        cases entries with
        | none => exact ih hrest
        | some entries => rfl

end

/-- Where no options are passed in, and the readers of the formats answer a value or say that the
text is not of the format, the settings are the defaults, those of the first usable file, or the
refusal of a value of the wrong type in it, if and only if no file of a project is reached in which
`tool` is no table. A file that is missing, unreadable or undecodable, or that holds no options,
might as well not be there. -/
theorem load_settled_iff (decoders : Decoders) (fs : FileSystem) (project : String)
    (file : Option String)
    (hdoc : ∀ path ∈ candidates project file, Documented decoders fs path) :
    (Settled decoders fs (candidates project file) (load decoders fs project [] file).result ↔
      ¬ ∃ path, Reaches decoders fs (candidates project file) path ∧ Stumbles decoders fs path) ∧
    ∀ path fs', Unusable decoders fs path → fs'.pathExists path = false →
      (∀ other ∈ candidates project file, other ≠ path → AgreeAt fs fs' other) →
      (load decoders fs' project [] file).result = (load decoders fs project [] file).result := by
  refine ⟨⟨?_, fun h => ?_⟩, fun path fs' h hmissing hothers => ?_⟩
  · rintro h ⟨path, hreaches, hstumbles⟩
    have hload : (load decoders fs project [] file).result = .error .notTable :=
      ofFiles_of_stumbles hreaches hstumbles
    rw [hload] at h
    cases h
  · exact (settled_or_stumbles hdoc).resolve_right h
  · exact ofFiles_eq_of_unusable h hmissing hothers

/-- A project whose file has the configuration's table, beside a file that is not UTF-8. -/
def tableProject : FileSystem :=
  ⟨[(⟨"", ["l10n.yaml"]⟩, .undecodable),
    (⟨"", ["pyproject.toml"]⟩, .text "[tool.arbgen]\noutput-class = \"Texts\"\n")], [], none⟩

/-- The file that is not UTF-8 (`tableProject`) is passed over, and the table gives the settings. -/
theorem settled_tableProject :
    Settled .standard tableProject (candidates "." none)
      (load .standard tableProject "." [] none).result := by
  have hfiles : candidates "." none = ["l10n.yaml", "pyproject.toml"] := by decide
  have hyaml : tableProject.readText "l10n.yaml" = .error .undecodable := rfl
  have htext : tableProject.readText "pyproject.toml" =
      .ok "[tool.arbgen]\noutput-class = \"Texts\"\n" := rfl
  have hdecoded : decoderFor .standard "pyproject.toml"
      "[tool.arbgen]\noutput-class = \"Texts\"\n" = .ok (.object
        [("tool", .object [("arbgen", .object [("output-class", .text "Texts")])])]) := by
    rw [decoderFor, if_pos (by decide)]
    decide +kernel
  have hdoc : ∀ path ∈ candidates "." none, Documented .standard tableProject path := by
    rw [hfiles]
    simp only [List.forall_mem_cons, List.not_mem_nil, false_imp_iff, implies_true, and_true]
    refine ⟨fun text failure h => ?_, fun text failure h => ?_⟩
    · cases hyaml.symm.trans h
    · cases htext.symm.trans h
      rw [hdecoded]
      intro herror
      cases herror
  refine (load_settled_iff .standard tableProject "." none hdoc).1.2 ?_
  rintro ⟨path, ⟨before, after, hsplit, -⟩, -, hpath, text, document, hread, hdocument, htool⟩
  have hmem : path ∈ ["l10n.yaml", "pyproject.toml"] := by
    rw [← hfiles, hsplit]
    simp
  -- the first file cannot be read, and in the second `tool` is a table
  rcases List.mem_pair.1 hmem with rfl | rfl
  · cases hyaml.symm.trans hread
  · cases htext.symm.trans hread
    cases hdecoded.symm.trans hdocument
    obtain ⟨tool, hget, hnone⟩ := htool _ rfl
    cases hget
    cases hnone

/-- A project in whose file `tool` is a number. -/
def toolNumber : FileSystem :=
  ⟨[(⟨"", ["pyproject.toml"]⟩, .text "tool = 1\n")], [], none⟩

/-- Where `tool` is a number, there are neither settings nor a refusal in the program's words. -/
theorem not_loaded_toolNumber :
    ¬ ((∃ c, (load .standard toolNumber "." [] none).result = .ok c) ∨
      ∃ f, (load .standard toolNumber "." [] none).result = .error (.fault f)) := by
  have hfiles : candidates "." none = ["l10n.yaml", "pyproject.toml"] := by decide
  have hreaches : Reaches .standard toolNumber (candidates "." none) "pyproject.toml" := by
    refine ⟨["l10n.yaml"], [], hfiles, ?_⟩
    simp only [List.forall_mem_cons, List.not_mem_nil, false_imp_iff, implies_true, and_true]
    exact .inl (by decide)
  have hdecoded : decoderFor .standard "pyproject.toml" "tool = 1\n" =
      .ok (.object [("tool", .int 1)]) := by
    rw [decoderFor, if_pos (by decide)]
    decide +kernel
  -- `tool` is a number, of which no table can be asked
  have hstumbles : Stumbles .standard toolNumber "pyproject.toml" := by
    refine ⟨by decide, ⟨by decide, by decide⟩, _, _, rfl, hdecoded, ?_⟩
    rintro entries ⟨⟩
    exact ⟨.int 1, rfl, rfl⟩
  have hload : (load .standard toolNumber "." [] none).result = .error .notTable :=
    ofFiles_of_stumbles hreaches hstumbles
  rw [hload]
  rintro (⟨c, hc⟩ | ⟨f, hf⟩)
  · cases hc
  · cases hf

end Parlance.Config
