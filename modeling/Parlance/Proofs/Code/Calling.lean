import Parlance.Proofs.Code.Scoping

/-!
# The calls in a body

An expression calls a function if a call of it stands in the expression at any depth. What a body
gives back makes strings of parameters, chooses by them and formats dates, but calls nothing else
(`function_of_calls_messageExpr`). So numbers are formatted only where a local variable is assigned
(`exists_of_calls_formatNumber`).
-/

namespace Parlance.Code

/-- Whether an expression calls a function with some arguments, at any depth. -/
inductive Expr.Calls (function : String) (arguments : List Argument) : Expr → Prop
  | here (stacked : Bool) : Calls function arguments (.call function stacked arguments)
  | argument {other : String} {stacked : Bool} {others : List Argument} {keyword : Option String}
      {value : Expr} (hmem : .mk keyword value ∈ others) (h : Calls function arguments value) :
    Calls function arguments (.call other stacked others)
  | left {left right : Expr} (h : Calls function arguments left) :
    Calls function arguments (.join left right)
  | right {left right : Expr} (h : Calls function arguments right) :
    Calls function arguments (.join left right)
  | key {entries : List Pair} {key value : Expr} (hmem : .mk key value ∈ entries)
      (h : Calls function arguments key) : Calls function arguments (.dict entries)
  | value {entries : List Pair} {key value : Expr} (hmem : .mk key value ∈ entries)
      (h : Calls function arguments value) : Calls function arguments (.dict entries)
  | item {items : List Expr} {value : Expr} (hmem : value ∈ items)
      (h : Calls function arguments value) : Calls function arguments (.tuple items)

/-- Whether a statement calls a function with some arguments, at any depth. -/
def Statement.Calls (function : String) (arguments : List Argument) : Statement → Prop
  | .assign _ value => value.Calls function arguments
  | .giveBack value => value.Calls function arguments
  | .refuse _ => False

section

variable {function : String} {arguments : List Argument}

/-- A literal (`literal`) calls nothing. -/
@[simp] theorem not_calls_literal (s : String) :
    ¬ (Expr.literal s).Calls function arguments := nofun

/-- A number (`number`) calls nothing. -/
@[simp] theorem not_calls_number (n : Nat) : ¬ (Expr.number n).Calls function arguments := nofun

/-- A name is looked up and not called (`Calls`). -/
@[simp] theorem not_calls_name (s : String) : ¬ (Expr.name s).Calls function arguments := nofun

/-- A value that is written out calls (`Calls`) nothing. -/
@[simp] theorem not_calls_data (v : Value) : ¬ (Expr.data v).Calls function arguments := nofun

/-- `self.locale_name` is a name. -/
@[simp] theorem not_calls_localeName : ¬ localeName.Calls function arguments := nofun

/-- A tuple of literals calls (`Calls`) nothing. -/
@[simp] theorem not_calls_literals (items : List String) :
    ¬ (Expr.tuple (items.map .literal)).Calls function arguments := by
  rintro (_ | _ | _ | _ | _ | _ | ⟨hmem, hitem⟩)
  obtain ⟨s, -, rfl⟩ := List.mem_map.1 hmem
  exact not_calls_literal s hitem

/-- A call calls its own `function`, and what is called in the values of its arguments. -/
theorem calls_call_iff {other : String} {stacked : Bool} {others : List Argument} :
    (Expr.call other stacked others).Calls function arguments ↔
      (other = function ∧ others = arguments) ∨
        ∃ keyword value, .mk keyword value ∈ others ∧ value.Calls function arguments := by
  constructor
  · rintro (_ | ⟨hmem, h⟩)
    · exact .inl ⟨rfl, rfl⟩
    · exact .inr ⟨_, _, hmem, h⟩
  · rintro (⟨rfl, rfl⟩ | ⟨keyword, value, hmem, h⟩)
    · exact .here stacked
    · exact .argument hmem h

/-- `left + right` calls what either side does. -/
theorem calls_join_iff {left right : Expr} :
    (Expr.join left right).Calls function arguments ↔
      left.Calls function arguments ∨ right.Calls function arguments := by
  constructor
  · rintro (_ | _ | h | h)
    · exact .inl h
    · exact .inr h
  · rintro (h | h)
    · exact .left h
    · exact .right h

/-- A dictionary calls (`Calls`) what its keys and values do. -/
theorem calls_dict_iff {entries : List Pair} :
    (Expr.dict entries).Calls function arguments ↔
      ∃ key value, .mk key value ∈ entries ∧
        (key.Calls function arguments ∨ value.Calls function arguments) := by
  constructor
  · rintro (_ | _ | _ | _ | ⟨hmem, h⟩ | ⟨hmem, h⟩)
    · exact ⟨_, _, hmem, .inl h⟩
    · exact ⟨_, _, hmem, .inr h⟩
  · rintro ⟨key, value, hmem, h | h⟩
    · exact .key hmem h
    · exact .value hmem h

/-- A sum calls (`Calls`) what its operands call. -/
theorem calls_joinAll_iff {es : List Expr} :
    (joinAll es).Calls function arguments ↔ ∃ e ∈ es, e.Calls function arguments := by
  cases es with
  | nil => simp [joinAll]
  | cons e rest =>
    -- the sum is built from the left, so what has been added up so far is generalised
    have hfold : ∀ first : Expr, (rest.foldl .join first).Calls function arguments ↔
        first.Calls function arguments ∨ ∃ e ∈ rest, e.Calls function arguments := by
      induction rest with
      | nil => simp
      | cons next more ih =>
        intro first
        rw [List.foldl_cons, ih (.join first next), calls_join_iff, or_assoc]
        simp
    rw [joinAll, hfold e]
    simp

/-! ## Messages -/

/-- The functions that may be called in what a body gives back. -/
def messageFunctions : List String :=
  ["str", "runtime.plural", "runtime.select", "runtime.format_datetime_skeleton"]

variable {scope : Scope} {cs : List CompiledBranch} {parameter : String} {e : Expr}

/-- The only function that `str(parameter)` calls is `str`. -/
private theorem mem_of_calls_str (h : (Expr.call "str" false [.positional (.name parameter)]).Calls
    function arguments) : function ∈ messageFunctions := by
  rcases calls_call_iff.1 h with ⟨rfl, -⟩ | ⟨keyword, value, hmem, h⟩
  · decide
  · obtain ⟨-, rfl⟩ : keyword = none ∧ value = .name parameter := by
      simpa [Argument.positional] using hmem
    exact absurd h (not_calls_name _)

/-- A reference calls `str` at most. -/
private theorem mem_of_calls_referenceExpr {name : String} (he : referenceExpr? scope name = some e)
    (h : e.Calls function arguments) : function ∈ messageFunctions := by
  rw [referenceExpr?] at he
  obtain ⟨p, -, hmore⟩ := Option.bind_eq_some_iff.1 he
  obtain ⟨parameter, -, rfl⟩ := Option.map_eq_some_iff.1 hmore
  -- formatted: a local; a text: the parameter itself; else `str` of the parameter
  split at h
  · exact absurd h (not_calls_name _)
  · split at h
    · exact absurd h (not_calls_name _)
    · exact mem_of_calls_str h

/-- A date or time calls its formatter, or `str` where nothing is formatted. -/
private theorem mem_of_calls_argumentExpr {name : String} {kind : ArgumentKind}
    {skeleton : Option String}
    (he : argumentExpr? scope name kind skeleton = some e) (h : e.Calls function arguments) :
    function ∈ messageFunctions := by
  unfold argumentExpr? at he
  obtain ⟨parameter, -, rfl⟩ := Option.map_eq_some_iff.1 he
  split at h
  · rcases calls_call_iff.1 h with ⟨rfl, -⟩ | ⟨keyword, value, hmem, h⟩
    · decide
    · -- every argument is a name or a literal
      grind [Argument.positional, Argument.named, not_calls_name, not_calls_literal,
        not_calls_localeName]
  · exact mem_of_calls_str h

/-- The arguments for words (`wordArguments`) call what branches call. -/
private theorem exists_of_calls_wordArguments {names : List String} {keyword : Option String}
    (hmem : .mk keyword e ∈ wordArguments cs names) (h : e.Calls function arguments) :
    ∃ c ∈ cs, c.value.Calls function arguments := by
  obtain ⟨w, -, hvalue, -⟩ := mem_wordArguments.1 hmem
  obtain ⟨c, hc, -, rfl⟩ := exists_of_wordValue? hvalue
  exact ⟨c, hc, h⟩

/-- A plural calls (`Calls`) its own function and what its branches call. -/
private theorem mem_of_calls_pluralExpr (he : pluralExpr? parameter cs = some e)
    (hcs : ∀ c ∈ cs, c.value.Calls function arguments → function ∈ messageFunctions)
    (h : e.Calls function arguments) : function ∈ messageFunctions := by
  rw [pluralExpr?_eq he] at h
  rcases calls_call_iff.1 h with ⟨rfl, -⟩ | ⟨keyword, value, hmem, h⟩
  · decide
  -- the call is the function itself, or stands in the count, the dictionary of exact branches or a
  -- word
  rw [List.mem_append, List.mem_append] at hmem
  rcases hmem with hfirst | hexact | hword
  · -- the count and the locale are names
    grind [Argument.positional, not_calls_name, not_calls_localeName]
  · unfold exactArguments at hexact
    split at hexact
    · cases hexact
    · obtain ⟨-, rfl⟩ : keyword = some "exact" ∧ value = .dict (exactPairs cs) := by
        simpa [Argument.named] using hexact
      obtain ⟨key, entry, hpair, hcalls⟩ := calls_dict_iff.1 h
      obtain ⟨c, hc, hnumber⟩ := List.mem_filterMap.1 hpair
      obtain ⟨n, -, heq⟩ := Option.map_eq_some_iff.1 hnumber
      cases heq
      exact hcs c hc (hcalls.resolve_left (not_calls_number n))
  · obtain ⟨c, hc, hcalls⟩ := exists_of_calls_wordArguments hword h
    exact hcs c hc hcalls

/-- A selection calls (`Calls`) its own function and what its branches call. -/
private theorem mem_of_calls_selectExpr (he : selectExpr? parameter cs = some e)
    (hcs : ∀ c ∈ cs, c.value.Calls function arguments → function ∈ messageFunctions)
    (h : e.Calls function arguments) : function ∈ messageFunctions := by
  rw [selectExpr?_eq he] at h
  rcases calls_call_iff.1 h with ⟨rfl, -⟩ | ⟨keyword, value, hmem, h⟩
  · decide
  -- or it stands in the value, the cases or `other`
  rcases List.mem_append.1 hmem with hfirst | hword
  · obtain ⟨-, rfl⟩ | ⟨-, rfl⟩ : (keyword = none ∧ value = .name parameter) ∨
        (keyword = none ∧ value = .dict (casePairs cs)) := by
      simpa [Argument.positional] using hfirst
    · exact absurd h (not_calls_name _)
    · obtain ⟨key, entry, hpair, hcalls⟩ := calls_dict_iff.1 h
      obtain ⟨c, hc, hcase⟩ := List.mem_filterMap.1 hpair
      split at hcase
      · cases hcase
      · cases hcase
        exact hcs c hc (hcalls.resolve_left (not_calls_literal _))
  · obtain ⟨c, hc, hcalls⟩ := exists_of_calls_wordArguments hword h
    exact hcs c hc hcalls

mutual

/-- The expression of a node (`nodeExpr?`) calls functions of messages only. -/
theorem mem_of_calls_nodeExpr : ∀ (n : Node) (e : Expr), nodeExpr? scope n = some e →
    e.Calls function arguments → function ∈ messageFunctions
  | .text value span, e, he, h => by
    rw [nodeExpr?] at he
    cases he
    exact absurd h (not_calls_literal value)
  | .reference name span, e, he, h => by
    rw [nodeExpr?] at he
    exact mem_of_calls_referenceExpr he h
  | .argument name kind skeleton span, e, he, h => by
    rw [nodeExpr?] at he
    exact mem_of_calls_argumentExpr he h
  | .choice kind name branches span, e, he, h => by
    rw [nodeExpr?] at he
    obtain ⟨parameter, -, hmore⟩ := Option.bind_eq_some_iff.1 he
    obtain ⟨cs, hcs, hchoice⟩ := Option.bind_eq_some_iff.1 hmore
    have hbranches := mem_of_calls_branchExprs branches cs hcs
    -- a choice calls its own function, or a call is in one of its branches
    cases kind with
    | plural => exact mem_of_calls_pluralExpr hchoice hbranches h
    | select => exact mem_of_calls_selectExpr hchoice hbranches h

/-- So do the values of the compiled branches of a choice. -/
theorem mem_of_calls_branchExprs : ∀ (branches : List Branch) (cs : List CompiledBranch),
    branchExprs? scope branches = some cs →
    ∀ c ∈ cs, c.value.Calls function arguments → function ∈ messageFunctions
  | [], cs, hcs, c, hc, _ => by
    rw [branchExprs?] at hcs
    cases hcs
    cases hc
  | .mk key message span :: rest, cs, hcs, c, hc, h => by
    rw [branchExprs?] at hcs
    obtain ⟨es, hes, hmore⟩ := Option.bind_eq_some_iff.1 hcs
    obtain ⟨cs', hcs', rfl⟩ := Option.map_eq_some_iff.1 hmore
    -- the value of a branch is a sum, and each call in it is in a summand
    rcases List.mem_cons.1 hc with rfl | hc
    · obtain ⟨e, he, hcalls⟩ := calls_joinAll_iff.1 h
      exact mem_of_calls_nodeExprs message es hes e he hcalls
    · exact mem_of_calls_branchExprs rest cs' hcs' c hc h

/-- So do the expressions of all nodes of a message. -/
theorem mem_of_calls_nodeExprs : ∀ (nodes : List Node) (es : List Expr),
    nodeExprs? scope nodes = some es →
    ∀ e ∈ es, e.Calls function arguments → function ∈ messageFunctions
  | [], es, hes, e, he, _ => by
    rw [nodeExprs?] at hes
    cases hes
    cases he
  | n :: rest, es, hes, e, he, h => by
    rw [nodeExprs?] at hes
    obtain ⟨first, hfirst, hmore⟩ := Option.bind_eq_some_iff.1 hes
    obtain ⟨es', hes', rfl⟩ := Option.map_eq_some_iff.1 hmore
    rcases List.mem_cons.1 he with rfl | he
    · exact mem_of_calls_nodeExpr n e hfirst h
    · exact mem_of_calls_nodeExprs rest es' hes' e he h

end

/-- The expression of a message (`messageExpr?`) calls only the functions of messages. -/
theorem function_of_calls_messageExpr {m : Message} (he : messageExpr? scope m = some e)
    (h : e.Calls function arguments) : function ∈ messageFunctions := by
  rw [messageExpr?] at he
  obtain ⟨es, hes, rfl⟩ := Option.map_eq_some_iff.1 he
  obtain ⟨first, hfirst, hcalls⟩ := calls_joinAll_iff.1 h
  exact mem_of_calls_nodeExprs m es hes first hfirst hcalls

end

/-! ## Bodies -/

/-- The value of an option calls (`Calls`) nothing. -/
private theorem not_calls_optionExpr {function : String} {arguments : List Argument} (v : Value) :
    ¬ (optionExpr v).Calls function arguments := by
  cases v with
  | text s => exact not_calls_literal s
  | _ => exact not_calls_data _

/-- What formats a placeholder calls (`formatCall`) nothing inside. If it is a call for numbers, it
passes on the parameters of the format by keyword, behind the value, the format and the locale. -/
private theorem eq_of_calls_formatCall {p : Resolved} {parameter : String}
    {arguments : List Argument}
    (h : (formatCall p parameter).Calls "runtime.format_number" arguments) :
    formatCall p parameter = .call "runtime.format_number" false arguments ∧
      arguments = [.positional (.name parameter), .positional (.literal (p.format.getD "")),
          .positional localeName] ++
        (passedOptions p).map fun o => .named o.1 (optionExpr o.2) := by
  unfold formatCall at h ⊢
  cases hdate : p.requiresDateFormatting with
  | true =>
    -- a date is formatted by another function, of names and literals
    rw [if_pos hdate] at h
    have hsingle : ∀ s, ¬ (Expr.tuple [.literal s]).Calls "runtime.format_number" arguments :=
      fun s => not_calls_literals [s]
    split at h
    · rcases calls_call_iff.1 h with ⟨hfunction, -⟩ | ⟨keyword, value, hmem, h⟩
      · exact absurd hfunction (by decide)
      · grind [Argument.positional, Argument.named, not_calls_name, not_calls_localeName]
    · rcases calls_call_iff.1 h with ⟨hfunction, -⟩ | ⟨keyword, value, hmem, h⟩
      · exact absurd hfunction (by decide)
      · grind [Argument.positional, not_calls_name, not_calls_literals, not_calls_localeName]
  | false =>
    rw [if_neg (by simp [hdate]), formatOptions_eq_map hdate] at h ⊢
    rcases calls_call_iff.1 h with ⟨-, rfl⟩ | ⟨keyword, value, hmem, h⟩
    · exact ⟨rfl, rfl⟩
    · rcases List.mem_append.1 hmem with hfirst | hoption
      · grind [Argument.positional, not_calls_name, not_calls_literal, not_calls_localeName]
      · obtain ⟨o, -, heq⟩ := List.mem_map.1 hoption
        cases heq
        exact absurd h (not_calls_optionExpr o.2)

/-- Wherever a body formats a number, the call (`Calls`) is all that is assigned to a local, for a
placeholder of the scope, and the parameters of its format are passed on. -/
theorem exists_of_calls_formatNumber {scope : Scope} {m : Message} {statements : List Statement}
    (hbody : bodyOf scope m = .ok statements) {s : Statement} (hs : s ∈ statements)
    {arguments : List Argument} (h : s.Calls "runtime.format_number" arguments) :
    ∃ p ∈ scope.placeholders, (∃ name, s = .assign name (.call "runtime.format_number" false
        arguments)) ∧ arguments =
      [.positional (.name (scope.parameterOf p.name)), .positional (.literal (p.format.getD "")),
        .positional localeName] ++
      (passedOptions p).map fun o => .named o.1 (optionExpr o.2) := by
  obtain ⟨-, ps, value, hps, hvalue, rfl⟩ := eq_of_bodyOf hbody
  -- a body assigns locals first and gives back an expression last
  rcases List.mem_append.1 hs with hassign | hlast
  · obtain ⟨p, hp, rfl⟩ := List.mem_map.1 hassign
    obtain ⟨u, -, -, hfind, -⟩ := (mem_formattedPlaceholders_iff hps).1 hp
    obtain ⟨hcall, harguments⟩ := eq_of_calls_formatCall h
    exact ⟨p, List.mem_of_find?_eq_some hfind, ⟨_, congrArg _ hcall⟩, harguments⟩
  · -- what the body gives back formats no numbers
    obtain rfl := List.mem_singleton.1 hlast
    exact absurd (function_of_calls_messageExpr hvalue h) (by decide)

end Parlance.Code
