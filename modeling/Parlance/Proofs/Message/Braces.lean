import Parlance.Proofs.Message.Printing

/-!
# Braces

The scanner counts the braces that are open, and the reader knows what stands open around it. The
two never disagree: a token moves the reader as it moves the count (`level_step`).

So a text that the reader accepts shows what each of its braces is: one that opens an expression has
a name after it, and one that closes has one to close. Without quoting the scanner goes by just
that. A text that no mark stands in, and that is a message with quoting, is therefore cut into the
same tokens without it (`scan_unquoted`), and is the same message
(`parse_unquoted_of_parse_quoted`).
-/

namespace Parlance.Grammar

open Parlance.Message Parlance.Text Parlance.Token

/-! ## The braces that are open -/

/-- The braces that are open where the reader is: two for every branch around it, and one more in an
expression. -/
def level (s : State) : Nat :=
  match s.stage with
  | .nodes => 2 * s.outer.length
  | _ => 2 * s.outer.length + 1

/-- The braces that are open after a token. -/
def levelAfter (depth : Nat) : TokenKind → Nat
  | .openBrace => depth + 1
  | .closeBrace => depth - 1
  | _ => depth

variable {known : Option (List String)} {source : List Char} {s s' : State} {t : Token}

/-- A token that the reader takes opens and closes what its kind says (`levelAfter`). -/
theorem level_step (h : Step known source s t s') : level s' = levelAfter (level s) t.kind := by
  cases h with
  | name ht => simp [level, levelAfter, ht.1]
  | choiceType kind ht => simp [level, levelAfter, ht.1]
  | argumentType kind ht => simp [level, levelAfter, ht.1]
  | wordKey ht hword hfresh => rcases ht with ht | ht <;> simp [level, levelAfter, ht]
  -- the two braces of a branch are the one case in which the branches around change
  | endBranch ht | openBranch ht => simp only [level, levelAfter, ht, List.length_cons]; omega
  | _ ht => simp [level, levelAfter, ht]

/-- A brace that the reader takes as closing has one to close (`State.level`). -/
private theorem level_pos_of_closeBrace (h : Step known source s t s') (ht : t.kind = .closeBrace) :
    0 < level s := by
  cases h with
  | endBranch ht => simp [level]
  | text hk | brace hk => cases hk.symm.trans ht
  | _ => simp [level]

/-- Between the parts of a message the number of open braces (`State.level`) is even, and only
there. -/
theorem stage_eq_nodes_iff : s.stage = .nodes ↔ level s % 2 = 0 := by
  obtain ⟨nodes, stage, outer⟩ := s
  cases stage <;> simp [level]

/-- A brace between the parts of a message opens an expression (`Stage.opened`). -/
private theorem eq_opened_of_step (h : Step known source s t s') (hstage : s.stage = .nodes)
    (ht : t.kind = .openBrace) : s' = ⟨s.nodes, .opened t.start, s.outer⟩ := by
  cases h with
  | brace => rfl
  | text hk | endBranch hk => cases hk.symm.trans ht
  | _ => cases hstage

/-! ## Tokens that are read to the end -/

/-- Whether the reader comes from a state to the end of the text by some tokens. -/
def Ends (options : ReadingOptions) (source : List Char) (s : State) (tokens : List Token) : Prop :=
  ∃ m, ((steps options source s tokens).bind fun s' => finish options s' source.length) = .ok m

variable {options : ReadingOptions} {tokens : List Token}

/-- If the reader comes to the end (`Ends`) by some tokens, it takes the first of them and comes to
the end by the rest. -/
private theorem Ends.exists_step (h : Ends options source s (t :: tokens)) :
    ∃ s', Step options.known source s t s' ∧ Ends options source s' tokens := by
  obtain ⟨m, hm⟩ := h
  obtain ⟨last, hsteps, hfinish⟩ := bind_eq_ok_iff.1 hm
  obtain ⟨s', hstep, hrest⟩ := exists_of_steps_cons hsteps
  exact ⟨s', (step_of_eq_ok hstep).2, m, bind_eq_ok_iff.2 ⟨last, hrest, hfinish⟩⟩

/-- The reader stays where the braces of the tokens lead it (`levelAfter`). -/
theorem Ends.exists_level (h : Ends options source s (t :: tokens)) :
    ∃ s', level s' = levelAfter (level s) t.kind ∧ Ends options source s' tokens := by
  obtain ⟨s', hstep, hrest⟩ := h.exists_step
  exact ⟨s', level_step hstep, hrest⟩

/-- At the end the reader is between the parts of a message (`Stage.nodes`). -/
private theorem Ends.stage_eq_nodes (h : Ends options source s []) : s.stage = .nodes := by
  obtain ⟨m, hm⟩ := h
  exact (finish_eq_ok hm).1

/-- The first token after an opening brace is a name (`isName`). -/
theorem Ends.isName {nodes : List Node} {start : Nat} {outer : List OpenBranch}
    (h : Ends options source ⟨nodes, .opened start, outer⟩ (t :: tokens)) : IsName t := by
  obtain ⟨s', hstep, -⟩ := h.exists_step
  cases hstep
  assumption

/-! ## Texts without a mark -/

section

variable {q off : Quoting} {depth pos : Nat} (hon : q.enabled = true) (hoff : off.enabled = false)

include hoff in
/-- Without quoting, no character is an escape (`escape?`). -/
theorem escape?_of_off : off.escape? = none := by simp [Quoting.escape?, hoff]

include hon in
/-- With quoting, text ends (`endsText`) before every brace. -/
private theorem endsText_of_on {c : Char} (hc : q.escape? ≠ some c) (rest : List Char) :
    endsText q depth (c :: rest) = (c == '\x7b' || c == '\x7d') := by
  simp [endsText, opensExpression, hon, bne, hc]

include hoff in
/-- Without quoting, text ends (`endsText`) before a brace that a name follows, and before one that
has another to close. -/
private theorem endsText_of_off (c : Char) (rest : List Char) :
    endsText off depth (c :: rest) =
      ((c == '\x7b' && opensExpression off rest) || (c == '\x7d' && decide (0 < depth))) := by
  simp [endsText, escape?_of_off hoff, hoff]

include hon hoff in
/-- Where text does not end (`endsText`) with quoting, it does not end without, for only braces end
it. -/
theorem endsText_off_of_not {text : List Char} (hmark : ∀ c ∈ text, q.escape? ≠ some c)
    (htext : endsText q depth text = false) : endsText off depth text = false := by
  cases text with
  | nil => rfl
  | cons c rest =>
    rw [endsText_of_on hon (hmark c List.mem_cons_self), Bool.or_eq_false_iff] at htext
    rw [endsText_of_off hoff, htext.1, htext.2]
    rfl

/-- A run (`textRun`) of text that holds no mark is what it was written as, and ends where text
ends. -/
theorem textRun_of_unmarked {text : List Char} (hmark : ∀ c ∈ text, q.escape? ≠ some c) :
    (textRun q depth false text).1 ++ (textRun q depth false text).2 = text ∧
      ((textRun q depth false text).2 = [] ∨
        endsText q depth (textRun q depth false text).2 = true) := by
  induction text with
  | nil => exact ⟨rfl, .inl rfl⟩
  | cons c rest ih =>
    obtain ⟨hc, hrest⟩ := List.forall_mem_cons.1 hmark
    -- the run ends before `c`, or takes it as it is
    cases hends : endsText q depth (c :: rest) with
    | true =>
      rw [textRun_of_ends hc hends]
      exact ⟨rfl, .inr hends⟩
    | false =>
      obtain ⟨hvalue, hafter⟩ := ih hrest
      rw [textRun_of_plain hc hends]
      exact ⟨congrArg (c :: ·) hvalue, hafter⟩

include hon hoff in
/-- A run (`textRun`) of text is the same without quoting if its end is one without quoting, too. -/
private theorem textRun_of_off {text : List Char} (hmark : ∀ c ∈ text, q.escape? ≠ some c)
    (hend : (textRun q depth false text).2 = [] ∨
      endsText off depth (textRun q depth false text).2 = true) :
    textRun off depth false text = textRun q depth false text := by
  induction text with
  | nil => rfl
  | cons c rest ih =>
    obtain ⟨hc, hrest⟩ := List.forall_mem_cons.1 hmark
    have hnone : off.escape? ≠ some c := by simp [escape?_of_off hoff]
    -- Only where text ends with quoting can it end without.
    cases hends : endsText q depth (c :: rest) with
    | true =>
      rw [textRun_of_ends hc hends] at hend ⊢
      exact textRun_of_ends hnone (hend.resolve_left (List.cons_ne_nil c rest))
    | false =>
      rw [textRun_of_plain hc hends] at hend ⊢
      rw [textRun_of_plain hnone (endsText_off_of_not hon hoff hmark hends), ih hrest hend]

/-- In an expression, where no white space stands (`isBlank`), a token begins with the next
character, or nothing can. Quoting plays no part in it. -/
theorem scan_expression {c : Char} (hodd : depth % 2 = 1) (hc : isBlank c = false) (pos : Nat)
    (rest : List Char) :
    (∃ t skip, t.value.toList.head? = some c ∧
      (t.kind = .identifier → isAsciiWordChar c = true) ∧
      ∀ q, scan q 0 depth pos (c :: rest) =
        (scan q skip (levelAfter depth t.kind) (pos + 1) rest).map (t :: ·)) ∨
      ∃ e, ∀ q, scan q 0 depth pos (c :: rest) = .error e := by
  -- One case for each character with which a token begins in an expression; none of them looks at
  -- `q`.
  by_cases hopen : c = '\x7b'
  · subst hopen
    exact .inl ⟨⟨.openBrace, "\x7b", pos, pos + 1⟩, 0, by simp, nofun,
      fun q => scan_openBrace hodd⟩
  by_cases hclose : c = '\x7d'
  · subst hclose
    exact .inl ⟨⟨.closeBrace, "\x7d", pos, pos + 1⟩, 0, by simp, nofun,
      fun q => scan_closeBrace hodd⟩
  by_cases hcomma : c = ','
  · subst hcomma
    exact .inl ⟨⟨.comma, ",", pos, pos + 1⟩, 0, by simp, nofun,
      fun q => scan_comma hodd⟩
  by_cases hequals : c = '='
  · subst hequals
    exact .inl ⟨⟨.equals, "=", pos, pos + 1⟩, 0, by simp, nofun,
      fun q => scan_equals hodd⟩
  by_cases hword : isAsciiWordChar c = true
  · have hlevel : levelAfter depth (wordKind (word (c :: rest))) = depth := by
      unfold wordKind
      split <;> rfl
    refine .inl ⟨⟨wordKind (word (c :: rest)), String.ofList (word (c :: rest)), pos,
      pos + (word (c :: rest)).length⟩, (word (c :: rest)).length - 1, by simp [word, hword],
      fun _ => hword, fun q => ?_⟩
    simp [scan, hodd, hc, hopen, hclose, hcomma, hequals, hword, hlevel]
  · refine .inr ⟨⟨.unexpected inExpression (String.singleton c), pos, pos⟩, fun q => ?_⟩
    simp [scan, hodd, hc, hopen, hclose, hcomma, hequals, hword]

include hoff in
/-- The name that the reader takes after an opening brace (`opensExpression`) stands behind that
brace, after white space at most. -/
private theorem opensExpression_of_ends {nodes : List Node} {start : Nat} {outer : List OpenBranch}
    {rest : List Char} (hodd : depth % 2 = 1) (hscan : scan q 0 depth pos rest = .ok tokens)
    (hends : Ends options source ⟨nodes, .opened start, outer⟩ tokens) :
    opensExpression off rest = true := by
  induction rest generalizing pos with
  | nil =>
    cases hscan
    cases hends.stage_eq_nodes
  | cons c rest ih =>
    cases hblank : isBlank c with
    | true =>
      rw [scan_blank hodd hblank] at hscan
      simpa [opensExpression, hoff, hblank] using ih hscan
    | false =>
      obtain ⟨t, skip, hfirst, hword, heq⟩ | ⟨e, he⟩ := scan_expression hodd hblank pos rest
      case inr => cases (he q).symm.trans hscan
      obtain ⟨ts, -, rfl⟩ := map_eq_ok_iff.1 ((heq q).symm.trans hscan)
      -- The reader takes no number for a name, so the word starts with a letter.
      have hdigit : c.isDigit = false := hends.isName.2 c hfirst
      have hletter : c.isAlpha = true ∨ c = '_' := by
        simpa [isAsciiWordChar, Char.isAlphanum, hdigit] using hword hends.isName.1
      simpa [opensExpression, hoff, hblank] using hletter

include hon hoff in
/-- A brace that ends (`endsText`) text does so without quoting, too, if the reader comes to the end
of the text by the tokens from there on. -/
theorem endsText_off_of_ends {text : List Char} (hmark : ∀ c ∈ text, q.escape? ≠ some c)
    (hlevel : level s = depth) (heven : depth % 2 = 0)
    (hscan : scan q 0 depth pos text = .ok tokens) (hends : Ends options source s tokens)
    (htext : endsText q depth text = true) : endsText off depth text = true := by
  cases text with
  | nil => cases htext
  | cons c rest =>
    have hbrace : c = '\x7b' ∨ c = '\x7d' := by
      simpa [endsText_of_on hon (hmark c List.mem_cons_self)] using htext
    have hstage : s.stage = .nodes := stage_eq_nodes_iff.2 (hlevel ▸ heven)
    rw [endsText_of_off hoff]
    -- An opening brace is one that a name follows, and a closing one has another to close; both
    -- because the reader accepts what follows.
    rcases hbrace with rfl | rfl
    · rw [scan_openText heven htext] at hscan
      obtain ⟨ts, hts, rfl⟩ := map_eq_ok_iff.1 hscan
      obtain ⟨s', hstep, hrest⟩ := hends.exists_step
      rw [eq_opened_of_step hstep hstage rfl] at hrest
      simp [opensExpression_of_ends hoff (by omega) hts hrest]
    · rw [scan_closeText heven htext] at hscan
      obtain ⟨ts, hts, rfl⟩ := map_eq_ok_iff.1 hscan
      obtain ⟨s', hstep, -⟩ := hends.exists_step
      have hpos : 0 < depth := hlevel ▸ level_pos_of_closeBrace hstep rfl
      simp [hpos]

include hon hoff in
/-- A run (`textRun`) of text is the same without quoting, if the reader comes to the end of the
text by the tokens from there on. -/
theorem textRun_off_of_ends {text : List Char} (hmark : ∀ c ∈ text, q.escape? ≠ some c)
    (hlevel : level s = depth) (heven : depth % 2 = 0)
    (hscan : scan q 0 depth pos text = .ok tokens) (hends : Ends options source s tokens)
    (htext : endsText q depth text = false) :
    textRun off depth false text = textRun q depth false text := by
  obtain ⟨hwritten, hend⟩ :
      (textRun q depth false text).1 ++ (textRun q depth false text).2 = text ∧ _ :=
    textRun_of_unmarked hmark
  refine textRun_of_off hon hoff hmark (hend.imp_right fun hafter => ?_)
  generalize hrun : textRun q depth false text = run at hwritten hafter ⊢
  obtain ⟨value, after⟩ := run
  subst hwritten
  -- the run is not empty, and the reader goes on with what stands behind it
  have hvalue : value ≠ [] := by
    rintro rfl
    exact Bool.false_ne_true (htext.symm.trans hafter)
  rw [scan_text heven hvalue htext hrun] at hscan
  obtain ⟨ts, hts, rfl⟩ := map_eq_ok_iff.1 hscan
  obtain ⟨s', hlevel', hrest⟩ := hends.exists_level
  exact endsText_off_of_ends hon hoff (fun d hd => hmark d (List.mem_append_right _ hd))
    (hlevel'.trans hlevel) heven hts hrest hafter

/-- A token may stand before others (`Ends`) that are the same with and without quoting. -/
theorem map_cons_of_ends {x y : Except MessageFault (List Token)}
    (hx : x.map (t :: ·) = .ok tokens) (hends : Ends options source s tokens)
    (hrest : ∀ s' ts, level s' = levelAfter (level s) t.kind → x = .ok ts →
      Ends options source s' ts → y = .ok ts) : y.map (t :: ·) = .ok tokens := by
  obtain ⟨ts, hts, rfl⟩ := map_eq_ok_iff.1 hx
  obtain ⟨s', hlevel, hends'⟩ := hends.exists_level
  rw [hrest s' ts hlevel hts hends']
  rfl

include hon hoff in
/-- A text without a mark is cut into the same tokens (`scan`) with and without quoting, if the
reader comes to its end by those with quoting. -/
theorem scan_unquoted {skip : Nat} {text : List Char} (hmark : ∀ c ∈ text, q.escape? ≠ some c)
    (hlevel : level s = depth) (hscan : scan q skip depth pos text = .ok tokens)
    (hends : Ends options source s tokens) : scan off skip depth pos text = .ok tokens := by
  induction text generalizing skip depth pos s tokens with
  | nil =>
    cases hscan
    rfl
  | cons c rest ih =>
    have hrest : ∀ d ∈ rest, q.escape? ≠ some d := fun d hd => hmark d (List.mem_cons_of_mem _ hd)
    cases skip with
    | succ skip => exact ih hrest hlevel hscan hends
    | zero =>
      -- Text is read at even depths, expressions at odd ones.
      rcases Nat.mod_two_eq_zero_or_one depth with heven | hodd
      · cases htext : endsText q depth (c :: rest) with
        | true =>
          have hoffText := endsText_off_of_ends hon hoff hmark hlevel heven hscan hends htext
          by_cases hc : c = '\x7b'
          · subst hc
            rw [scan_openText heven htext] at hscan
            rw [scan_openText heven hoffText]
            exact map_cons_of_ends hscan hends fun s' ts hlevel' hts =>
              ih hrest (hlevel ▸ hlevel') hts
          · obtain rfl : c = '\x7d' := by
              simpa [endsText_of_on hon (hmark c List.mem_cons_self), hc] using htext
            rw [scan_closeText heven htext] at hscan
            rw [scan_closeText heven hoffText]
            exact map_cons_of_ends hscan hends fun s' ts hlevel' hts =>
              ih hrest (hlevel ▸ hlevel') hts
        | false =>
          -- A run of text: its end is the same in both modes, as the reader accepts what stands
          -- there.
          have hrun := textRun_off_of_ends hon hoff hmark hlevel heven hscan hends htext
          have hoffText : endsText off depth (c :: rest) = false :=
            endsText_off_of_not hon hoff hmark htext
          simp only [scan, heven, htext, if_true, Bool.false_eq_true, if_false] at hscan
          simp only [scan, heven, hoffText, hrun, if_true, Bool.false_eq_true, if_false]
          exact map_cons_of_ends hscan hends fun s' ts hlevel' hts =>
            ih hrest (hlevel'.trans hlevel) hts
      · cases hblank : isBlank c with
        | true =>
          rw [scan_blank hodd hblank] at hscan ⊢
          exact ih hrest hlevel hscan hends
        | false =>
          obtain ⟨t, skip, -, -, heq⟩ | ⟨e, he⟩ := scan_expression hodd hblank pos rest
          · rw [heq] at hscan ⊢
            exact map_cons_of_ends hscan hends fun s' ts hlevel' hts =>
              ih hrest (hlevel ▸ hlevel') hts
          · cases (he q).symm.trans hscan

end

/-! ## Whole texts -/

/-- The reader (`steps`) has nothing to do with quoting. -/
theorem steps_quoting (q off : Quoting) (known : Option (List String)) (limit : Int)
    (source : List Char) (s : State) (tokens : List Token) :
    steps ⟨q, known, limit⟩ source s tokens = steps ⟨off, known, limit⟩ source s tokens := by
  induction tokens generalizing s with
  | nil => rfl
  | cons t rest ih =>
    have hstep : step ⟨q, known, limit⟩ source s t = step ⟨off, known, limit⟩ source s t := rfl
    rw [steps, steps, hstep]
    split
    · rfl
    · exact ih _

/-- A text that no mark stands in (`Quoting.escape?`), and that is a message with quoting, is the
same message without quoting, spans included. -/
theorem parse_unquoted_of_parse_quoted {mark text : String}
    (hmark : ∀ c ∈ text.toList, String.singleton c ≠ mark) {known : Option (List String)}
    {limit : Int} {m : Message} (h : parse ⟨⟨true, mark⟩, known, limit⟩ text = .ok m)
    (unused : String) : parse ⟨⟨false, unused⟩, known, limit⟩ text = .ok m := by
  -- The escape is the only character of the mark, and so not in the text.
  have hescape : ∀ c ∈ text.toList, (Quoting.mk true mark).escape? ≠ some c := by
    intro c hc hcontra
    refine hmark c hc ?_
    simp only [Quoting.escape?, if_true] at hcontra
    split at hcontra
    · next d hchars =>
      cases hcontra
      exact String.toList_inj.1 (by rw [hchars]; simp)
    · cases hcontra
  unfold parse at h ⊢
  cases htokens : Token.ofText ⟨true, mark⟩ text with
  | error f => simp [htokens] at h
  | ok tokens =>
    simp only [htokens] at h
    have hoff : Token.ofText ⟨false, unused⟩ text = .ok tokens :=
      scan_unquoted rfl rfl hescape rfl htokens ⟨m, h⟩
    simp only [hoff]
    rwa [ofTokens, steps_quoting ⟨true, mark⟩ ⟨false, unused⟩] at h

/-- The other way round it need not be: a lone brace is a message only without quoting. -/
example : parse ⟨⟨false, "'"⟩, none, 32⟩ "\x7d" = .ok [.text "\x7d" ⟨0, 1⟩] ∧
    parse ⟨⟨true, "'"⟩, none, 32⟩ "\x7d" =
      .error (.fault ⟨.unexpected [.text, .openBrace] "\x7d", 0, 0⟩) := by decide +kernel

/-- A plural with white space after its brace, and a name in a branch that is no placeholder. -/
def crowdText : String := "{ n ,plural, =0{none at {host}} other{{n}} }!"

/-- The message of the text. -/
def crowd : Message :=
  [.choice .plural "n"
    [.mk (.exact 0) [.text "none at {host}" ⟨16, 30⟩] ⟨13, 31⟩,
     .mk .other [.reference "n" ⟨38, 41⟩] ⟨32, 42⟩] ⟨0, 44⟩,
   .text "!" ⟨44, 45⟩]

/-- A plural without apostrophes (`crowd`), with and without quoting. -/
theorem parse_unquoted_of_parse_quoted_crowd :
    (∀ c ∈ crowdText.toList, String.singleton c ≠ "'") ∧
    parse ⟨⟨true, "'"⟩, some ["n"], 32⟩ crowdText = .ok crowd ∧
    parse ⟨⟨false, "'"⟩, some ["n"], 32⟩ crowdText = .ok crowd := by
  have hmark : ∀ c ∈ crowdText.toList, String.singleton c ≠ "'" := by
    intro c hc heq
    obtain rfl : c = '\'' := by simpa using congrArg String.toList heq
    simp [crowdText] at hc
  have hparse : parse ⟨⟨true, "'"⟩, some ["n"], 32⟩ crowdText = .ok crowd := by decide +kernel
  exact ⟨hmark, hparse, parse_unquoted_of_parse_quoted hmark hparse "'"⟩

end Parlance.Grammar
