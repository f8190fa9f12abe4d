import Parlance.Proofs.Message.Covering

/-!
# Spans tile the text

The nodes of a message cover the text they were read from one after the other, and the nodes of each
branch what is between its braces (`Tiled`). The tokens of a derivation are what the text is cut
into (`CutUp`), so what a part of a derivation covers is read off its tokens (`exists_tiled`,
`exists_tiledNode`, `exists_tiledBranches`), and texts that are joined cover what they covered
before (`tiled_joinTexts`).
-/

namespace Parlance.Grammar

open Parlance.Message Parlance.Number Parlance.Text Parlance.Token

/-! ## Places of nodes -/

/-- Whether a span begins with an opening brace and ends with a closing one. -/
def InBraces (source : List Char) (span : Span) : Prop :=
  ∃ inner, slice source span = "\x7b" ++ inner ++ "\x7d"

/-- Whether a key is written as some characters: a word as it is, an exact number as an equals sign
and digits, which may begin with zeros and have white space before them. -/
def Spells : Key → List Char → Prop
  | .word label, written => written = label.toList ∧ IsWordText label
  | .exact value, written => ∃ gap digits, written = '=' :: (gap ++ digits) ∧
      (∀ c ∈ gap, isBlank c = true) ∧ ofDigits? digits = some value

/-- Whether the message of a branch that starts at an offset is opened by the brace at another:
there stand its key, white space at most, and the brace. -/
def Opens (source : List Char) (key : Key) (start brace : Nat) : Prop :=
  source[brace]? = some '\x7b' ∧ ∃ written gap, stretch source start brace = written ++ gap ∧
    Spells key written ∧ ∀ c ∈ gap, isBlank c = true

section

variable (q : Quoting) (source : List Char)

mutual

/-- Whether a node is what stands at its span: text is what is written there unless it is quoted,
and any other node is in braces, with its branches strictly between them. -/
def TiledNode : Node → Prop
  | .text value span => q.enabled = false → value = slice source span
  | .reference _ span => InBraces source span
  | .choice _ _ branches span =>
    InBraces source span ∧ TiledBranches (span.start + 1) branches (span.stop - 1)
  | .argument _ _ _ span => InBraces source span

/-- Whether branches stand one behind the other between two offsets. Each begins with its key, ends
with a closing brace, and has a message whose nodes cover what is between the braces. -/
def TiledBranches : Nat → List Branch → Nat → Prop
  | pos, [], stop => pos ≤ stop
  | pos, .mk key message span :: rest, stop =>
    pos ≤ span.start ∧
      (∃ opening closing, Opens source key span.start opening ∧
        Tiled (opening + 1) message closing ∧ source[closing]? = some '\x7d' ∧
        span.stop = closing + 1) ∧
      TiledBranches span.stop rest stop

/-- Whether nodes cover the text from an offset up to another: each starts where the last one ended
and is not empty, and is what stands there. -/
def Tiled : Nat → List Node → Nat → Prop
  | pos, [], stop => pos = stop
  | pos, n :: rest, stop =>
    n.span.start = pos ∧ pos < n.span.stop ∧ TiledNode n ∧ Tiled n.span.stop rest stop

end

end

section

variable {q : Quoting} {source : List Char} {pos stop : Nat}

/-- No nodes cover nothing. -/
@[simp] private theorem tiled_nil : Tiled q source pos [] stop ↔ pos = stop := by rw [Tiled]

/-- The first node (`TiledNode`) starts where all start, and the rest goes on where it stops. -/
@[simp] private theorem tiled_cons (n : Node) (rest : List Node) :
    Tiled q source pos (n :: rest) stop ↔
      n.span.start = pos ∧ pos < n.span.stop ∧ TiledNode q source n ∧
        Tiled q source n.span.stop rest stop := by
  rw [Tiled]

/-- Between no branches there may be anything. -/
@[simp] private theorem tiledBranches_nil : TiledBranches q source pos [] stop ↔ pos ≤ stop := by
  rw [TiledBranches]

/-- The first branch (`TiledBranches`) starts after the offset, with a key and a message in braces,
and the rest stands behind it. -/
@[simp] private theorem tiledBranches_cons (key : Key) (message : List Node) (span : Span)
    (rest : List Branch) :
    TiledBranches q source pos (.mk key message span :: rest) stop ↔
      pos ≤ span.start ∧
        (∃ opening closing, Opens source key span.start opening ∧
          Tiled q source (opening + 1) message closing ∧ source[closing]? = some '\x7d' ∧
          span.stop = closing + 1) ∧
        TiledBranches q source span.stop rest stop := by
  rw [TiledBranches]

/-- Branches between two offsets (`TiledBranches`) are between any that are further apart. -/
theorem TiledBranches.mono {branches : List Branch} {before after : Nat}
    (h : TiledBranches q source pos branches stop) (hbefore : before ≤ pos)
    (hafter : stop ≤ after) :
    TiledBranches q source before branches after := by
  induction branches generalizing pos before with
  | nil =>
    rw [tiledBranches_nil] at h ⊢
    omega
  | cons b rest ih =>
    cases b with
    | mk key message span =>
      obtain ⟨hpos, hmessage, hrest⟩ := (tiledBranches_cons ..).1 h
      exact (tiledBranches_cons ..).2 ⟨by omega, hmessage, ih hrest (Nat.le_refl _)⟩

/-- No key is empty (`Opens`). -/
theorem Opens.lt {key : Key} {brace : Nat} (h : Opens source key pos brace) : pos < brace := by
  obtain ⟨-, written, gap, hstretch, hspells, -⟩ := h
  -- a key is spelled with one character at least
  have hne : written ≠ [] := by
    cases key with
    | word label =>
      obtain ⟨rfl, hword⟩ := hspells
      exact hword.1
    | exact value =>
      obtain ⟨blanks, digits, rfl, -⟩ := hspells
      exact List.cons_ne_nil _ _
  by_contra hle
  rw [stretch, Nat.sub_eq_zero_of_le (Nat.not_lt.1 hle), List.take_zero] at hstretch
  exact hne (List.append_eq_nil_iff.1 hstretch.symm).1

/-- What is covered (`Tiled`) goes forward. -/
theorem Tiled.le {nodes : List Node} (h : Tiled q source pos nodes stop) : pos ≤ stop := by
  induction nodes generalizing pos with
  | nil => exact (tiled_nil.1 h).le
  | cons n rest ih =>
    obtain ⟨-, hlt, -, hrest⟩ := (tiled_cons n rest).1 h
    exact hlt.le.trans (ih hrest)

/-- Branches stand one behind the other (`TiledBranches`), so they go forward. -/
theorem TiledBranches.le {branches : List Branch} (h : TiledBranches q source pos branches stop) :
    pos ≤ stop := by
  induction branches generalizing pos with
  | nil => exact tiledBranches_nil.1 h
  | cons b rest ih =>
    cases b with
    | mk key message span =>
      obtain ⟨hpos, ⟨opening, closing, hopens, htiled, -, hstop⟩, hrest⟩ :=
        (tiledBranches_cons ..).1 h
      -- key, message and the other branches follow one another
      have hkey := hopens.lt
      have hmessage := htiled.le
      have hlast := ih hrest
      omega

/-! ## Stretches -/

/-- Stretches (`stretch`) that follow one another are one. -/
theorem stretch_append (source : List Char) {start middle stop : Nat} (hstart : start ≤ middle)
    (hstop : middle ≤ stop) :
    stretch source start middle ++ stretch source middle stop = stretch source start stop := by
  have hdrop : source.drop middle = (source.drop start).drop (middle - start) := by
    rw [List.drop_drop, Nat.add_sub_cancel' hstart]
  have hlength : stop - start = middle - start + (stop - middle) := by omega
  rw [stretch, stretch, stretch, hdrop, hlength, List.take_add]

/-- The slices (`slice`) of adjacent spans make the slice of both. -/
private theorem slice_append (source : List Char) {first second : Span}
    (hfirst : first.start ≤ first.stop) (hadjacent : second.start = first.stop)
    (hsecond : second.start ≤ second.stop) :
    slice source first ++ slice source second = slice source ⟨first.start, second.stop⟩ := by
  have happend := stretch_append source hfirst (hadjacent ▸ hsecond)
  rw [slice, slice, ← String.ofList_append, hadjacent]
  exact congrArg String.ofList happend

/-! ## Texts that are joined -/

/-- A node that is joined (`joinText`) to the text behind it covers what both covered. -/
private theorem tiled_joinText {n : Node} {rest : List Node}
    (h : Tiled q source pos (n :: rest) stop) : Tiled q source pos (joinText n rest) stop := by
  rcases apart_or_texts n rest with hn | ⟨value, first, after, second, more, rfl, rfl⟩
  · rwa [joinText_of_head hn]
  · simp only [tiled_cons, Node.span] at h
    obtain ⟨hstart, hfirst, hvalue, hadjacent, hsecond, hafter, hmore⟩ := h
    rw [TiledNode] at hvalue hafter
    rw [joinText, tiled_cons, TiledNode]
    refine ⟨hstart, hfirst.trans hsecond, fun hoff => ?_, hmore⟩
    rw [hvalue hoff, hafter hoff]
    exact slice_append source (hstart.trans_lt hfirst).le hadjacent (hadjacent.trans_lt hsecond).le

/-- Nodes whose texts are joined (`joinTexts`) cover what they covered before. -/
theorem tiled_joinTexts {nodes : List Node} (h : Tiled q source pos nodes stop) :
    Tiled q source pos (joinTexts nodes) stop := by
  induction nodes generalizing pos with
  | nil => exact h
  | cons n rest ih =>
    obtain ⟨hstart, hlt, hn, hrest⟩ := (tiled_cons n rest).1 h
    exact tiled_joinText ((tiled_cons n _).2 ⟨hstart, hlt, hn, ih hrest⟩)

/-! ## Marks in the text -/

/-- A stretch (`stretch`) of one character is the character. -/
private theorem stretch_single {c : Char} (h : source[pos]? = some c) :
    stretch source pos (pos + 1) = [c] := by
  obtain ⟨hlt, rfl⟩ := List.getElem?_eq_some_iff.1 h
  rw [stretch, List.drop_eq_getElem_cons hlt, Nat.add_sub_cancel_left, List.take_succ_cons,
    List.take_zero]

/-- What begins with an opening brace (`InBraces`) and ends with a closing one is in braces. -/
theorem inBraces_of_getElem? (hopen : source[pos]? = some '\x7b')
    (hclose : source[stop]? = some '\x7d') (hlt : pos < stop) :
    InBraces source ⟨pos, stop + 1⟩ := by
  refine ⟨String.ofList (stretch source (pos + 1) stop), String.toList_inj.1 ?_⟩
  simp only [slice, String.toList_append, String.toList_ofList]
  -- the first character, what is between, and the last
  calc stretch source pos (stop + 1)
    _ = stretch source pos (pos + 1) ++ stretch source (pos + 1) stop ++
          stretch source stop (stop + 1) := by
      rw [stretch_append source (Nat.le_succ pos) hlt,
        stretch_append source hlt.le (Nat.le_succ stop)]
    _ = "\x7b".toList ++ stretch source (pos + 1) stop ++ "\x7d".toList := by
      rw [stretch_single hopen, stretch_single hclose]
      rfl

/-- A mark (`mark?`) is one character wide. -/
theorem IsPart.mark_placed {depth : Nat} {t : Token} {c : Char} (h : IsPart q source depth t)
    (hc : mark? t.kind = some c) : t.stop = t.start + 1 ∧ source[t.start]? = some c := by
  have hkind : t.kind ≠ .text := by
    intro ht
    rw [ht] at hc
    cases hc
  have hvalue := h.value_eq (.inl hkind)
  have hlt := h.start_lt
  have hle := h.stop_le
  rw [h.mark c hc, String.toList_singleton, stretch] at hvalue
  -- The value of a mark is one character, and the value is what is written.
  have hlength := congrArg List.length hvalue
  rw [List.length_take, List.length_drop, List.length_singleton] at hlength
  have hstop : t.stop = t.start + 1 := by omega
  have hfirst := congrArg (·[0]?) hvalue
  simp only [List.getElem?_take, List.getElem?_drop, hstop] at hfirst
  exact ⟨hstop, by simpa using hfirst.symm⟩

/-! ## Tokens that a text is cut into -/

variable {depth : Nat} {t : Token} {more : List Token}

/-- Where the next token is a mark (`mark?`), it comes next in the text, and the other tokens follow
it. -/
theorem CutUp.mark {c : Char} (h : CutUp q source depth pos (t :: more))
    (hc : mark? t.kind = some c) :
    ComesNext source depth pos t.start ∧ t.stop = t.start + 1 ∧ source[t.start]? = some c ∧
      CutUp q source (levelAfter depth t.kind) (t.start + 1) more := by
  obtain ⟨hnext, hpart, -, hrest⟩ := h
  obtain ⟨hstop, hchar⟩ := hpart.mark_placed hc
  exact ⟨hnext, hstop, hchar, hstop ▸ hrest⟩

/-- An opening brace (`TokenKind.openBrace`) between the parts of a message stands where the last
part ended. -/
theorem CutUp.opening (h : CutUp q source depth pos (t :: more)) (ht : t.kind = .openBrace)
    (heven : depth % 2 = 0) :
    t.start = pos ∧ source[pos]? = some '\x7b' ∧ CutUp q source (depth + 1) (pos + 1) more := by
  obtain ⟨hnext, -, hchar, hrest⟩ := h.mark (by rw [ht]; rfl)
  rw [ht, levelAfter] at hrest
  obtain rfl := hnext.adjacent heven
  exact ⟨rfl, hchar, hrest⟩

/-- A brace that closes (`TokenKind.closeBrace`) what was opened at a depth. -/
theorem CutUp.closing (h : CutUp q source (depth + 1) pos (t :: more)) (ht : t.kind = .closeBrace) :
    ComesNext source (depth + 1) pos t.start ∧ t.stop = t.start + 1 ∧
      source[t.start]? = some '\x7d' ∧ CutUp q source depth t.stop more := by
  obtain ⟨hnext, hstop, hchar, hrest⟩ := h.mark (by rw [ht]; rfl)
  rw [ht, levelAfter, Nat.add_sub_cancel, ← hstop] at hrest
  exact ⟨hnext, hstop, hchar, hrest⟩

/-- Tokens that are no braces are passed over (`levelAfter`). -/
theorem CutUp.pass {before : List Token} (h : CutUp q source depth pos (before ++ more))
    (hbefore : ∀ t ∈ before, levelAfter depth t.kind = depth) :
    ∃ stop, pos ≤ stop ∧ CutUp q source depth stop more := by
  induction before generalizing pos with
  | nil => exact ⟨pos, Nat.le_refl pos, h⟩
  | cons t rest ih =>
    obtain ⟨ht, hbefore⟩ := List.forall_mem_cons.1 hbefore
    obtain ⟨hnext, hpart, -, hrest⟩ := h
    -- the token leaves the level as it is
    rw [ht] at hrest
    obtain ⟨stop, hle, hcut⟩ := ih hrest hbefore
    have hpos := hnext.le
    have hlt := hpart.start_lt
    exact ⟨stop, by omega, hcut⟩

/-- Braces with no braces between them (`InBraces`), and what is between them. -/
theorem CutUp.braces {brace c : Token} {inner : List Token}
    (h : CutUp q source depth pos (brace :: (inner ++ c :: more)))
    (hbrace : brace.kind = .openBrace)
    (heven : depth % 2 = 0) (hc : c.kind = .closeBrace)
    (hinner : ∀ t ∈ inner, levelAfter (depth + 1) t.kind = depth + 1) :
    brace.start = pos ∧ pos < c.stop ∧ InBraces source ⟨pos, c.stop⟩ ∧
      CutUp q source depth c.stop more := by
  obtain ⟨hstart, hopen, hrest⟩ := h.opening hbrace heven
  obtain ⟨stop, hle, hrest⟩ := hrest.pass hinner
  obtain ⟨hnext, hstop, hclose, hrest⟩ := hrest.closing hc
  have hlt : pos < c.start := by
    have hnextLe := hnext.le
    omega
  refine ⟨hstart, by omega, ?_, hrest⟩
  rw [hstop]
  exact inBraces_of_getElem? hopen hclose hlt

/-- A format (`formatLeaves`) opens and closes no braces. -/
private theorem levelAfter_formatLeaves {format : Option (Token × Token)} (h : ValidFormat format) :
    ∀ t ∈ formatLeaves format, levelAfter depth t.kind = depth := by
  cases format with
  | none => simp [formatLeaves]
  | some p => simp [formatLeaves, levelAfter, h.1, h.2]

/-! ## Keys -/

/-- Digits (`ofDigits?`) make a number, so the default is not used. -/
private theorem ofDigits?_getD {digits : List Char} (hne : digits ≠ [])
    (h : ∀ c ∈ digits, c.isDigit = true) :
    ofDigits? digits = some ((ofDigits? digits).getD 0) := by
  have hread := digitsFrom?_of_isDigit h 0
  rw [ofDigits?, ofBaseDigits?, if_neg (by simpa using hne), hread, Option.getD_some]

/-- A word opens and closes no braces (`levelAfter`). -/
private theorem levelAfter_of_word (ht : t.kind = .identifier ∨ t.kind = .number) :
    levelAfter depth t.kind = depth := by
  rcases ht with ht | ht <;> rw [ht] <;> rfl

/-- A word, and what comes next behind it (`ComesNext`). -/
theorem CutUp.word (h : CutUp q source depth pos (t :: more))
    (ht : t.kind = .identifier ∨ t.kind = .number) :
    ComesNext source depth pos t.start ∧ t.start < t.stop ∧ t.WordSound ∧
      t.value.toList = stretch source t.start t.stop ∧ CutUp q source depth t.stop more := by
  obtain ⟨hnext, hpart, -, hrest⟩ := h
  rw [levelAfter_of_word ht] at hrest
  have hkind : t.kind ≠ .text := by rcases ht with ht | ht <;> rw [ht] <;> nofun
  exact ⟨hnext, hpart.start_lt, hpart.sound, hpart.value_eq (.inl hkind), hrest⟩

/-- A key (`Label`) and the brace behind it open the message of a branch. -/
theorem CutUp.label {kind : ChoiceKind} {label : Label} {brace : Token}
    (h : CutUp q source depth pos (label.leaves ++ brace :: more)) (hlabel : label.Valid kind)
    (hbrace : brace.kind = .openBrace) :
    pos ≤ label.start ∧ Opens source label.key label.start brace.start ∧
      CutUp q source (depth + 1) (brace.start + 1) more := by
  cases label with
  | word t =>
    have ht : t.kind = .identifier ∨ t.kind = .number := by
      cases kind with
      | plural => exact .inl hlabel.1
      | select => exact hlabel
    obtain ⟨hnext, hlt, hsound, hvalue, hrest⟩ := CutUp.word h ht
    obtain ⟨hgap, -, hchar, hrest⟩ := hrest.mark (by rw [hbrace]; rfl)
    rw [hbrace, levelAfter] at hrest
    refine ⟨hnext.le, ⟨hchar, t.value.toList, stretch source t.stop brace.start, ?_,
      ⟨rfl, isWordText_of_wordSound ht hsound⟩, hgap.blank⟩, hrest⟩
    rw [hvalue, stretch_append source hlt.le hgap.le, Label.start]
  | exact equals number =>
    obtain ⟨hequals, hnumber⟩ : equals.kind = .equals ∧ number.kind = .number := by
      cases kind with
      | plural => exact hlabel
      | select => exact hlabel.elim
    obtain ⟨hnext, -, hsign, hrest⟩ := CutUp.mark h (by rw [hequals]; rfl)
    rw [hequals, show levelAfter depth .equals = depth from rfl] at hrest
    obtain ⟨hinner, hlt, hsound, hvalue, hrest⟩ := CutUp.word hrest (.inr hnumber)
    obtain ⟨hgap, -, hchar, hrest⟩ := hrest.mark (by rw [hbrace]; rfl)
    rw [hbrace, levelAfter] at hrest
    obtain ⟨hne, -, hkind⟩ := hsound (.inr hnumber)
    -- The kind of a word is read off its characters, so a number has digits only.
    have hdigits : ∀ c ∈ number.value.toList, c.isDigit = true := by
      rw [hnumber, wordKind] at hkind
      split at hkind
      · next hall => exact List.all_eq_true.1 hall
      · cases hkind
    refine ⟨hnext.le, ⟨hchar, '=' :: (stretch source (equals.start + 1) number.start ++
      number.value.toList), stretch source number.stop brace.start, ?_,
      ⟨_, _, rfl, hinner.blank, ofDigits?_getD hne hdigits⟩, hgap.blank⟩, hrest⟩
    have hinnerLe := hinner.le
    have hgapLe := hgap.le
    rw [hvalue, stretch_append source hinnerLe hlt.le, ← List.singleton_append,
      ← stretch_single hsign, stretch_append source (by omega) (by omega),
      stretch_append source (by omega) hgapLe, Label.start]

/-! ## Parts of a derivation -/

variable {known : Option (List String)}

/-- A name in braces (`referenceNode`) covers the braces, whether it is a reference or text. -/
theorem tiledNode_referenceNode {name : String} {span : Span} (h : InBraces source span) :
    (referenceNode known source name span).span = span ∧
      TiledNode q source (referenceNode known source name span) := by
  rcases referenceNode_cases known source name span with he | he <;> rw [he, TiledNode]
  · exact ⟨rfl, h⟩
  · exact ⟨rfl, fun _ => rfl⟩

mutual

/-- The nodes of the parts of a message cover what the text is cut into (`Tiled`) for them. -/
theorem exists_tiled : ∀ (items : List Item) {depth pos : Nat} {more : List Token},
    ValidItems items → depth % 2 = 0 →
    CutUp q source depth pos (leavesOfItems items ++ more) →
    ∃ stop, Tiled q source pos (nodesOf (referenceNode known source) items) stop ∧
      CutUp q source depth stop more
  | [], _, pos, _, _, _, h => ⟨pos, by simp, by simpa using h⟩
  | i :: items, _, _, _, hvalid, heven, h => by
    obtain ⟨hi, hitems⟩ := (validItems_cons _ _).1 hvalid
    rw [leavesOfItems_cons, List.append_assoc] at h
    obtain ⟨middle, hstart, hmiddle, hlt, hn, hrest⟩ := exists_tiledNode i hi heven h
    obtain ⟨stop, htiled, hmore⟩ := exists_tiled items hitems heven hrest
    refine ⟨stop, ?_, hmore⟩
    rw [nodesOf_cons, tiled_cons, hstart, hmiddle]
    exact ⟨rfl, hlt, hn, htiled⟩

/-- The node of a part of a message covers what the text is cut into (`TiledNode`) for it. -/
theorem exists_tiledNode : ∀ (i : Item) {depth pos : Nat} {more : List Token},
    i.Valid → depth % 2 = 0 → CutUp q source depth pos (i.leaves ++ more) →
    ∃ stop, (i.node (referenceNode known source)).span.start = pos ∧
      (i.node (referenceNode known source)).span.stop = stop ∧ pos < stop ∧
      TiledNode q source (i.node (referenceNode known source)) ∧ CutUp q source depth stop more
  | .text t, _, _, _, hi, heven, h => by
    rw [Item.Valid] at hi
    rw [Item.leaves] at h
    obtain ⟨hnext, hpart, -, hrest⟩ := h
    obtain rfl := hnext.adjacent heven
    rw [hi, show ∀ depth, levelAfter depth .text = depth from fun _ => rfl] at hrest
    rw [Item.node, TiledNode]
    refine ⟨t.stop, rfl, rfl, hpart.start_lt, fun hoff => ?_, hrest⟩
    rw [← String.toList_inj, hpart.value_eq (.inr hoff), slice, String.toList_ofList]
    rfl
  | .reference o c, depth, pos, more, hi, heven, h => by
    rw [Item.Valid] at hi
    obtain ⟨ho, hc⟩ := hi
    rw [Item.leaves] at h
    have h : CutUp q source depth pos (o.brace :: ([o.name] ++ c :: more)) := h
    obtain ⟨hstart, hlt, hbraces, hrest⟩ := h.braces ho.1 heven hc (by simp [ho.2.1, levelAfter])
    rw [Item.node, hstart]
    obtain ⟨hspan, hn⟩ := tiledNode_referenceNode hbraces
    exact ⟨c.stop, by rw [hspan], by rw [hspan], hlt, hn, hrest⟩
  | .choice kind o comma keyword second arms c, depth, pos, more, hi, heven, h => by
    rw [Item.Valid] at hi
    obtain ⟨ho, hcomma, hkeyword, hsecond, harms, -, -, hc⟩ := hi
    have h : CutUp q source depth pos (o.brace ::
        ([o.name, comma, keyword, second] ++ (leavesOfArms arms ++ c :: more))) := by
      simpa [Item.leaves, Opening.leaves] using h
    obtain ⟨hstart, hopen, hrest⟩ := h.opening ho.1 heven
    -- Nothing between the brace and the first key opens or closes a brace.
    obtain ⟨first, hfirst, hrest⟩ := hrest.pass
      (by simp [ho.2.1, hcomma, hkeyword.1, hsecond, levelAfter])
    obtain ⟨last, hbranches, hrest⟩ := exists_tiledBranches arms harms (by omega) hrest
    obtain ⟨hnext, hstop, hclose, hrest⟩ := hrest.closing hc
    have hlast := hbranches.le
    have hle := hnext.le
    rw [Item.node, hstart, hstop, TiledNode]
    refine ⟨c.start + 1, rfl, rfl, by omega, ⟨inBraces_of_getElem? hopen hclose (by omega), ?_⟩,
      hstop ▸ hrest⟩
    exact hbranches.mono hfirst hle
  | .argument kind o comma keyword format c, depth, pos, more, hi, heven, h => by
    rw [Item.Valid] at hi
    obtain ⟨ho, hcomma, hkeyword, hformat, hc⟩ := hi
    have h : CutUp q source depth pos (o.brace ::
        (([o.name, comma, keyword] ++ formatLeaves format) ++ c :: more)) := by
      simpa [Item.leaves, Opening.leaves] using h
    have hinner : ∀ t ∈ [o.name, comma, keyword] ++ formatLeaves format,
        levelAfter (depth + 1) t.kind = depth + 1 :=
      List.forall_mem_append.2
        ⟨by simp [ho.2.1, hcomma, hkeyword.1, levelAfter], levelAfter_formatLeaves hformat⟩
    obtain ⟨hstart, hlt, hbraces, hrest⟩ := h.braces ho.1 heven hc hinner
    rw [Item.node, hstart, TiledNode]
    exact ⟨c.stop, rfl, rfl, hlt, hbraces, hrest⟩

/-- The branches of a choice (`TiledBranches`) stand where the text is cut into their tokens. -/
theorem exists_tiledBranches : ∀ (arms : List Arm) {kind : ChoiceKind} {depth pos : Nat}
    {more : List Token}, ValidArms kind arms → depth % 2 = 1 →
    CutUp q source depth pos (leavesOfArms arms ++ more) →
    ∃ stop, TiledBranches q source pos (branchesOf (referenceNode known source) arms) stop ∧
      CutUp q source depth stop more
  | [], _, _, pos, _, _, _, h => ⟨pos, by simp, by simpa using h⟩
  | .mk label brace message c :: arms, _, depth, pos, more, hvalid, hodd, h => by
    obtain ⟨hlabel, hbrace, hmessage, hc, harms⟩ := (validArms_cons ..).1 hvalid
    have h : CutUp q source depth pos (label.leaves ++
        brace :: (leavesOfItems message ++ c :: (leavesOfArms arms ++ more))) := by
      simpa using h
    have heven : (depth + 1) % 2 = 0 := by omega
    obtain ⟨hpos, hopens, hinside⟩ := h.label hlabel hbrace
    obtain ⟨closing, htiled, hend⟩ := exists_tiled message hmessage heven hinside
    obtain ⟨hnext, hstop, hclose, hrest⟩ := hend.closing hc
    -- the nodes of the message end where its closing brace stands, as no white space is left out
    obtain rfl := hnext.adjacent heven
    obtain ⟨last, hbranches, hmore⟩ := exists_tiledBranches arms harms hodd hrest
    refine ⟨last, ?_, hmore⟩
    rw [branchesOf_cons, tiledBranches_cons]
    exact ⟨hpos, ⟨_, _, hopens, tiled_joinTexts htiled, hclose, hstop⟩, hbranches⟩

end

/-! ## Whole messages -/

/-- The nodes of a message that is read cover the whole text (`Tiled`) one after the other, and the
nodes of each branch, at any depth, what is between its braces. Branches stand one behind the other
strictly inside their choice, each from its key through its closing brace. What is no text is in
braces, and text is what is written there unless it is quoted. -/
theorem tiled_of_parse {options : ReadingOptions} {text : String} {m : Message}
    (h : parse options text = .ok m) :
    Tiled options.quoting text.toList 0 m text.length := by
  rw [parse] at h
  cases hscan : ofText options.quoting text with
  | error f => simp [hscan] at h
  | ok tokens =>
    simp only [hscan] at h
    have hsound := wordSound_of_scan _ _ _ _ _ tokens hscan
    obtain ⟨items, hvalid, -, rfl, rfl⟩ := derivation_of_ofTokens hsound h
    have hcut := cutUp_of_ofText hscan
    rw [← List.append_nil (leavesOfItems items)] at hcut
    obtain ⟨stop, htiled, hend⟩ := exists_tiled items hvalid rfl hcut
    -- no white space is left out at the end of the text
    have hend : ComesNext text.toList 0 stop text.toList.length := hend
    rw [← String.length_toList, ← hend.adjacent rfl]
    exact tiled_joinTexts htiled

end

/-- A plural whose exact key is written with white space and a zero, and a name that is no
placeholder. -/
def queueText : String := "It''s \x7bn, plural, = 05 \x7b\x7bx\x7d!\x7d other\x7b\x7d\x7d"

/-- Its message, where the name that is no placeholder is text with what follows it. -/
def queue : Message :=
  [.text "It's " ⟨0, 6⟩,
    .choice .plural "n"
      [.mk (.exact 5) [.text "\x7bx\x7d!" ⟨24, 28⟩] ⟨18, 29⟩, .mk .other [] ⟨30, 37⟩] ⟨6, 38⟩]

/-- The message of the first branch (`queue`) covers what is between its braces, and that of the
other branch is empty. -/
theorem tiled_of_parse_queueText :
    parse ⟨⟨true, "'"⟩, some ["n"], 32⟩ queueText = .ok queue ∧
      Tiled ⟨true, "'"⟩ queueText.toList 0 queue queueText.length := by
  have hparse : parse ⟨⟨true, "'"⟩, some ["n"], 32⟩ queueText = .ok queue := by decide +kernel
  exact ⟨hparse, tiled_of_parse hparse⟩

end Parlance.Grammar
