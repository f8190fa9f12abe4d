import Parlance.Proofs.Message.Printing

/-!
# Reading undoes printing

The scanner cuts a printed message into the tokens of a derivation of the message (`exists_items`),
construct by construct: each lemma gives the tokens of one construct, whatever is written after it.
So the reader gives a printed message back, up to its spans (`parse_print`).
-/

namespace Parlance.Grammar

open Parlance.Message Parlance.Number Parlance.Text Parlance.Token

/-! ## Cutting a stretch of text -/

/-- Whether the scanner cuts some characters into tokens where `rest` is written after them. -/
def Scans (q : Quoting) (depth pos : Nat) (chars : List Char) (depth' : Nat)
    (tokens : List Token) (rest : List Char) : Prop :=
  scan q 0 depth pos (chars ++ rest) =
    (scan q 0 depth' (pos + chars.length) rest).map (tokens ++ ·)

variable {q : Quoting} {depth : Nat}

/-- What is scanned (`Scans`) one after the other gives its tokens one after the other. -/
theorem Scans.append {pos depth' depth'' : Nat} {chars more rest : List Char}
    {tokens others : List Token} (h : Scans q depth pos chars depth' tokens (more ++ rest))
    (h' : Scans q depth' (pos + chars.length) more depth'' others rest) :
    Scans q depth pos (chars ++ more) depth'' (tokens ++ others) rest := by
  rw [Scans] at h h' ⊢
  rw [List.append_assoc, h, h', List.length_append, Nat.add_assoc]
  cases scan q 0 depth'' (pos + (chars.length + more.length)) rest <;>
    simp [Except.map]

/-- Nothing gives no tokens (`Scans`). -/
private theorem scans_nil {pos : Nat} (rest : List Char) : Scans q depth pos [] depth [] rest := by
  rw [Scans]
  cases h : scan q 0 depth (pos + [].length) rest <;> simp_all [Except.map]

/-- White space (`Layout`) in an expression gives no token. -/
theorem scans_gap {pos : Nat} (hodd : depth % 2 = 1) (g : Gap) (rest : List Char) :
    Scans q depth pos g.chars depth [] rest := by
  rw [Scans, scan_blanks hodd g.blank]
  cases scan q 0 depth (pos + g.chars.length) rest <;> simp [Except.map]

/-- Whether a word before this text ends there. -/
def EndsWord (rest : List Char) : Prop := ∀ c ∈ rest.head?, isAsciiWordChar c = false

/-- A word ends (`EndsWord`) before white space and before what is no word character. -/
private theorem endsWord_gap_cons (g : Gap) {c : Char} (hc : isAsciiWordChar c = false)
    (rest : List Char) : EndsWord (g.chars ++ c :: rest) := by
  intro d hd
  cases hg : g.chars with
  | nil =>
    obtain rfl : c = d := by simpa [hg] using hd
    exact hc
  | cons e more =>
    obtain rfl : e = d := by simpa [hg] using hd
    have hblank := g.blank e (by simp [hg])
    -- a blank is no word character, so the word ends at the first of them
    by_contra hword
    have hnot := (word_char_distinct (by simpa using hword)).1
    simp [hblank] at hnot

/-- A word ends (`EndsWord`) before a comma. -/
private theorem endsWord_comma (l : Layout) (more rest : List Char) :
    EndsWord (commaChars l ++ more ++ rest) := by
  rw [commaChars, List.append_assoc, List.append_assoc, List.cons_append]
  exact endsWord_gap_cons _ (by decide) _

/-- A word ends (`EndsWord`) before a closing brace. -/
private theorem endsWord_closing (l : Layout) (rest : List Char) :
    EndsWord (closingChars l ++ rest) := by
  rw [closingChars, List.append_assoc, List.singleton_append]
  exact endsWord_gap_cons _ (by decide) _

/-- A word ends (`EndsWord`) before the brace of a branch. -/
private theorem endsWord_branchOpening (l : Layout) (more rest : List Char) :
    EndsWord (branchOpeningChars l ++ more ++ rest) := by
  rw [branchOpeningChars, List.append_assoc, List.append_assoc, List.singleton_append]
  exact endsWord_gap_cons _ (by decide) _

/-- A word ends (`EndsWord`) before a format or the closing brace. -/
private theorem endsWord_format (l : Layout) (skeleton : Option String) (rest : List Char) :
    EndsWord (formatChars l skeleton ++ closingChars l ++ rest) := by
  cases skeleton with
  | none => exact endsWord_closing l rest
  | some s =>
    rw [formatChars, List.append_assoc, List.append_assoc, ← List.append_assoc]
    exact endsWord_comma l _ _

/-! ## Words, commas and braces -/

/-- A word is scanned as a token of its kind (`wordKind`). -/
theorem exists_word (pos : Nat) (hodd : depth % 2 = 1) {w : String} (hw : IsWordText w) :
    ∃ t : Token, t.kind = wordKind w.toList ∧ t.value = w ∧
      ∀ rest, EndsWord rest → Scans q depth pos w.toList depth [t] rest :=
  ⟨⟨wordKind w.toList, w, pos, pos + w.toList.length⟩, rfl, rfl, fun rest hrest => by
    rw [Scans, scan_word hodd hw.1 hw.2 hrest, String.ofList_toList]
    rfl⟩

/-- A comma (`commaChars`) is scanned as a token, with the white space before it passed over. -/
private theorem exists_comma (l : Layout) (pos : Nat) (hodd : depth % 2 = 1) :
    ∃ t : Token, t.kind = .comma ∧ ∀ rest, Scans q depth pos (commaChars l) depth [t] rest := by
  have hcomma (pos : Nat) (rest : List Char) :
      Scans q depth pos [','] depth [⟨.comma, ",", pos, pos + 1⟩] rest := scan_comma hodd
  exact ⟨_, rfl, fun rest =>
    (scans_gap hodd l.beforeComma _).append ((hcomma _ _).append (scans_gap hodd l.afterComma _))⟩

/-- A closing brace (`closingChars`) is scanned as a token, one level further out. -/
private theorem exists_closing (l : Layout) (pos : Nat) (hodd : depth % 2 = 1) :
    ∃ t : Token, t.kind = .closeBrace ∧
      ∀ rest, Scans q depth pos (closingChars l) (depth - 1) [t] rest := by
  have hbrace (pos : Nat) (rest : List Char) :
      Scans q depth pos ['\x7d'] (depth - 1) [⟨.closeBrace, "\x7d", pos, pos + 1⟩] rest :=
    scan_closeBrace hodd
  exact ⟨⟨.closeBrace, "\x7d", _, _⟩, rfl, fun rest =>
    (scans_gap hodd l.inside _).append (hbrace _ _)⟩

/-- The brace of a branch (`branchOpeningChars`) is scanned as a token, one level further in. -/
private theorem exists_branchOpening (l : Layout) (pos : Nat) (hodd : depth % 2 = 1) :
    ∃ t : Token, t.kind = .openBrace ∧
      ∀ rest, Scans q depth pos (branchOpeningChars l) (depth + 1) [t] rest := by
  have hbrace (pos : Nat) (rest : List Char) :
      Scans q depth pos ['\x7b'] (depth + 1) [⟨.openBrace, "\x7b", pos, pos + 1⟩] rest :=
    scan_openBrace hodd
  exact ⟨⟨.openBrace, "\x7b", _, _⟩, rfl, fun rest =>
    (scans_gap hodd l.afterKey _).append (hbrace _ _)⟩

/-- The brace behind the message of a branch is scanned as a token. -/
private theorem exists_branchEnd {mark : Char} (hopen : mark ≠ '\x7b') (hclose : mark ≠ '\x7d')
    (pos : Nat) (heven : depth % 2 = 0) :
    ∃ t : Token, t.kind = .closeBrace ∧
      ∀ rest, Scans (quotingBy mark) depth pos ['\x7d'] (depth - 1) [t] rest :=
  ⟨⟨.closeBrace, "\x7d", pos, pos + 1⟩, rfl, fun _ =>
    scan_closeText heven (endsText_brace hopen hclose _ (.inr rfl) _)⟩

/-! ## Parts of an expression -/

/-- A word with a character that is no digit is an identifier (`wordKind`). -/
theorem wordKind_of_exists {w : List Char} (h : ∃ c ∈ w, c.isDigit = false) :
    wordKind w = .identifier := by
  rw [wordKind, if_neg]
  simpa using h

/-- An opening brace and a name are scanned as an `Opening`. -/
theorem exists_opening {mark : Char} (hopen : mark ≠ '\x7b') (hclose : mark ≠ '\x7d') (l : Layout)
    (pos : Nat) (heven : depth % 2 = 0) {name : String} (hname : IsNameText name) :
    ∃ o : Opening, o.Valid ∧ o.name.value = name ∧ ∀ rest, EndsWord rest →
      Scans (quotingBy mark) depth pos (openingChars l name) (depth + 1) o.leaves rest := by
  have hodd : (depth + 1) % 2 = 1 := by omega
  have hbrace (rest : List Char) : Scans (quotingBy mark) depth pos ['\x7b'] (depth + 1)
      [⟨.openBrace, "\x7b", pos, pos + 1⟩] rest :=
    scan_openText heven (endsText_brace hopen hclose _ (.inl rfl) _)
  obtain ⟨t, hkind, hvalue, hscan⟩ :=
    exists_word (q := quotingBy mark) (pos + 1 + l.inside.chars.length) hodd hname.1
  -- A name begins with no digit, so it is no number.
  have hidentifier : t.kind = .identifier := by
    obtain ⟨c, more, hc⟩ := List.exists_cons_of_ne_nil hname.1.1
    have hdigit := hname.2 c (by simp [hc])
    rw [hkind, wordKind_of_exists ⟨c, by simp [hc], hdigit⟩]
  refine ⟨⟨⟨.openBrace, "\x7b", pos, pos + 1⟩, t⟩, ⟨rfl, hidentifier, hvalue ▸ hname.2⟩, hvalue,
    fun rest hrest => ?_⟩
  exact (hbrace _).append ((scans_gap hodd l.inside _).append (hscan rest hrest))

/-- The number of an exact key is a token with its digits (`decimalDigits`). -/
theorem exists_number (n pos : Nat) (hodd : depth % 2 = 1) :
    ∃ t : Token, t.kind = .number ∧ t.value.toList = decimalDigits n ∧
      ∀ rest, EndsWord rest → Scans q depth pos (decimalDigits n) depth [t] rest := by
  have hword : IsWordText (String.ofList (decimalDigits n)) := by
    simp only [IsWordText, String.toList_ofList]
    refine ⟨decimalDigits_ne_nil n, fun c hc => ?_⟩
    simp [isAsciiWordChar, Char.isAlphanum, isDigit_of_mem_decimalDigits hc]
  obtain ⟨t, hkind, hvalue, hscan⟩ := exists_word (q := q) pos hodd hword
  rw [String.toList_ofList] at hkind hscan
  refine ⟨t, ?_, by rw [hvalue, String.toList_ofList], hscan⟩
  rw [hkind, wordKind, if_pos]
  simpa using fun c hc => isDigit_of_mem_decimalDigits hc

/-- A key that fits (`KeyFits`) is a word, and a category is an identifier. -/
theorem isWordText_of_keyFits {kind : ChoiceKind} {w : String} (h : KeyFits kind (.word w)) :
    IsWordText w ∧ (kind = .plural → wordKind w.toList = .identifier) := by
  cases kind with
  | select => exact ⟨h, nofun⟩
  | plural =>
    have hall : ∀ w ∈ pluralCategories, w.toList ≠ [] ∧
        w.toList.all isAsciiWordChar = true ∧ wordKind w.toList = .identifier := by decide
    obtain ⟨hne, hword, hkind⟩ := hall w h
    exact ⟨⟨hne, List.all_eq_true.1 hword⟩, fun _ => hkind⟩

/-- A key is scanned as a label (`Label`) of it. -/
theorem exists_label (l : Layout) (pos : Nat) (hodd : depth % 2 = 1) {kind : ChoiceKind} {key : Key}
    (hkey : KeyFits kind key) :
    ∃ label : Label, label.Valid kind ∧ label.key = key ∧
      (∀ more, FitsDigits more → FitsDigits (label.leaves ++ more)) ∧
      ∀ rest, EndsWord rest → Scans q depth pos (labelChars l key) depth label.leaves rest := by
  cases key with
  | exact n =>
    cases kind with
    | select => exact hkey.elim
    | plural =>
      have hequals (rest : List Char) :
          Scans q depth pos ['='] depth [⟨.equals, "=", pos, pos + 1⟩] rest := scan_equals hodd
      obtain ⟨t, hkind, hvalue, hscan⟩ :=
        exists_number (q := q) n (pos + 1 + l.afterEquals.chars.length) hodd
      -- Only this label has a number, and its digits are those that `KeyFits` allows.
      refine ⟨.exact ⟨.equals, "=", pos, pos + 1⟩ t, ⟨rfl, hkind⟩, ?_, fun more hmore => ?_,
        fun rest hrest => ?_⟩
      · rw [Label.key, hvalue, ofDigits?_decimalDigits]
        rfl
      · refine fitsDigits_cons (fun _ n hn _ => ?_) (fitsDigits_cons (fun h => ?_) hmore)
        · obtain rfl : t = n := by simpa [Label.leaves] using hn
          rw [← String.length_toList, hvalue]
          exact hkey
        · simp [hkind] at h
      · exact (hequals _).append ((scans_gap hodd l.afterEquals _).append (hscan rest hrest))
  | word w =>
    obtain ⟨hword, hcategory⟩ := isWordText_of_keyFits hkey
    obtain ⟨t, hkind, hvalue, hscan⟩ := exists_word (q := q) pos hodd hword
    have hwordKind : t.kind = .identifier ∨ t.kind = .number := by
      rw [hkind, wordKind]
      split <;> simp
    refine ⟨.word t, ?_, by rw [Label.key, hvalue], fun more hmore => ?_, hscan⟩
    · cases kind with
      | select => exact hwordKind
      | plural => exact ⟨hkind.trans (hcategory rfl), hvalue ▸ hkey⟩
    · refine fitsDigits_cons (fun h => ?_) hmore
      rcases hwordKind with hw | hw <;> simp [hw] at h

/-- A format, or none, (`formatChars`) is scanned as such. -/
theorem exists_format (l : Layout) (pos : Nat) (hodd : depth % 2 = 1)
    {skeleton : Option String}
    (h : ∀ s ∈ skeleton, IsFormatText s) :
    ∃ format, ValidFormat format ∧ format.map (·.2.value) = skeleton ∧
      ∀ rest, EndsWord rest →
        Scans q depth pos (formatChars l skeleton) depth (formatLeaves format) rest := by
  cases skeleton with
  | none =>
    refine ⟨none, trivial, rfl, fun rest _ => ?_⟩
    exact scans_gap hodd .none rest
  | some s =>
    obtain ⟨hword, hletter⟩ := h s rfl
    -- a comma, and then the word of the format
    obtain ⟨comma, hcomma, hscomma⟩ := exists_comma (q := q) l pos hodd
    obtain ⟨t, hkind, hvalue, hscan⟩ :=
      exists_word (q := q) (pos + (commaChars l).length) hodd hword
    refine ⟨some (comma, t), ⟨hcomma, hkind.trans (wordKind_of_exists hletter)⟩,
      by simp [hvalue], fun rest hrest => ?_⟩
    exact (hscomma _).append (hscan rest hrest)

/-! ## Messages -/

/-- Whether characters are cut into the tokens of a derivation of nodes, up to spans. -/
structure SpellsNodes (q : Quoting) (depth pos : Nat) (chars : List Char) (nodes : List Node)
    (items : List Item) : Prop where
  valid : ValidItems items
  bare_eq : bare (nodesOf Node.reference items) = bare nodes
  nesting_eq : nestingOfItems items = nestingOfNodes nodes
  fits : ∀ more, FitsDigits more → FitsDigits (leavesOfItems items ++ more)
  scans : ∀ rest, AtBrace rest → Scans q depth pos chars depth (leavesOfItems items) rest

/-- Whether characters are cut into the tokens of a derivation of a node, up to spans. -/
structure SpellsNode (q : Quoting) (depth pos : Nat) (chars : List Char) (n : Node) (i : Item) :
    Prop where
  valid : i.Valid
  bare_eq : bareNode (i.node Node.reference) = bareNode n
  nesting_eq : i.nesting = nestingOfNode n
  fits : ∀ more, FitsDigits more → FitsDigits (i.leaves ++ more)
  scans : ∀ rest, (isText n = true → AtBrace rest) → Scans q depth pos chars depth i.leaves rest

/-- Whether characters are cut into the tokens of a derivation of branches, up to spans. -/
structure SpellsBranches (q : Quoting) (depth pos : Nat) (chars : List Char) (kind : ChoiceKind)
    (branches : List Branch) (arms : List Arm) : Prop where
  valid : ValidArms kind arms
  bare_eq : bareBranches (branchesOf Node.reference arms) = bareBranches branches
  nesting_eq : nestingOfArms arms = nestingOfBranches branches
  fits : ∀ more, FitsDigits more → FitsDigits (leavesOfArms arms ++ more)
  scans : ∀ rest, Scans q depth pos chars depth (leavesOfArms arms) rest

/-- A token that is no equals sign does not matter to `FitsDigits`. -/
private theorem fitsDigits_cons_of_ne {t : Token} {rest : List Token} (ht : t.kind ≠ .equals)
    (hrest : FitsDigits rest) : FitsDigits (t :: rest) :=
  fitsDigits_cons (fun h => absurd h ht) hrest

/-- An opening does not matter to `FitsDigits`. -/
theorem Opening.Valid.fitsDigits {o : Opening} (ho : o.Valid) {rest : List Token}
    (hrest : FitsDigits rest) : FitsDigits (o.leaves ++ rest) :=
  fitsDigits_cons_of_ne (by simp [ho.1]) (fitsDigits_cons_of_ne (by simp [ho.2.1]) hrest)

/-- A format does not matter to `FitsDigits`. -/
theorem ValidFormat.fitsDigits {format : Option (Token × Token)} (h : ValidFormat format)
    {rest : List Token} (hrest : FitsDigits rest) : FitsDigits (formatLeaves format ++ rest) := by
  cases format with
  | none => exact hrest
  | some p =>
    exact fitsDigits_cons_of_ne (by simp [h.1]) (fitsDigits_cons_of_ne (by simp [h.2]) hrest)

/-- The keyword of an expression (`IsWord`) is a token with this word. -/
theorem exists_keyword {s : String} (hs : s ∈ ["plural", "select", "date", "time"]) (pos : Nat)
    (hodd : depth % 2 = 1) :
    ∃ t : Token, IsWord s t ∧
      ∀ rest, EndsWord rest → Scans q depth pos s.toList depth [t] rest := by
  have hall : ∀ s ∈ ["plural", "select", "date", "time"], s.toList ≠ [] ∧
      s.toList.all isAsciiWordChar = true ∧ wordKind s.toList = .identifier := by decide
  obtain ⟨hne, hword, hkind⟩ := hall s hs
  obtain ⟨t, ht, hvalue, hscan⟩ := exists_word (q := q) pos hodd ⟨hne, List.all_eq_true.1 hword⟩
  exact ⟨t, ⟨ht.trans hkind, hvalue⟩, hscan⟩

section

variable {mark : Char} (l : Layout)

/-- What is written after text begins with a brace (`AtBrace`), if it is no text. -/
private theorem atBrace_messageChars {nodes : List Node} {rest : List Char}
    (hnodes : ∀ n ∈ nodes.head?, isText n = false) (hrest : AtBrace rest) :
    AtBrace (messageChars l mark nodes ++ rest) := by
  cases nodes with
  | nil => simpa [messageChars] using hrest
  | cons n more =>
    rw [messageChars]
    cases n with
    | text => exact absurd (hnodes _ rfl) (by simp [isText])
    | _ =>
      simp only [nodeChars, headChars, openingChars, List.cons_append]
      exact atBrace_cons (.inl rfl) _

variable (hopen : mark ≠ '\x7b') (hclose : mark ≠ '\x7d')

include hopen hclose

/-- The start of an expression (`Opening`) gives its brace, its name, a comma and its keyword. -/
theorem exists_head (pos : Nat) (heven : depth % 2 = 0) {name s : String}
    (hname : IsNameText name) (hs : s ∈ ["plural", "select", "date", "time"]) :
    ∃ (o : Opening) (comma keyword : Token), o.Valid ∧ o.name.value = name ∧
      comma.kind = .comma ∧ IsWord s keyword ∧ ∀ rest, EndsWord rest →
        Scans (quotingBy mark) depth pos (headChars l name s) (depth + 1)
          (o.leaves ++ [comma, keyword]) rest := by
  have hodd : (depth + 1) % 2 = 1 := by omega
  obtain ⟨o, ho, hvalue, hso⟩ := exists_opening hopen hclose l pos heven hname
  obtain ⟨comma, hcomma, hscomma⟩ := exists_comma (q := quotingBy mark) l
    (pos + (openingChars l name).length) hodd
  obtain ⟨keyword, hkeyword, hskeyword⟩ := exists_keyword (q := quotingBy mark) hs
    (pos + (openingChars l name).length + (commaChars l).length) hodd
  exact ⟨o, comma, keyword, ho, hvalue, hcomma, hkeyword, fun rest hrest =>
    (hso _ (endsWord_comma l _ _)).append ((hscomma _).append (hskeyword rest hrest))⟩

end

section

variable {mark : Char} (l : Layout)

mutual

/-- A printed message (`SpellsNodes`) is cut into the tokens of a derivation of it. -/
theorem exists_items (hopen : mark ≠ '\x7b') (hclose : mark ≠ '\x7d') :
    ∀ (nodes : List Node) (depth pos : Nat), depth % 2 = 0 →
    WellFormedNodes (· ≠ "") nodes → Separate nodes →
    ∃ items, SpellsNodes (quotingBy mark) depth pos (messageChars l mark nodes) nodes items
  | [], depth, pos, _, _, _ => by
    refine ⟨[], validItems_nil, by simp, by simp, fun more h => by simpa using h, fun rest _ => ?_⟩
    rw [messageChars, leavesOfItems_nil]
    exact scans_nil rest
  | n :: nodes, depth, pos, heven, hwell, hseparate => by
    obtain ⟨hn, hnodes⟩ := (wellFormedNodes_cons _ _).1 hwell
    obtain ⟨hapart, hseparate'⟩ := separate_cons.1 hseparate
    obtain ⟨i, hi⟩ := exists_item hopen hclose n depth pos heven hn
    obtain ⟨items, hitems⟩ := exists_items hopen hclose nodes depth
      (pos + (nodeChars l mark n).length) heven hnodes hseparate'
    refine ⟨i :: items, ?_, ?_, ?_, ?_, ?_⟩
    · exact (validItems_cons _ _).2 ⟨hi.valid, hitems.valid⟩
    · rw [nodesOf_cons, bare_cons, bare_cons, hi.bare_eq, hitems.bare_eq]
    · rw [nestingOfItems_cons, nestingOfNodes_cons, hi.nesting_eq, hitems.nesting_eq]
    · intro more hmore
      rw [leavesOfItems_cons, List.append_assoc]
      exact hi.fits _ (hitems.fits _ hmore)
    · intro rest hrest
      rw [messageChars, leavesOfItems_cons]
      -- text is read up to a brace, and no text stands next to text, so a brace follows it
      refine (hi.scans _ fun htext => ?_).append (hitems.scans rest hrest)
      exact atBrace_messageChars l (by simpa [htext] using hapart) hrest

/-- A printed node (`SpellsNode`) is cut into the tokens of a derivation of it. -/
theorem exists_item (hopen : mark ≠ '\x7b') (hclose : mark ≠ '\x7d') :
    ∀ (n : Node) (depth pos : Nat), depth % 2 = 0 →
    WellFormedNode (· ≠ "") n →
    ∃ i, SpellsNode (quotingBy mark) depth pos (nodeChars l mark n) n i
  | .text value span, depth, pos, heven, hwell => by
    rw [WellFormedNode] at hwell
    have hne : value.toList ≠ [] := by simpa using hwell
    refine ⟨.text ⟨.text, value, pos, pos + (quote mark value.toList).length⟩, ?_, ?_, ?_, ?_, ?_⟩
    · rw [Item.Valid]
    · simp [Item.node, bareNode]
    · simp [Item.nesting, nestingOfNode]
    · intro more hmore
      rw [Item.leaves]
      exact fitsDigits_cons_of_ne (by simp) hmore
    · intro rest hrest
      obtain ⟨hwritten, hstart⟩ := endsText_quote mark depth hne rest
      rw [Item.leaves, nodeChars, Scans, scan_text heven hwritten hstart
        (textRun_quote hopen hclose value.toList (hrest rfl)), String.ofList_toList]
      rfl
  | .reference name span, depth, pos, heven, hwell => by
    rw [WellFormedNode] at hwell
    have hodd : (depth + 1) % 2 = 1 := by omega
    obtain ⟨o, ho, hname, hso⟩ := exists_opening hopen hclose l pos heven hwell
    obtain ⟨c, hc, hsc⟩ := exists_closing (q := quotingBy mark) l
      (pos + (openingChars l name).length) hodd
    refine ⟨.reference o c, ?_, ?_, ?_, ?_, ?_⟩
    · rw [Item.Valid]
      exact ⟨ho, hc⟩
    · simp [Item.node, bareNode, hname]
    · simp [Item.nesting, nestingOfNode]
    · intro more hmore
      rw [Item.leaves, List.append_assoc]
      exact ho.fitsDigits (fitsDigits_cons_of_ne (by simp [hc]) hmore)
    · intro rest _
      rw [Item.leaves, nodeChars]
      exact (hso _ (endsWord_closing l rest)).append (hsc rest)
  | .choice kind name branches span, depth, pos, heven, hwell => by
    rw [WellFormedNode] at hwell
    obtain ⟨hplaceholder, hbranches, hkeys, hother⟩ := hwell
    have hodd : (depth + 1) % 2 = 1 := by omega
    have hmem : kind.keyword ∈ ["plural", "select", "date", "time"] := by cases kind <;> decide
    obtain ⟨o, comma, keyword, ho, hname, hcomma, hkeyword, hshead⟩ :=
      exists_head l hopen hclose pos heven hplaceholder hmem
    obtain ⟨second, hsecond, hssecond⟩ := exists_comma (q := quotingBy mark) l
      (pos + (headChars l name kind.keyword).length) hodd
    obtain ⟨arms, harms⟩ := exists_arms hopen hclose kind branches (depth + 1)
      (pos + (headChars l name kind.keyword).length + (commaChars l).length) hodd hbranches
    obtain ⟨c, hc, hsc⟩ := exists_closing (q := quotingBy mark) l
      (pos + (headChars l name kind.keyword).length + (commaChars l).length +
        (branchesChars l mark branches).length) hodd
    -- the keys are distinct and include `other` because those of the branches do
    have harmsKeys : arms.map Arm.key = branches.map Branch.key := by
      have hkeysEq := congrArg (List.map Branch.key) harms.bare_eq
      rwa [keys_bareBranches, keys_bareBranches, keys_branchesOf] at hkeysEq
    refine ⟨.choice kind o comma keyword second arms c, ?_, ?_, ?_, ?_, ?_⟩
    · rw [Item.Valid, harmsKeys]
      exact ⟨ho, hcomma, hkeyword, hsecond, harms.valid, hkeys, hother, hc⟩
    · simp [Item.node, bareNode, hname, harms.bare_eq]
    · rw [Item.nesting, nestingOfNode, harms.nesting_eq]
    · intro more hmore
      simp only [Item.leaves, List.append_assoc, List.cons_append, List.nil_append]
      refine ho.fitsDigits (fitsDigits_cons_of_ne (by simp [hcomma]) ?_)
      refine fitsDigits_cons_of_ne (by simp [hkeyword.1]) ?_
      refine fitsDigits_cons_of_ne (by simp [hsecond]) (harms.fits _ ?_)
      exact fitsDigits_cons_of_ne (by simp [hc]) hmore
    · intro rest _
      rw [Item.leaves, nodeChars]
      have h := (hshead _ (endsWord_comma l _ _)).append ((hssecond _).append
        ((harms.scans _).append (hsc rest)))
      simpa [List.append_assoc] using h
  | .argument name kind skeleton span, depth, pos, heven, hwell => by
    rw [WellFormedNode] at hwell
    obtain ⟨hplaceholder, hskeleton⟩ := hwell
    have hodd : (depth + 1) % 2 = 1 := by omega
    have hmem : kind.keyword ∈ ["plural", "select", "date", "time"] := by cases kind <;> decide
    obtain ⟨o, comma, keyword, ho, hname, hcomma, hkeyword, hshead⟩ :=
      exists_head l hopen hclose pos heven hplaceholder hmem
    obtain ⟨format, hformat, hvalue, hsformat⟩ := exists_format (q := quotingBy mark) l
      (pos + (headChars l name kind.keyword).length) hodd hskeleton
    obtain ⟨c, hc, hsc⟩ := exists_closing (q := quotingBy mark) l
      (pos + (headChars l name kind.keyword).length + (formatChars l skeleton).length) hodd
    refine ⟨.argument kind o comma keyword format c, ?_, ?_, ?_, ?_, ?_⟩
    · rw [Item.Valid]
      exact ⟨ho, hcomma, hkeyword, hformat, hc⟩
    · rw [Item.node, bareNode, bareNode, hvalue, hname]
    · simp [Item.nesting, nestingOfNode]
    · intro more hmore
      simp only [Item.leaves, List.append_assoc, List.cons_append, List.nil_append]
      refine ho.fitsDigits (fitsDigits_cons_of_ne (by simp [hcomma]) ?_)
      refine fitsDigits_cons_of_ne (by simp [hkeyword.1]) (hformat.fitsDigits ?_)
      exact fitsDigits_cons_of_ne (by simp [hc]) hmore
    · intro rest _
      rw [Item.leaves, nodeChars]
      have h := (hshead _ (endsWord_format l skeleton rest)).append
        ((hsformat _ (endsWord_closing l rest)).append (hsc rest))
      simpa [List.append_assoc] using h

/-- Printed branches (`SpellsBranches`) are cut into the tokens of a derivation of them. -/
theorem exists_arms (hopen : mark ≠ '\x7b') (hclose : mark ≠ '\x7d')
    (kind : ChoiceKind) : ∀ (branches : List Branch) (depth pos : Nat),
    depth % 2 = 1 → WellFormedBranches (· ≠ "") kind branches →
    ∃ arms, SpellsBranches (quotingBy mark) depth pos (branchesChars l mark branches) kind
      branches arms
  | [], depth, pos, _, _ => by
    refine ⟨[], validArms_nil kind, by simp, by simp, fun more h => by simpa using h,
      fun rest => ?_⟩
    rw [branchesChars, leavesOfArms_nil]
    exact scans_nil rest
  | .mk key message span :: branches, depth, pos, hodd, hwell => by
    obtain ⟨hkey, hmessage, hbranches⟩ := (wellFormedBranches_cons ..).1 hwell
    have heven : (depth + 1) % 2 = 0 := by omega
    obtain ⟨label, hlabel, hvalue, hlabelFits, hslabel⟩ := exists_label (q := quotingBy mark) l
      (pos + l.beforeKey.chars.length) hodd hkey
    obtain ⟨brace, hbrace, hsbrace⟩ := exists_branchOpening (q := quotingBy mark) l
      (pos + l.beforeKey.chars.length + (labelChars l key).length) hodd
    obtain ⟨items, hitems⟩ := exists_items hopen hclose message (depth + 1)
      (pos + l.beforeKey.chars.length + (labelChars l key).length +
        (branchOpeningChars l).length) heven hmessage.1 hmessage.2
    obtain ⟨c, hc, hsc⟩ := exists_branchEnd hopen hclose
      (pos + l.beforeKey.chars.length + (labelChars l key).length +
        (branchOpeningChars l).length + (messageChars l mark message).length) heven
    obtain ⟨arms, harms⟩ := exists_arms hopen hclose kind branches depth
      (pos + l.beforeKey.chars.length + (labelChars l key).length +
        (branchOpeningChars l).length + (messageChars l mark message).length + 1) hodd hbranches
    refine ⟨.mk label brace items c :: arms, ?_, ?_, ?_, ?_, fun rest => ?scans⟩
    case scans =>
      have h := (scans_gap hodd l.beforeKey _).append
        ((hslabel _ (endsWord_branchOpening l _ rest)).append ((hsbrace _).append
          ((hitems.scans _ (atBrace_cons (.inr rfl) _)).append
            ((hsc _).append (harms.scans rest)))))
      rw [branchesChars, leavesOfArms_cons]
      simpa [List.append_assoc] using h
    · exact (validArms_cons ..).2 ⟨hlabel, hbrace, hitems.valid, hc, harms.valid⟩
    -- nothing is joined when the branch is read, since its texts are no neighbours
    · have hseparate : Separate (nodesOf Node.reference items) := by
        rw [← separate_bare, hitems.bare_eq, separate_bare]
        exact hmessage.2
      rw [branchesOf_cons, bareBranches_cons, bareBranches_cons, hvalue, messageOf,
        joinTexts_of_separate hseparate, hitems.bare_eq, harms.bare_eq]
    · rw [nestingOfArms_cons, nestingOfBranches_cons, hitems.nesting_eq, harms.nesting_eq]
    · intro more hmore
      simp only [leavesOfArms_cons, List.append_assoc, List.cons_append, List.nil_append]
      refine hlabelFits _ (fitsDigits_cons_of_ne (by simp [hbrace]) (hitems.fits _ ?_))
      exact fitsDigits_cons_of_ne (by simp [hc]) (harms.fits _ hmore)

end

/-- A well-formed message that is printed (`print`), with any white space and by any mark but a
brace, is read back, up to its spans. -/
theorem parse_print (l : Layout) (mark : Char) (hopen : mark ≠ '\x7b') (hclose : mark ≠ '\x7d')
    (m : Message) (hwell : WellFormed (· ≠ "") m) (hnesting : nestingOfNodes m ≤ 32) :
    ∃ m', parse ⟨⟨true, String.singleton mark⟩, none, ReadingOptions.defaultLimit⟩
      (print l mark m) = .ok m' ∧ bare m' = bare m := by
  obtain ⟨items, h⟩ := exists_items l hopen hclose m 0 0 rfl hwell.1 hwell.2
  have hscan : Token.ofText (quotingBy mark) (print l mark m) = .ok (leavesOfItems items) := by
    have hscans := h.scans [] atBrace_nil
    rw [Scans, List.append_nil, scan, Except.map, List.append_nil] at hscans
    rw [Token.ofText, print, String.toList_ofList, hscans]
  have hseparate : Separate (nodesOf Node.reference items) := by
    rw [← separate_bare, h.bare_eq, separate_bare]
    exact hwell.2
  have hderives : Derives 32
      (leavesOfItems items ++ [Token.ending (print l mark m).length]) items :=
    derives_append_ending.2 ⟨h.valid, h.nesting_eq ▸ hnesting, rfl⟩
  -- the token at the end is not among those of the derivation, so `h.fits` is asked for both
  have hfits := h.fits [Token.ending (print l mark m).length]
    (fitsDigits_cons_of_ne (by simp [Token.ending]) (fitsDigits_of_forall (by simp)))
  refine ⟨messageOf Node.reference items, ?_, ?_⟩
  · exact parse_of_derives (tokenize_eq_ok_iff.2 ⟨_, hscan, rfl⟩) hfits hderives
  · rw [messageOf, joinTexts_of_separate hseparate, h.bare_eq]

end

/-- A message with braces and marks that are neighbours, in a text and at the end of a branch. -/
def crowdedMessage : Message :=
  [.text "|\x7b\x7d" default, .choice .plural "n"
    [.mk (.exact 10) [.text "\x7d||" default] default,
     .mk .other [.argument "d" .date (some "y2") default] default] default]

/-- A message with the mark, braces and an empty branch (`crowdedMessage`) is read back from its
text. -/
theorem parse_print_crowdedMessage :
    '|' ≠ '\x7b' ∧ '|' ≠ '\x7d' ∧ WellFormed (· ≠ "") crowdedMessage ∧
    nestingOfNodes crowdedMessage ≤ 32 ∧
    print .tight '|' crowdedMessage =
      "|||\x7b||\x7d|\x7bn,plural,=10\x7b|\x7d|||||\x7dother\x7b\x7bd,date,y2\x7d\x7d\x7d" ∧
    ∃ m', parse ⟨⟨true, "|"⟩, none, ReadingOptions.defaultLimit⟩
      (print .tight '|' crowdedMessage) = .ok m' ∧ bare m' = bare crowdedMessage := by
  have hwell : WellFormed (· ≠ "") crowdedMessage := by
    simp [crowdedMessage, WellFormed, WellFormedNode, Separate, IsNameText, IsWordText,
      IsFormatText, KeyFits, isText, Branch.key, Key.other]
    decide
  have hnesting : nestingOfNodes crowdedMessage ≤ 32 := by
    simp [crowdedMessage, nestingOfNode]
  exact ⟨by decide, by decide, hwell, hnesting, by decide +kernel,
    parse_print .tight '|' (by decide) (by decide) crowdedMessage hwell hnesting⟩

end Parlance.Grammar
