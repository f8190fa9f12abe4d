import Parlance.Assoc
import Parlance.Yaml.Node
import Parlance.Yaml.Token

/-!
# The composition of a document

The tree of nodes that the tokens of a document describe. An alias is replaced by the node that it
names; inside that node itself it stands for an empty collection of the same sort. Collections can
be nested in each other only so far. `read` gives the value that the one document of a text denotes:
a text that is not YAML at all is refused before any scalar in it is understood.
-/

namespace Parlance.Yaml

/-- A scalar that is not written. -/
def Node.absent : Node := .scalar .null "" none

/-- How many collections may be nested in each other. -/
def nestingLimit : Nat := 490

/-- The tag handles of a document. -/
abbrev Handles := Assoc String

/-- The handles that need no directive. -/
def standardHandles : Handles := [("!", "!"), ("!!", standardTagStem)]

/-- The tokens that are left, the nodes that have names, and how many collections are open. -/
structure Reading where
  tokens : List Token
  anchors : Assoc Node
  level : Nat
deriving Inhabited

namespace Reading

/-- The reading without its first token. -/
def skip (r : Reading) : Reading := { r with tokens := r.tokens.drop 1 }

/-- Whether one of some tokens comes next. -/
def isAt (r : Reading) (ts : List Token) : Bool :=
  match r.tokens with
  | t :: _ => ts.contains t
  | [] => false

/-- Goes into a collection. -/
def enter (r : Reading) : Except Fault Reading :=
  if r.level < nestingLimit then .ok { r with level := r.level + 1 } else .error .tooDeep

/-- Comes back from a collection. -/
def leave (r : Reading) : Reading := { r with level := r.level - 1 }

/-- Names a node, if there is a name for it. -/
def remember (r : Reading) (name : Option String) (n : Node) : Reading :=
  match name with
  | some name => { r with anchors := r.anchors.set name n }
  | none => r

/-- The anchor at the head of the tokens. -/
def takeAnchor (r : Reading) : Option String × Reading :=
  match r.tokens with
  | .anchor name _ :: rest => (some name, { r with tokens := rest })
  | _ => (none, r)

/-- The tag at the head of the tokens. -/
def takeTag (r : Reading) : Option (Option String × String) × Reading :=
  match r.tokens with
  | .tag handle suffix _ :: rest => (some (handle, suffix), { r with tokens := rest })
  | _ => (none, r)

/-- The place of the anchor or tag at the head of the tokens. -/
def place? (r : Reading) : Option Place :=
  match r.tokens with
  | .anchor _ place :: _ => some place
  | .tag _ _ place :: _ => some place
  | _ => none

/-- The anchor and tag of a node, in either order. -/
def takeProperties (r : Reading) :
    Option String × Option (Option String × String) × Reading :=
  match r.takeAnchor with
  | (some name, r) => let (tag, r) := r.takeTag; (some name, tag, r)
  | (none, r) =>
    match r.takeTag with
    | (none, r) => (none, none, r)
    | (some tag, r) => let (name, r) := r.takeAnchor; (name, some tag, r)

end Reading

/-- The full tag that a handle and suffix stand for. -/
def fullTag (handles : Handles) : Option String × String → Except Fault String
  | (none, suffix) => .ok suffix
  | (some handle, suffix) =>
    match handles.get? handle with
    | some stem => .ok (stem ++ suffix)
    | none => .error .undefinedTagHandle

/-- The tag of a collection that is given one or none. -/
def collectionTag (given : Option String) (usual : Tag) : Tag :=
  match given with
  | none => usual
  | some "!" => usual
  | some name => Tag.ofName name

/-- The tag of a scalar. A plain scalar without a tag, and any with the tag `!`, has the tag that
its text implies. -/
def scalarTag (given : Option String) (text : String) (isPlain : Bool) : Tag :=
  match given with
  | none => if isPlain then Tag.ofPlain text else .text
  | some "!" => Tag.ofPlain text
  | some name => Tag.ofName name

/-- The node after an anchor and a tag, when no node is written. -/
def emptyNode (given : Option String) (place : Option Place) : Node :=
  .scalar (scalarTag given "" true) "" place

/-- Refuses a name that another node of the document has. -/
def checkAnchor (r : Reading) (anchor : Option String) : Except Fault Unit :=
  match anchor with
  | some name => if (r.anchors.get? name).isSome then .error .repeatedAnchor else .ok ()
  | none => .ok ()

mutual

/-- Reads a node. `inBlock` allows block collections, and `dangling` a block sequence that is not
indented by more than the mapping it is in. -/
def node (handles : Handles) (inBlock dangling : Bool) :
    Nat → Reading → Except Fault (Node × Reading)
  | 0, _ => .error .tooDeep
  | fuel + 1, r =>
    match r.tokens with
    | .alias name :: _ =>
      match r.anchors.get? name with
      | some n => .ok (n, r.skip)
      | none => .error .undefinedAlias
    | _ =>
      let place := r.place?
      let (anchor, given, r) := r.takeProperties
      let full : Except Fault (Option String) :=
        match given with
        | some g => (fullTag handles g).map some
        | none => .ok none
      full.bind fun full =>
      -- the node is remembered before its items are read, as one of them may refer to it
      let sequence (read : Reading → Except Fault (List Node × Reading)) (r : Reading) :
          Except Fault (Node × Reading) :=
        let tag := collectionTag full .sequence
        (checkAnchor r anchor).bind fun _ =>
        (r.remember anchor (.ofItems tag [] place)).enter.bind fun r =>
        (read r).map fun (items, r) =>
          let n := Node.ofItems tag items place
          (n, r.leave.remember anchor n)
      let mapping (read : Reading → Except Fault (List (Node × Node) × Reading)) (r : Reading) :
          Except Fault (Node × Reading) :=
        let tag := collectionTag full .mapping
        (checkAnchor r anchor).bind fun _ =>
        (r.remember anchor (.ofEntries tag [])).enter.bind fun r =>
        (read r).map fun (entries, r) =>
          let n := Node.ofEntries tag entries
          (n, r.leave.remember anchor n)
      let scalar (n : Node) (r : Reading) : Except Fault (Node × Reading) :=
        (checkAnchor r anchor).map fun _ => (n, r.remember anchor n)
      match r.tokens with
      | .scalar text isPlain :: _ =>
        scalar (.scalar (scalarTag full text isPlain) text place) r.skip
      | .flowSequenceStart :: _ => sequence (flowItems handles true fuel) r.skip
      | .flowMappingStart :: _ => mapping (flowEntries handles true fuel) r.skip
      | t :: _ =>
        if dangling && t == .blockEntry then sequence (danglingItems handles fuel) r
        else if inBlock && t == .blockSequenceStart then sequence (blockItems handles fuel) r.skip
        else if inBlock && t == .blockMappingStart then mapping (blockEntries handles fuel) r.skip
        else if anchor.isSome || full.isSome then scalar (emptyNode full place) r
        else .error .missingNode
      | [] =>
        if anchor.isSome || full.isSome then scalar (emptyNode full place) r
        else .error .missingNode

/-- Reads the node that follows an indicator, or none if one of some tokens comes next. -/
def nodeUnless (handles : Handles) (inBlock dangling : Bool) (ends : List Token) :
    Nat → Reading → Except Fault (Node × Reading)
  | 0, _ => .error .tooDeep
  | fuel + 1, r =>
    if r.isAt ends then .ok (.absent, r) else node handles inBlock dangling fuel r

/-- Reads the items of a block sequence and its end. -/
def blockItems (handles : Handles) : Nat → Reading → Except Fault (List Node × Reading)
  | 0, _ => .error .tooDeep
  | fuel + 1, r =>
    match r.tokens with
    | .blockEntry :: _ =>
      (nodeUnless handles true false [.blockEntry, .blockEnd] fuel r.skip).bind fun (n, r) =>
        (blockItems handles fuel r).map fun (ns, r) => (n :: ns, r)
    | .blockEnd :: _ => .ok ([], r.skip)
    | _ => .error .unclosedBlock

/-- Reads the items of a block sequence that has no end of its own. -/
def danglingItems (handles : Handles) : Nat → Reading → Except Fault (List Node × Reading)
  | 0, _ => .error .tooDeep
  | fuel + 1, r =>
    match r.tokens with
    | .blockEntry :: _ =>
      (nodeUnless handles true false [.blockEntry, .key, .value, .blockEnd] fuel r.skip).bind
        fun (n, r) => (danglingItems handles fuel r).map fun (ns, r) => (n :: ns, r)
    | _ => .ok ([], r)

/-- Reads the entries of a block mapping and its end. -/
def blockEntries (handles : Handles) :
    Nat → Reading → Except Fault (List (Node × Node) × Reading)
  | 0, _ => .error .tooDeep
  | fuel + 1, r =>
    let ends : List Token := [.key, .value, .blockEnd]
    match r.tokens with
    | .key :: _ =>
      (nodeUnless handles true true ends fuel r.skip).bind fun (k, r) =>
      -- a key without a colon has no value
      let value := match r.tokens with
        | .value :: _ => nodeUnless handles true true ends fuel r.skip
        | _ => .ok (.absent, r)
      value.bind fun (v, r) =>
      (blockEntries handles fuel r).map fun (es, r) => ((k, v) :: es, r)
    | .blockEnd :: _ => .ok ([], r.skip)
    | _ => .error .unclosedBlock

/-- Reads the items of a flow sequence and its end. An item may be a mapping of one entry. -/
def flowItems (handles : Handles) (first : Bool) :
    Nat → Reading → Except Fault (List Node × Reading)
  | 0, _ => .error .tooDeep
  | fuel + 1, r =>
    match r.tokens with
    | .flowSequenceEnd :: _ => .ok ([], r.skip)
    | t :: _ =>
      if !first && t != .flowEntry then .error .unclosedFlow
      else
        let r := if first then r else r.skip
        match r.tokens with
        | .flowSequenceEnd :: _ => .ok ([], r.skip)
        -- a pair among the items is a mapping of its own
        | .key :: _ =>
          r.skip.enter.bind fun r =>
          (nodeUnless handles false false [.value, .flowEntry, .flowSequenceEnd] fuel r).bind
            fun (k, r) =>
          let value := match r.tokens with
            | .value :: _ =>
              nodeUnless handles false false [.flowEntry, .flowSequenceEnd] fuel r.skip
            | _ => .ok (.absent, r)
          value.bind fun (v, r) =>
          (flowItems handles false fuel r.leave).map fun (ns, r) =>
            (.ofEntries .mapping [(k, v)] :: ns, r)
        | _ =>
          (node handles false false fuel r).bind fun (n, r) =>
            (flowItems handles false fuel r).map fun (ns, r) => (n :: ns, r)
    | [] => .error .unclosedFlow

/-- Reads the entries of a flow mapping and its end. -/
def flowEntries (handles : Handles) (first : Bool) :
    Nat → Reading → Except Fault (List (Node × Node) × Reading)
  | 0, _ => .error .tooDeep
  | fuel + 1, r =>
    match r.tokens with
    | .flowMappingEnd :: _ => .ok ([], r.skip)
    | t :: _ =>
      if !first && t != .flowEntry then .error .unclosedFlow
      else
        let r := if first then r else r.skip
        match r.tokens with
        | .flowMappingEnd :: _ => .ok ([], r.skip)
        | .key :: _ =>
          (nodeUnless handles false false [.value, .flowEntry, .flowMappingEnd] fuel r.skip).bind
            fun (k, r) =>
          let value := match r.tokens with
            | .value :: _ =>
              nodeUnless handles false false [.flowEntry, .flowMappingEnd] fuel r.skip
            | _ => .ok (.absent, r)
          value.bind fun (v, r) =>
          (flowEntries handles false fuel r).map fun (es, r) => ((k, v) :: es, r)
        | _ =>
          (node handles false false fuel r).bind fun (k, r) =>
            (flowEntries handles false fuel r).map fun (es, r) => ((k, .absent) :: es, r)
    | [] => .error .unclosedFlow

end

/-! ## Documents -/

/-- The handles that the directives at the head of the tokens define. -/
def takeDirectives : Bool → Handles → List Token → Except Fault (Handles × List Token)
  | versioned, handles, .directive d :: rest =>
    match d with
    | .version major =>
      -- a version is given once, and is the first
      if versioned || major != 1 then .error .malformedDirective
      else takeDirectives true handles rest
    | .tagHandle handle stem =>
      if (handles.get? handle).isSome then .error .malformedDirective
      else takeDirectives versioned (handles.set handle stem) rest
    | .other => takeDirectives versioned handles rest
  | _, handles, rest => .ok (handles, rest)

/-- Handles together with those that need no directive, unless they are defined anew. -/
def withStandard (handles : Handles) : Handles :=
  standardHandles.foldl
    (fun all h => if (all.get? h.1).isSome then all else all.set h.1 h.2) handles

/-- Whether a document after its start is empty. -/
def isEmptyDocument : List Token → Bool
  | [] => true
  | .directive _ :: _ => true
  | .documentStart :: _ => true
  | .documentEnd :: _ => true
  | _ => false

/-- The node of a document that starts with its content. -/
def documentNode (handles : Handles) (tokens : List Token) : Except Fault (Node × List Token) :=
  (node handles true false (6 * tokens.length + 6) ⟨tokens, [], 0⟩).map fun (n, r) => (n, r.tokens)

/-- The text after a document: ends of documents, and nothing else. -/
def finishStream (tokens : List Token) : Except Fault Unit :=
  if (tokens.dropWhile (· == .documentEnd)).isEmpty then .ok () else .error .severalDocuments

/-- The node of the one document of some tokens, if there is a document. -/
def Node.ofTokens (tokens : List Token) : Except Fault (Option Node) :=
  match tokens with
  | [] => .ok none
  | .directive _ :: _ => explicit tokens
  | .documentStart :: _ => explicit tokens
  | _ =>
    (documentNode standardHandles tokens).bind fun (n, rest) =>
      (finishStream rest).map fun _ => some n
where
  explicit (tokens : List Token) : Except Fault (Option Node) :=
    (takeDirectives false [] tokens).bind fun (handles, rest) =>
      match rest with
      | .documentStart :: content =>
        let content : Except Fault (Node × List Token) :=
          if isEmptyDocument content then .ok (.absent, content)
          else documentNode (withStandard handles) content
        content.bind fun (n, rest) => (finishStream rest).map fun _ => some n
      | _ => .error .missingDocumentStart

/-- Reads the one document of a YAML text; a text without a document is `null`. -/
def read : Decoder := fun text =>
  match (tokens text).bind Node.ofTokens with
  | .error f => .error f.decodeFault
  | .ok none => .ok .null
  | .ok (some n) => n.meaning.mapError Prod.snd

end Parlance.Yaml
