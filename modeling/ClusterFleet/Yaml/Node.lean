import ClusterFleet.Yaml.Token

/-!
# YAML — nodes

The tree that tokens stand for. A named node carries a label, and a use of the name carries the
label too. A label is the number of different names met before, so a name that is used for a second
node gives the later one a label of its own, which the next new name then shares.

A node that is left out is empty plain text.
-/

namespace ClusterFleet

namespace Yaml

/-- A node of a document. -/
inductive Node where
  /-- A node that stands elsewhere under a label. -/
  | alias (label : Nat)
  /-- A piece of text, with its tag and whether it is written plainly. -/
  | scalar (label : Option Nat) (tag : Option String) (isPlain : Bool) (text : String)
  /-- A sequence. -/
  | sequence (label : Option Nat) (items : List Node)
  /-- A mapping, its entries in the order they are written. -/
  | mapping (label : Option Nat) (entries : List (Node × Node))

instance : Inhabited Node := ⟨.alias 0⟩

namespace Node

/-- The label of a node that is named. -/
def label? : Node → Option Nat
  | .alias _ => none
  | .scalar label _ _ _ => label
  | .sequence label _ => label
  | .mapping label _ => label

mutual

/-- All nodes of a tree, each before the nodes within it. -/
def nodes : Node → List Node
  | .alias label => [.alias label]
  | .scalar label tag isPlain text => [.scalar label tag isPlain text]
  | .sequence label items => .sequence label items :: nodesOfItems items
  | .mapping label entries => .mapping label entries :: nodesOfEntries entries

/-- All nodes of the items of a sequence. -/
def nodesOfItems : List Node → List Node
  | [] => []
  | n :: rest => n.nodes ++ nodesOfItems rest

/-- All nodes of the entries of a mapping. -/
def nodesOfEntries : List (Node × Node) → List Node
  | [] => []
  | (k, v) :: rest => k.nodes ++ v.nodes ++ nodesOfEntries rest

end

/-- The node that stands under a label in a document: the last one that has it. -/
def labelled? (root : Node) (label : Nat) : Option Node :=
  root.nodes.reverse.find? fun n => n.label? = some label

end Node

/-! ## The parts of a document -/

/-- What is left of a document, and what is known so far. -/
structure Parse where
  /-- The tokens that are left. -/
  tokens : List Token
  /-- The names so far with their labels. -/
  names : List (String × Nat)
  /-- What the handles of tags stand for. -/
  handles : List (String × String)

namespace Parse

/-- Goes over a token. -/
def skip (p : Parse) : Parse :=
  { p with tokens := p.tokens.tail }

/-- Gives a name to a node: the label is the number of names before. -/
def define (name : String) (p : Parse) : Nat × Parse :=
  let label := p.names.length
  (label, { p with names := (name, label) :: p.names.filter fun q => q.1 ≠ name })

/-- The tag that a written tag stands for; none if its handle stands for nothing. -/
def resolve? (t : TagText) (p : Parse) : Option String :=
  if t.handle.isEmpty then some t.rest
  else (p.handles.lookup t.handle).map (· ++ t.rest)

/-- What stands before a node. -/
structure Marks where
  /-- The label of the node. -/
  label : Option Nat
  /-- The tag of the node. -/
  tag : Option String

/-- Nothing stands before a node. -/
def Marks.none : Marks := ⟨.none, .none⟩

/-- An empty node. -/
def Marks.emptyNode (m : Marks) : Node :=
  .scalar m.label m.tag true ""

/-- A node that is left out. -/
def missing : Node :=
  Marks.none.emptyNode

/-- The name and the tag before a node, in either order. The tag is told as it is written. -/
def readMarks (p : Parse) : Option String × Option TagText × Parse :=
  match p.tokens with
  | .anchor name :: .tag t :: rest => (some name, some t, { p with tokens := rest })
  | .tag t :: .anchor name :: rest => (some name, some t, { p with tokens := rest })
  | .anchor name :: rest => (some name, .none, { p with tokens := rest })
  | .tag t :: rest => (.none, some t, { p with tokens := rest })
  | _ => (.none, .none, p)

/-- What stands before a node, with the label and the tag found. -/
def marks (p : Parse) : Option (Marks × Parse) := do
  let (name, written, p) := p.readMarks
  let tag ← match written with
    | .none => some .none
    | some t => (p.resolve? t).map some
  match name with
  | .none => return (⟨.none, tag⟩, p)
  | some name =>
    let (label, p) := p.define name
    return (⟨some label, tag⟩, p)

/-- The tag of a piece of text: the exclamation mark alone says nothing about it. -/
def scalarTag (tag : Option String) : Option String :=
  tag.filter (· ≠ "!")

/-- Where a node stands, which decides what may be left out and what a dash means. -/
inductive Place where
  /-- Within brackets. -/
  | flow
  /-- In a block. -/
  | block
  /-- After a key in a block, where the items of a sequence need no indentation. -/
  | entry
  deriving DecidableEq, Repr

/-- Whether no node follows in a block: the next entry or the end comes at once. -/
def endsBlockEntry : List Token → Bool
  | .key :: _ => true
  | .value :: _ => true
  | .blockEnd :: _ => true
  | _ => false

/-- Whether no node follows in a sequence in a block. -/
def endsItem : List Token → Bool
  | .blockEntry :: _ => true
  | .blockEnd :: _ => true
  | _ => false

/-- Whether no node follows in a mapping in braces. -/
def endsFlowEntry : List Token → Bool
  | .flowEntry :: _ => true
  | .flowMappingEnd :: _ => true
  | _ => false

/-- Whether no value follows in a sequence in brackets. -/
def endsFlowItem : List Token → Bool
  | .flowEntry :: _ => true
  | .flowSequenceEnd :: _ => true
  | _ => false

mutual

/-- A node. -/
def node (place : Place) : Nat → Parse → Option (Node × Parse)
  | 0, _ => none
  | fuel + 1, p =>
    match p.tokens with
    | .alias name :: _ => (p.names.lookup name).map fun label => (.alias label, p.skip)
    | _ => do
      let (m, p) ← p.marks
      match p.tokens, place with
      | .blockEntry :: _, .entry =>
        let (items, p) ← bareItems fuel p
        return (.sequence m.label items, p)
      | .scalar isPlain text :: _, _ => return (.scalar m.label (scalarTag m.tag) isPlain text, p.skip)
      | .flowSequenceStart :: _, _ =>
        let (items, p) ← flowItems true fuel p.skip
        return (.sequence m.label items, p)
      | .flowMappingStart :: _, _ =>
        let (entries, p) ← flowEntries true fuel p.skip
        return (.mapping m.label entries, p)
      | .blockSequenceStart :: _, .block | .blockSequenceStart :: _, .entry =>
        let (items, p) ← blockItems fuel p.skip
        return (.sequence m.label items, p)
      | .blockMappingStart :: _, .block | .blockMappingStart :: _, .entry =>
        let (entries, p) ← blockEntries fuel p.skip
        return (.mapping m.label entries, p)
      | _, _ => if m.label.isSome || m.tag.isSome then return (m.emptyNode, p) else none

/-- The items of a sequence that has its own indentation. -/
def blockItems : Nat → Parse → Option (List Node × Parse)
  | 0, _ => none
  | fuel + 1, p =>
    match p.tokens with
    | .blockEntry :: rest => do
      let (item, p) ←
        if endsItem rest then some (missing, p.skip) else node .block fuel p.skip
      let (items, p) ← blockItems fuel p
      return (item :: items, p)
    | .blockEnd :: _ => some ([], p.skip)
    | _ => none

/-- The items of a sequence without indentation of its own, which ends with the last dash. -/
def bareItems : Nat → Parse → Option (List Node × Parse)
  | 0, _ => none
  | fuel + 1, p =>
    match p.tokens with
    | .blockEntry :: rest => do
      let (item, p) ←
        if endsItem rest || endsBlockEntry rest then some (missing, p.skip)
        else node .block fuel p.skip
      let (items, p) ← bareItems fuel p
      return (item :: items, p)
    | _ => some ([], p)

/-- The entries of a mapping by indentation. -/
def blockEntries : Nat → Parse → Option (List (Node × Node) × Parse)
  | 0, _ => none
  | fuel + 1, p =>
    match p.tokens with
    | .key :: rest => do
      let (k, p) ← if endsBlockEntry rest then some (missing, p.skip) else node .entry fuel p.skip
      let (v, p) ← blockValue fuel p
      let (entries, p) ← blockEntries fuel p
      return ((k, v) :: entries, p)
    | .blockEnd :: _ => some ([], p.skip)
    | _ => none

/-- The value of an entry by indentation. -/
def blockValue : Nat → Parse → Option (Node × Parse)
  | 0, _ => none
  | fuel + 1, p =>
    match p.tokens with
    | .value :: rest => if endsBlockEntry rest then some (missing, p.skip) else node .entry fuel p.skip
    | _ => some (missing, p)

/-- The items of a sequence in brackets. -/
def flowItems (isFirst : Bool) : Nat → Parse → Option (List Node × Parse)
  | 0, _ => none
  | fuel + 1, p =>
    match p.tokens, isFirst with
    | .flowSequenceEnd :: _, _ => some ([], p.skip)
    | .flowEntry :: .flowSequenceEnd :: _, false => some ([], p.skip.skip)
    | .flowEntry :: _, false => flowItem fuel p.skip
    | _, true => flowItem fuel p
    | _, false => none

/-- An item in brackets with those after it. It may be a single entry of a mapping. -/
def flowItem : Nat → Parse → Option (List Node × Parse)
  | 0, _ => none
  | fuel + 1, p => do
    let (item, p) ← match p.tokens with
      | .key :: _ => singleEntry fuel p.skip
      | _ => node .flow fuel p
    let (items, p) ← flowItems false fuel p
    return (item :: items, p)

/-- A mapping of a single entry in brackets, after the sign for a key. If the key is left out, what
stands in its place is passed over. -/
def singleEntry : Nat → Parse → Option (Node × Parse)
  | 0, _ => none
  | fuel + 1, p => do
    let isMissing := match p.tokens with
      | .value :: _ => true
      | rest => endsFlowItem rest
    let (k, p) ← if isMissing then some (missing, p.skip) else node .flow fuel p
    let (v, p) ← match p.tokens with
      | .value :: rest => if endsFlowItem rest then some (missing, p.skip) else node .flow fuel p.skip
      | _ => some (missing, p)
    return (.mapping .none [(k, v)], p)

/-- The entries of a mapping in braces. -/
def flowEntries (isFirst : Bool) : Nat → Parse → Option (List (Node × Node) × Parse)
  | 0, _ => none
  | fuel + 1, p =>
    match p.tokens, isFirst with
    | .flowMappingEnd :: _, _ => some ([], p.skip)
    | .flowEntry :: .flowMappingEnd :: _, false => some ([], p.skip.skip)
    | .flowEntry :: _, false => flowEntry fuel p.skip
    | _, true => flowEntry fuel p
    | _, false => none

/-- An entry in braces with those after it. Only a key with its own sign can have a value. -/
def flowEntry : Nat → Parse → Option (List (Node × Node) × Parse)
  | 0, _ => none
  | fuel + 1, p => do
    let (k, v, p) ← match p.tokens with
      | .key :: rest => do
        let isMissing := match rest with
          | .value :: _ => true
          | rest => endsFlowEntry rest
        let (k, p) ← if isMissing then some (missing, p.skip) else node .flow fuel p.skip
        let (v, p) ← flowValue fuel p
        some (k, v, p)
      | _ => do
        let (k, p) ← node .flow fuel p
        some (k, missing, p)
    let (entries, p) ← flowEntries false fuel p
    return ((k, v) :: entries, p)

/-- The value of an entry in braces. -/
def flowValue : Nat → Parse → Option (Node × Parse)
  | 0, _ => none
  | fuel + 1, p =>
    match p.tokens with
    | .value :: rest => if endsFlowEntry rest then some (missing, p.skip) else node .flow fuel p.skip
    | _ => some (missing, p)

end

/-! ## The document -/

/-- The handles that need no directive. -/
def defaultHandles : List (String × String) :=
  [("!", "!"), ("!!", "tag:yaml.org,2002:")]

/-- The directives before a document: at most one for the version, which must be 1.1 or 1.2, and at
most one for each handle. -/
def directives : Bool → List (String × String) → List Token → Option (List (String × String) × List Token)
  | hasVersion, handles, .directive (.version major minor) :: rest =>
    if hasVersion || major ≠ 1 || (minor ≠ 1 && minor ≠ 2) then none
    else directives true handles rest
  | hasVersion, handles, .directive (.tag handle start) :: rest =>
    if (handles.lookup handle).isSome then none
    else directives hasVersion ((handle, start) :: handles) rest
  | _, handles, rest => some (handles, rest)

/-- Whether a document that begins with its mark has nothing in it. -/
def isBare : List Token → Bool
  | [] => true
  | .directive _ :: _ => true
  | .documentStart :: _ => true
  | .documentEnd :: _ => true
  | _ => false

/-- The node of a document from its tokens, and the tokens after it. -/
def document (tokens : List Token) : Option (Node × List Token) := do
  let (handles, rest) ← directives false [] tokens
  let fuel := 4 * tokens.length + 4
  let handles := handles ++ defaultHandles
  match rest with
  | .documentStart :: rest =>
    if isBare rest then return (missing, rest)
    let (n, p) ← node .block fuel ⟨rest, [], handles⟩
    return (n, p.tokens)
  | _ =>
    if tokens.length ≠ rest.length then none
    let (n, p) ← node .block fuel ⟨rest, [], handles⟩
    return (n, p.tokens)

end Parse

/-- The only document of a text. The text may have none, which is then told by nothing inside. -/
def Node.read (text : List Char) : Option (Option Node) := do
  match ← tokens? text with
  | [] => return none
  | tokens =>
    let (n, rest) ← Parse.document tokens
    if rest.all (· matches .documentEnd) then return some n else none

end Yaml

end ClusterFleet
