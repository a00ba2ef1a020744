import ApiModel.Yaml.Lexer
import ApiModel.Yaml.Scalar

/-!
# From tokens to a document

A stream holds at most one document. A node may carry an anchor, under which later nodes
refer back to it, and a tag. What is left out is an empty plain scalar.

## Main definitions

* `Yaml.Builder`: the state while the tree is built.
* `Yaml.Build.node`: one node with all that is below it.
* `Yaml.documentOf`: the document of a list of tokens.
-/

namespace ApiModel.Yaml

/-- The state while the tree is built. -/
structure Builder where
  /-- The tokens that are left. -/
  rest : List Token
  /-- What tag handles stand for. -/
  handles : List (String × List UInt8)
  /-- The mark that each anchor stands for. -/
  anchors : List (String × Nat) := []
  /-- The node to which a mark belongs, the latest first. -/
  owners : List (Nat × Nat) := []
  /-- How many nodes have been marked. -/
  marked : Nat := 0
  /-- The marked nodes that are complete. -/
  nodes : List (Nat × Node) := []
  /-- How many scalars, references, and starts and ends of collections were met. -/
  events : Nat := 0

/-- Building a part of the tree. -/
abbrev Build (α : Type) : Type := StateT Builder Option α

namespace Build

/-- The next token. -/
def peek : Build (Option Token) := do return (← get).rest.head?

/-- Passes over the next token. -/
def skip : Build Unit := modify fun b => { b with rest := b.rest.tail }

/-- Counts scalars, references, and starts and ends of collections. -/
def count (n : Nat) : Build Unit := modify fun b => { b with events := b.events + n }

/-- Whether the next token is one of the given ones; the end of the stream is none. -/
def sees (tokens : List Token) : Build Bool := do return (← peek).any tokens.contains

/-- What stands where nothing is written. -/
def blank (tag : Option Tag) : Build Node := do
  count 1
  return .scalar (scalarOf tag .plain "")

/-! ### Properties of a node -/

/-- The tag of a handle and a suffix. -/
def tagOf (handle : String) (suffix : List UInt8) : Build Tag := do
  if handle.isEmpty then return .ofOctets suffix
  match (← get).handles.lookup handle with
  | some leading => return .ofOctets (leading ++ suffix)
  | none => failure

/-- The anchor and the tag of a node, in either order. -/
def properties : Build (Option String × Option Tag) := do
  match ← peek with
  | some (.anchor name) =>
    skip
    match ← peek with
    | some (.tag handle suffix) =>
      skip
      return (some name, some (← tagOf handle suffix))
    | _ => return (some name, none)
  | some (.tag handle suffix) =>
    skip
    let anchor ← match ← peek with
      | some (.anchor name) => do
        skip
        pure (some name)
      | _ => pure none
    return (anchor, some (← tagOf handle suffix))
  | _ => return (none, none)

/-- Marks the node that starts here: the mark is the number of anchors so far, so an anchor
that is used again may leave its mark to a later one. The answer is the number of the node
among the marked ones. -/
def mark (anchor : String) : Build Nat := do
  let b ← get
  let mark := b.anchors.length
  set { b with
    anchors := (anchor, mark) :: b.anchors.filter fun a => a.1 ≠ anchor
    owners := (mark, b.marked) :: b.owners
    marked := b.marked + 1 }
  return b.marked

/-- Keeps a marked node that is complete. -/
def keep (number : Option Nat) (node : Node) : Build Node := do
  match number with
  | some n => modify fun b => { b with nodes := (n, node) :: b.nodes }
  | none => pure ()
  return node

/-! ### Nodes -/

mutual

/-- One node with all that is below it. Block collections stand where `block` holds, and
where `bare` holds a sequence need not be indented. The first argument bounds the depth of
the recursion. -/
def node : Nat → (block bare : Bool) → Build Node
  | 0, _, _ => failure
  | n + 1, block, bare => do
    match ← peek with
    | some (.reference name) =>
      skip
      count 1
      match (← get).anchors.lookup name with
      | some mark => return .reference mark
      | none => failure
    | _ =>
      let (anchor, tag) ← properties
      let number ← anchor.mapM mark
      let own := (tag.bind Tag.ownName?).isSome
      let found ← match ← peek, block, bare with
        | some .blockEntry, _, true => do
          count 2
          pure (.list own (← bareItems n))
        | some (.scalar style text), _, _ => do
          skip
          count 1
          pure (.scalar (scalarOf tag style text))
        | some .flowSequenceStart, _, _ => do
          skip
          count 2
          pure (.list own (← flowItems n true))
        | some .flowMappingStart, _, _ => do
          skip
          count 2
          pure (.map own (← flowEntries n true))
        | some .blockSequenceStart, true, _ => do
          skip
          count 2
          pure (.list own (← blockItems n))
        | some .blockMappingStart, true, _ => do
          skip
          count 2
          pure (.map own (← blockEntries n))
        | _, _, _ => if anchor.isNone ∧ tag.isNone then failure else blank tag
      keep number found

/-- A node, or nothing written before one of the given tokens. -/
def nodeUnless : Nat → (block bare : Bool) → List Token → Build Node
  | 0, _, _, _ => failure
  | n + 1, block, bare, ends => do
    if ← sees ends then blank none else node n block bare

/-- The items of an indented sequence. -/
def blockItems : Nat → Build (List Node)
  | 0 => failure
  | n + 1 => do
    match ← peek with
    | some .blockEntry =>
      skip
      let item ← nodeUnless n true false [.blockEntry, .blockEnd]
      return item :: (← blockItems n)
    | some .blockEnd =>
      skip
      return []
    | _ => failure

/-- The items of a sequence that is not indented. -/
def bareItems : Nat → Build (List Node)
  | 0 => failure
  | n + 1 => do
    match ← peek with
    | some .blockEntry =>
      skip
      let item ← nodeUnless n true false [.blockEntry, .key, .value, .blockEnd]
      return item :: (← bareItems n)
    | _ => return []

/-- The entries of an indented mapping. -/
def blockEntries : Nat → Build (List (Node × Node))
  | 0 => failure
  | n + 1 => do
    match ← peek with
    | some .key =>
      skip
      let key ← nodeUnless n true true [.key, .value, .blockEnd]
      let value ← valueOf n true [.key, .value, .blockEnd]
      return (key, value) :: (← blockEntries n)
    | some .blockEnd =>
      skip
      return []
    | _ => failure

/-- The value behind a key, if there is a colon. -/
def valueOf : Nat → (block : Bool) → List Token → Build Node
  | 0, _, _ => failure
  | n + 1, block, ends => do
    match ← peek with
    | some .value =>
      skip
      nodeUnless n block block ends
    | _ => blank none

/-- The items of a sequence in brackets. A pair is a mapping of its own; where its key is
missing, the token in the place of the key is passed over. -/
def flowItems : Nat → (first : Bool) → Build (List Node)
  | 0, _ => failure
  | n + 1, first => do
    if !first && !(← sees [.flowSequenceEnd]) then
      if ← sees [.flowEntry] then skip else failure
    match ← peek with
    | some .flowSequenceEnd =>
      skip
      return []
    | some .key =>
      skip
      count 2
      let missing ← sees [.value, .flowEntry, .flowSequenceEnd]
      if missing then skip
      let key ← if missing then blank none else node n false false
      let value ← valueOf n false [.flowEntry, .flowSequenceEnd]
      return .map false [(key, value)] :: (← flowItems n false)
    | _ =>
      let item ← node n false false
      return item :: (← flowItems n false)

/-- The entries of a mapping in braces. An item without colon is a key. -/
def flowEntries : Nat → (first : Bool) → Build (List (Node × Node))
  | 0, _ => failure
  | n + 1, first => do
    if !first && !(← sees [.flowMappingEnd]) then
      if ← sees [.flowEntry] then skip else failure
    match ← peek with
    | some .flowMappingEnd =>
      skip
      return []
    | some .key =>
      skip
      let key ← nodeUnless n false false [.value, .flowEntry, .flowMappingEnd]
      let value ← valueOf n false [.flowEntry, .flowMappingEnd]
      return (key, value) :: (← flowEntries n false)
    | _ =>
      let key ← node n false false
      let value ← blank none
      return (key, value) :: (← flowEntries n false)

end

/-! ### The document -/

/-- The tag handles that need no directive. -/
def usualHandles : List (String × List UInt8) :=
  [("!", octetsOf "!"), ("!!", octetsOf CoreType.space)]

/-- Reads the directives before a document: at most one version, 1.1 or 1.2, and every tag
handle at most once. The answer is whether there are any. -/
def directives (versioned : Bool) (handles : List (String × List UInt8)) :
    List Token → Option (List (String × List UInt8) × List Token)
  | .versionDirective major minor :: rest =>
    if !versioned && major = 1 && (minor = 1 || minor = 2) then directives true handles rest
    else none
  | .tagDirective handle leading :: rest =>
    if (handles.lookup handle).isSome then none
    else directives versioned ((handle, leading) :: handles) rest
  | rest => some (handles ++ usualHandles, rest)

/-- A document that starts with a marker may be left empty. -/
def content (n : Nat) (explicit : Bool) : Build Node := do
  let ends : Bool :=
    match ← peek with
    | none => true
    | some .documentStart | some .documentEnd => true
    | some (.versionDirective _ _) | some (.tagDirective _ _) => true
    | _ => false
  if explicit ∧ ends then blank none else node n true false

/-- The only document of a stream. -/
def wholeDocument (n : Nat) (explicit : Bool) : Build Node := do
  let root ← content n explicit
  let rest := (← get).rest.dropWhile (· == .documentEnd)
  if rest.isEmpty then return root else failure

end Build

/-- The document of a list of tokens. Lists and maps may be nested 128 deep, and a hundred
times as many references may be followed as there are nodes. -/
def documentOf (tokens : List Token) : Option Document := do
  let (handles, rest) ← Build.directives false [] tokens
  let (explicit, rest) ←
    match decide (rest.length < tokens.length), rest with
    | _, .documentStart :: rest => some (true, rest)
    | false, rest => some (false, rest)
    | true, _ => none
  if tokens.isEmpty then return { root := .scalar (scalarOf none .plain ""), levels := 128 }
  let fuel := 4 * tokens.length + 4
  let (root, b) ← (Build.wholeDocument fuel explicit).run { rest, handles }
  return {
    root
    marks := b.owners.filterMap fun (mark, number) => (b.nodes.lookup number).map (mark, ·)
    levels := 128
    jumps := 100 * b.events }

end ApiModel.Yaml
