import ApiModel.Document.Datum

/-!
# Documents as they are written

A document is a tree of scalars, lists and maps, in which a place may also refer back to a
node that was marked before. What a scalar means depends on what is asked of it, so a scalar
is kept as the answers to the questions that readers ask.

## Main definitions

* `Scalar`, `Node`, `Document`: a document.
* `Reading`: reading a part of a document. It counts how many references back it may still
  follow.
* `Node.buffer`: a node as it stands.
* `Read`: readers for content of a known form.
-/

namespace ApiModel

/-- A scalar, as the answers to what a reader may ask of it. -/
structure Scalar where
  /-- Its text, where a text is wanted. -/
  text : Option String := none
  /-- Its truth value, where one is wanted. -/
  flag : Option Bool := none
  /-- Whether it stands for nothing given, where something may be missing. -/
  absent : Option Bool := some false
  /-- Whether nothing is written at all, which is also an empty list, map or record. -/
  blank : Bool := false
  /-- The keyword, where one of several is wanted. -/
  choice : Option String := none
  /-- Its value, where no particular type is wanted. -/
  datum : Option Datum := none
  deriving Inhabited

/-- A node of a document. A list or map may carry a tag of its own type, which only a reader
of a known form passes over. -/
inductive Node where
  | scalar (s : Scalar)
  | list (tagged : Bool) (items : List Node)
  | map (tagged : Bool) (entries : List (Node × Node))
  | reference (mark : Nat)
  deriving Inhabited

/-- A document with the nodes that it marks. -/
structure Document where
  /-- The topmost node. -/
  root : Node
  /-- The marked nodes. -/
  marks : List (Nat × Node) := []
  /-- How deep lists and maps may be nested where they are read. -/
  levels : Nat
  /-- How many references back may be followed. -/
  jumps : Nat := 0
  /-- Whether a record whose form is known may be written as the list of its fields. -/
  positional : Bool := false

/-! ### Reading -/

/-- Reading a part of a document: the whole document is known, and the number of references
that may still be followed is counted down. -/
abbrev Reading (α : Type) : Type := ReaderT Document (StateT Nat Option) α

/-- Takes an answer that may be missing. -/
def Reading.ofOption {α : Type} : Option α → Reading α
  | some a => pure a
  | none => failure

namespace Node

/-- A node, or the node that it refers back to. -/
def follow : Node → Reading Node
  | reference mark => do
    match ← get with
    | 0 => failure
    | n + 1 =>
      set n
      Reading.ofOption ((← read).marks.lookup mark)
  | node => pure node

/-- A node as it stands, with at most `levels` nested lists and maps. -/
def buffer : Nat → Node → Reading Datum
  | 0, node => do
    match ← node.follow with
    | scalar s => Reading.ofOption s.datum
    | _ => failure
  | n + 1, node => do
    match ← node.follow with
    | scalar s => Reading.ofOption s.datum
    | list false items => return .list (← items.mapM (buffer n))
    | map false entries =>
      return .map (← entries.mapM fun (k, v) => do return (← buffer n k, ← buffer n v))
    | _ => failure

end Node

/-- A reader for content of a known form, given how many levels may still be nested. -/
abbrev Read (α : Type) : Type := Nat → Node → Reading α

namespace Read

variable {α : Type}

/-- A text. -/
def text : Read String := fun _ node => do
  match ← node.follow with
  | .scalar s => Reading.ofOption s.text
  | _ => failure

/-- A truth value. -/
def flag : Read Bool := fun _ node => do
  match ← node.follow with
  | .scalar s => Reading.ofOption s.flag
  | _ => failure

/-- One of several keywords. -/
def choice (ofKeyword? : String → Option α) : Read α := fun _ node => do
  match ← node.follow with
  | .scalar s => Reading.ofOption (s.choice.bind ofKeyword?)
  | _ => failure

/-- Content that may be missing. -/
def optional (inner : Read α) : Read (Option α) := fun levels node => do
  match ← node.follow with
  | .scalar s =>
    match s.absent with
    | some true => return none
    | some false => return some (← inner levels (.scalar s))
    | none => failure
  | node => return some (← inner levels node)

/-- A list of items of one form. -/
def list (inner : Read α) : Read (List α) := fun levels node => do
  match levels, ← node.follow with
  | n + 1, .list _ items => items.mapM (inner n)
  | _, .scalar s => if s.blank then return [] else failure
  | _, _ => failure

/-- A map from texts. -/
def map (inner : Read α) : Read (List (String × α)) := fun levels node => do
  match levels, ← node.follow with
  | n + 1, .map _ entries =>
    let pairs ← entries.mapM fun (k, v) => do return (← text n k, ← inner n v)
    return ofEntries pairs
  | _, .scalar s => if s.blank then return [] else failure
  | _, _ => failure

/-- A record with given fields, by name or, where the document allows it, as a list. The
continuation reads the fields, given how many levels may still be nested in them. -/
def record (fields : List String) (build : Nat → Slots Node → Reading α) : Read α :=
  fun levels node => do
    match levels, ← node.follow with
    | n + 1, .map _ entries =>
      let pairs ← entries.mapM fun (k, v) => do return (some (← text n k), v)
      build n (← Reading.ofOption (Slots.named fields pairs))
    | n + 1, .list _ items =>
      if (← read).positional then
        build n (← Reading.ofOption (Slots.positional fields items))
      else failure
    | _, .scalar s => if s.blank then build levels ⟨true, []⟩ else failure
    | _, _ => failure

/-- Content that is read as it stands before its form is known. -/
def buffered (decode : Datum → Option α) : Read α := fun levels node => do
  Reading.ofOption (decode (← node.buffer levels))

end Read

/-- Reads a whole document. -/
def Document.read {α : Type} (document : Document) (reader : Read α) : Option α :=
  ((reader document.levels document.root).run document).run' document.jumps

end ApiModel
