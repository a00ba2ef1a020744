import ApiModel.Yaml.Token

/-!
# Positions in a YAML text

## Main definitions

* `Yaml.Position`: line and column of the next character, and its distance from the start of the
  line in octets.
* `Yaml.Fold`: the blanks and line breaks between two pieces of a scalar, and what they
  become when the pieces are joined.
-/

namespace ApiModel.Yaml

/-- Where the next character stands. -/
structure Position where
  /-- The number of line breaks before it. -/
  line : Nat := 0
  /-- The number of characters before it on its line. -/
  column : Nat := 0
  /-- The number of octets before it on its line. -/
  offset : Nat := 0
  deriving DecidableEq, Repr, Inhabited

namespace Position

/-- The position after a character of the line. -/
def next (p : Position) (c : Char) : Position :=
  { p with column := p.column + 1, offset := p.offset + c.utf8Size }

/-- The position after several characters of the line. -/
def advance (p : Position) (cs : List Char) : Position := cs.foldl next p

/-- The position after several characters of the line that take one octet each. -/
def ahead (p : Position) (n : Nat) : Position :=
  { p with column := p.column + n, offset := p.offset + n }

/-- The position after a line break. -/
def newline (p : Position) : Position := ⟨p.line + 1, 0, 0⟩

end Position

/-- The gap between two pieces of a scalar that is written over several lines: blanks of one
line, or a first line break with the further ones, in reverse order. A first line break that
was escaped is not kept. -/
inductive Fold where
  | blanks (reversed : List Char)
  | lines (first : Option Char) (reversed : List Char)
  deriving Repr

namespace Fold

/-- No gap. -/
def none : Fold := blanks []

/-- Whether a line break was met. -/
def isLines : Fold → Bool
  | lines _ _ => true
  | blanks _ => false

/-- The gap with a blank behind it. Blanks of later lines are indentation. -/
def addBlank (f : Fold) (c : Char) : Fold :=
  match f with
  | blanks cs => blanks (c :: cs)
  | lines first more => lines first more

/-- The gap with a line break behind it. Blanks at the end of a line are dropped. -/
def addBreak (f : Fold) (c : Char) : Fold :=
  match f with
  | blanks _ => lines (some c) []
  | lines first more => lines first (c :: more)

/-- What the gap becomes, in reverse order: blanks stay; a single line feed is a space, and of
several the first is dropped; other line breaks stay. -/
def joined : Fold → List Char
  | blanks cs => cs
  | lines (some '\n') [] => [' ']
  | lines (some '\n') more => more
  | lines (some c) more => more ++ [c]
  | lines Option.none more => more

end Fold

end ApiModel.Yaml
