import ApiModel.Yaml.QuotedScalar

/-!
# Tags of YAML nodes

A tag is made of octets. Most stand for themselves; others are written as two hexadecimal
digits behind `%`, several of them in the number that the leading one of a UTF-8 sequence asks
for. Nothing else is asked of such a sequence, so the octets of a tag need not be a text. A
zero octet ends the tag, and what is written behind it does not count.

## Main definitions

* `Yaml.tagOctets`: the octets that the characters of a tag stand for.
* `Yaml.Tag`: what a tag asks for.
* `Yaml.Tag.ofOctets`: what the octets of a tag ask for.
-/

namespace ApiModel.Yaml

/-! ### Octets -/

/-- How many octets follow the leading one of a sequence. -/
def octetsAfter (leading : Nat) : Option Nat :=
  if leading < 0x80 then some 0
  else if 0xC0 ≤ leading ∧ leading < 0xE0 then some 1
  else if 0xE0 ≤ leading ∧ leading < 0xF0 then some 2
  else if 0xF0 ≤ leading ∧ leading < 0xF8 then some 3
  else none

/-- The octets that characters stand for, where the sequence before them still lacks a number
of octets, each of them written in hexadecimal digits. -/
def octetsLacking : Nat → List Char → Option (List UInt8)
  | 0, [] => some []
  | _ + 1, [] => none
  | lacking, '%' :: a :: b :: rest => do
    let octet ← hexNumber [a, b]
    let lacking ←
      match lacking with
      | 0 => octetsAfter octet
      | n + 1 => if 0x80 ≤ octet ∧ octet < 0xC0 then some n else none
    return UInt8.ofNat octet :: (← octetsLacking lacking rest)
  | 0, c :: rest => do
    if c = '%' then none
    return UInt8.ofNat c.toNat :: (← octetsLacking 0 rest)
  | _ + 1, _ :: _ => none

/-- The octets that the characters of a tag stand for, up to a zero octet. -/
def tagOctets (written : List Char) : Option (List UInt8) :=
  (octetsLacking 0 written).map fun octets => octets.takeWhile (· ≠ 0)

/-- The octets of a text. -/
def octetsOf (s : String) : List UInt8 := s.toUTF8.data.toList

/-! ### What tags ask for -/

/-- The core types that a scalar may be asked to be of. -/
inductive CoreType where
  | bool
  | int
  | float
  | null
  deriving DecidableEq, Repr

namespace CoreType

/-- What precedes the name of a core type in its tag. -/
def space : String := "tag:yaml.org,2002:"

/-- The name of a core type in its tag. -/
def name : CoreType → String
  | bool => "bool"
  | int => "int"
  | float => "float"
  | null => "null"

/-- The core type with a tag. -/
def ofOctets? (octets : List UInt8) : Option CoreType :=
  [bool, int, float, null].find? fun t => octets = octetsOf (space ++ t.name)

end CoreType

/-- What a tag asks for. -/
inductive Tag where
  /-- One of the core types. -/
  | core (type : CoreType)
  /-- A type of the document's own: an exclamation mark and the name, which is missing where
  the octets are no text. -/
  | own (name : Option String)
  /-- Any other type, by which every scalar is a text. -/
  | other
  deriving DecidableEq, Repr

namespace Tag

/-- What the octets of a tag ask for. The exclamation mark alone is a name too. -/
def ofOctets (octets : List UInt8) : Tag :=
  match CoreType.ofOctets? octets, octets with
  | some type, _ => core type
  | none, [] => other
  | none, leading :: rest =>
    if leading = UInt8.ofNat '!'.toNat then
      own (if rest.isEmpty then some "!" else String.fromUTF8? ⟨rest.toArray⟩)
    else other

/-- The name of the document's own type that a tag asks for. -/
def ownName? : Tag → Option String
  | own name => name
  | _ => none

end Tag

end ApiModel.Yaml
