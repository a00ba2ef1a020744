import ApiModel.Yaml.Scalar

/-!
# Texts as YAML scalars

A text stands without quotes when it reads back as a text, fits on one line and holds no
indicator where one would be taken for markup. A text with line feeds is written line by line.
Otherwise it stands between single quotes, in which a quote is doubled, or, if it holds
characters that must be escaped, between double quotes.

## Main definitions

* `Yaml.styleFor`: the style of a text.
* `Yaml.scalarText`: a text in its style.
* `Yaml.isSimpleKey`: whether a text may be a key without a mark of its own.
-/

namespace ApiModel.Yaml

/-! ### Character classes -/

/-- A character that ends a line, before line breaks are normalized. -/
def endsLine (c : Char) : Bool := isBreak c || c = '\r' || c = '\u0085'

/-- A character that need not be escaped. -/
def isPrintable (c : Char) : Bool :=
  c = '\n' || (' ' ≤ c && c ≤ '~') ||
    ('\u00a0' ≤ c && c ≠ '\ufeff' && c ≠ '\ufffe' && c ≠ '\uffff')

/-- Whether somewhere a character of one class is directly followed by one of another. -/
def hasAdjacent (first second : Char → Bool) : List Char → Bool
  | a :: b :: rest => (first a && second b) || hasAdjacent first second (b :: rest)
  | _ => false

/-! ### Styles -/

/-- Whether a plain text is taken for something else than a text, or is a number with
leading zeros. -/
def readsAsOther (s : String) : Bool :=
  match plainDatum s with
  | some (.text _) => isPadded (splitSign s.toList).2
  | _ => true

/-- Indicators that never start a plain scalar. -/
def openingIndicators : List Char :=
  ['#', ',', '[', ']', '\x7b', '\x7d', '&', '*', '!', '|', '>', '\'', '"', '%', '@', '\x60']

/-- Whether a plain scalar may start like this. A question mark, a colon and a hyphen must be
followed by a character of the text. -/
def mayOpen : List Char → Bool
  | '-' :: '-' :: '-' :: _ => false
  | '.' :: '.' :: '.' :: _ => false
  | c :: rest =>
    if ['?', ':', '-'].contains c then !atGap rest else !openingIndicators.contains c
  | [] => false

/-- Whether what follows the first character of a plain scalar has no mark of a value and no
start of a comment. -/
def mayFollow : List Char → Bool
  | a :: b :: rest =>
    !(b == ':' && atGap rest) && !(isGap a && b == '#') && mayFollow (b :: rest)
  | _ => true

/-- Whether a text may stand without quotes. -/
def mayBePlain (s : List Char) : Bool :=
  mayOpen s && mayFollow s && s.all (fun c => isPrintable c && !endsLine c) &&
    s.head? != some ' ' && s.getLast? != some ' '

/-- Whether a text may stand between single quotes: nothing must be escaped, and no space is
next to a line break. -/
def mayBeSingleQuoted (s : List Char) : Bool :=
  s.all isPrintable && !hasAdjacent endsLine (· == ' ') s && !hasAdjacent (· == ' ') endsLine s

/-- Whether a text may be written line by line: nothing must be escaped, and no line ends in a
space. -/
def mayBeLiteral (s : List Char) : Bool :=
  s.all isPrintable && s.getLast? != some ' ' && !hasAdjacent (· == ' ') endsLine s

/-- The style of a text. -/
def styleFor (s : String) : Style :=
  let cs := s.toList
  if cs.contains '\n' then if mayBeLiteral cs then .literal else .doubleQuoted
  else if !readsAsOther s && mayBePlain cs then .plain
  else if mayBeSingleQuoted cs then .singleQuoted
  else .doubleQuoted

/-! ### Writing -/

/-- Spaces. -/
def spaces (n : Nat) : List Char := List.replicate n ' '

/-- A text between single quotes, the quotes left out; the lines after the first are indented. -/
def singleQuotedText (indent : Nat) (afterBreak : Bool) : List Char → List Char
  | [] => if afterBreak then spaces indent else []
  | c :: rest =>
    if endsLine c then c :: singleQuotedText indent true rest
    else
      (if afterBreak then spaces indent else []) ++
        (if c = '\'' then [c, c] else [c]) ++ singleQuotedText indent false rest

/-- A number in hexadecimal digits. -/
private def upperHex (width n : Nat) : List Char :=
  let digits := (Nat.toDigits 16 n).map Char.toUpper
  List.replicate (width - digits.length) '0' ++ digits

/-- The letter that stands for a character behind a backslash, if it has one. -/
def escapeLetter? (c : Char) : Option Char :=
  [('\x00', '0'), ('\x07', 'a'), ('\x08', 'b'), ('\t', 't'), ('\n', 'n'), ('\x0b', 'v'),
    ('\x0c', 'f'), ('\r', 'r'), ('\x1b', 'e'), ('"', '"'), ('\\', '\\'), ('\u0085', 'N'),
    ('\u00a0', '_'), ('\u2028', 'L'), ('\u2029', 'P')].lookup c

/-- A character as it stands between double quotes. -/
def doubleQuotedChar (c : Char) : List Char :=
  if isPrintable c && !endsLine c && c != '"' && c != '\\' then [c]
  else
    match escapeLetter? c with
    | some letter => ['\\', letter]
    | none =>
      if c.toNat ≤ 0xFF then '\\' :: 'x' :: upperHex 2 c.toNat
      else if c.toNat ≤ 0xFFFF then '\\' :: 'u' :: upperHex 4 c.toNat
      else '\\' :: 'U' :: upperHex 8 c.toNat

/-- The lines of a text, each indented. Empty lines stay empty. -/
def literalText (indent : Nat) (afterBreak : Bool) : List Char → List Char
  | [] => []
  | c :: rest =>
    if endsLine c then c :: literalText indent true rest
    else (if afterBreak then spaces indent else []) ++ c :: literalText indent false rest

/-- The mark that says which line breaks at the end belong to a text: all of several, or one
that is the whole text; none; or just the one that is there. -/
def chompingMark (s : List Char) : List Char :=
  match s.reverse with
  | last :: before :: _ =>
    if endsLine last then if endsLine before then ['+'] else [] else ['-']
  | [last] => if endsLine last then ['+'] else ['-']
  | [] => ['-']

/-- A text written line by line. A first line that is empty or starts with a space needs the
depth of the indentation. -/
def literalScalar (indent : Nat) (s : List Char) : List Char :=
  let depthMark := if s.head?.any fun c => c == ' ' || endsLine c then ['2'] else []
  '|' :: depthMark ++ chompingMark s ++ '\n' :: literalText indent true s

/-- A text in its style; the lines after the first are indented. -/
def scalarText (indent : Nat) (s : String) : List Char :=
  match styleFor s with
  | .literal => literalScalar indent s.toList
  | .singleQuoted => '\'' :: singleQuotedText indent false s.toList ++ ['\'']
  | .doubleQuoted => '"' :: s.toList.flatMap doubleQuotedChar ++ ['"']
  | _ => s.toList

/-- Whether a text may be a key without a mark of its own: it is short and has one line. -/
def isSimpleKey (s : String) : Bool := s.utf8ByteSize ≤ 128 && !s.toList.any endsLine

end ApiModel.Yaml
