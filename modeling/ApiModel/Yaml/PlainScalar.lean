import ApiModel.Yaml.QuotedScalar

/-!
# Plain and block scalars of YAML

A plain scalar ends before `: `, before ` #`, at a line that is indented too little, and,
inside brackets, at a comma or bracket. A block scalar is made of the lines that are
indented deeper than the collection around it; its header says how line breaks at its end
are kept and may give the indentation.

## Main definitions

* `Yaml.scanPlain`: the plain scalar at the start of a text.
* `Yaml.scanBlock`: the block scalar after its indicator.
-/

namespace ApiModel.Yaml

/-! ### Plain scalars -/

/-- Whether a plain scalar ends before a text, inside brackets or outside. -/
def plainEnds (flow : Bool) : List Char → Bool
  | [] => true
  | c :: rest => (c = ':' && atGap rest) || (flow && ",[]{}".toList.contains c)

/-- Inside brackets a colon right before an indicator is not allowed in a plain scalar. -/
def plainFails (flow : Bool) : List Char → Bool
  | ':' :: c :: _ => flow && ",?[]{}".toList.contains c
  | _ => false

/-- The plain scalar at the start of a text. `indent` is the least column of its further
lines, `started` tells whether a character was read, `gap` is the gap since the last one. -/
def scanPlainFrom (flow : Bool) (indent : Int) (started inGap : Bool) (text : List Char)
    (gap : Fold) (p : Position) : List Char → Option Scanned
  | [] => some { text := textOfReversed text, position := p, rest := [], brokeLine := gap.isLines }
  | c :: rest =>
    let found : Scanned :=
      { text := textOfReversed text, position := p, rest := c :: rest, brokeLine := gap.isLines }
    if isBreak c then
      scanPlainFrom flow indent started true text (gap.addBreak c) p.newline rest
    else if isSpace c then
      if gap.isLines ∧ c = '\t' ∧ (p.column : Int) < indent then none
      else scanPlainFrom flow indent started true text (gap.addBlank c) (p.next c) rest
    else if inGap ∧ started ∧ !flow ∧ (p.column : Int) < indent then some found
    else if inGap ∧ (c = '#' ∨ p.column = 0 ∧ isDocumentMarker (c :: rest)) then some found
    else if plainFails flow (c :: rest) then none
    else if plainEnds flow (c :: rest) then some found
    else scanPlainFrom flow indent true false (c :: (gap.joined ++ text)) .none (p.next c) rest

/-- The plain scalar at the start of a text. -/
def scanPlain (flow : Bool) (indent : Int) (p : Position) (s : List Char) : Option Scanned :=
  scanPlainFrom flow indent false false [] .none p s

/-! ### Block scalars -/

/-- What happens to the line breaks at the end of a block scalar. -/
inductive Chomping where
  | strip
  | clip
  | keep
  deriving DecidableEq, Repr

/-- The chomping indicator at the start of a text. -/
def scanChomping : List Char → Option Chomping × List Char
  | '+' :: rest => (some .keep, rest)
  | '-' :: rest => (some .strip, rest)
  | s => (none, s)

/-- The indentation indicator at the start of a text, which is not zero. -/
def scanIndicator : List Char → Option (Option Nat × List Char)
  | [] => some (none, [])
  | c :: rest =>
    if c = '0' then none
    else if c.isDigit then some (some (c.toNat - '0'.toNat), rest)
    else some (none, c :: rest)

/-- The indicators after `|` or `>`, in either order. -/
def scanIndicators (s : List Char) : Option (Chomping × Option Nat × List Char) :=
  match scanChomping s with
  | (some chomping, rest) => (scanIndicator rest).map fun (i, rest) => (chomping, i, rest)
  | (none, rest) => do
    let (indicator, rest) ← scanIndicator rest
    if indicator.isSome then
      let (chomping, rest) := scanChomping rest
      return (chomping.getD .clip, indicator, rest)
    else return (.clip, none, rest)

/-- A text up to the end of its line, where only blanks and a comment may stand. -/
def scanLineEnd (s : List Char) : Option (List Char) :=
  let s := s.dropWhile isSpace
  let s := if s.head? = some '#' then s.dropWhile fun c => !isBreak c else s
  if atBreak s then some s else none

/-- What stands before the next line of a block scalar that is not empty: the breaks of empty
lines in reverse order, the greatest column met, and the text from there. While `indent` is
not known all blanks are indentation. -/
structure BlockGap where
  /-- The breaks of empty lines in reverse order. -/
  breaks : List Char := []
  /-- The greatest column at which a line started. -/
  widest : Nat := 0
  /-- Where the next line starts. -/
  position : Position
  /-- The text from there. -/
  rest : List Char

/-- Reads indentation and empty lines; a tab must not stand within the indentation. -/
def scanBlockGap (indent : Option Nat) (breaks : List Char) (widest : Nat) (p : Position) :
    List Char → Option BlockGap
  | [] => some { breaks, widest := max widest p.column, position := p, rest := [] }
  | c :: rest =>
    let inside := indent.all fun i => p.column < i
    let widest := max widest p.column
    if c = ' ' ∧ inside then scanBlockGap indent breaks widest (p.next c) rest
    else if c = '\t' ∧ inside then none
    else if isBreak c then scanBlockGap indent (c :: breaks) widest p.newline rest
    else some { breaks, widest, position := p, rest := c :: rest }

/-- The rest of a line, and what follows from its break on. -/
def scanLine : List Char → List Char × List Char
  | [] => ([], [])
  | c :: rest =>
    if isBreak c then ([], c :: rest) else (c :: (scanLine rest).1, (scanLine rest).2)

/-- The state of a block scalar between two lines. -/
structure BlockState where
  /-- The characters so far in reverse order. -/
  text : List Char := []
  /-- The break after the last line. -/
  pending : Option Char := none
  /-- Whether the last line started with a blank. -/
  blankStart : Bool := false

/-- The characters with the breaks before a further line. Between two lines that do not start
with a blank, folding drops the first of several line feeds and makes a space of a single
one. -/
def BlockState.join (literal : Bool) (st : BlockState) (gap : BlockGap) : List Char :=
  let blank := gap.rest.head?.any isSpace
  if !literal ∧ st.pending = some '\n' ∧ !st.blankStart ∧ !blank then
    if gap.breaks.isEmpty then ' ' :: st.text else gap.breaks ++ st.text
  else gap.breaks ++ (st.pending.toList ++ st.text)

/-- The lines of a block scalar; `fuel` bounds their number. -/
def scanBlockLines (literal : Bool) (chomping : Chomping) (indent : Nat) :
    Nat → BlockState → BlockGap → Option Scanned
  | 0, _, _ => none
  | fuel + 1, st, gap =>
    if gap.position.column = indent ∧ !gap.rest.isEmpty then
      let text := st.join literal gap
      let (line, rest) := scanLine gap.rest
      let st : BlockState :=
        { text := line.reverse ++ text
          pending := rest.head?
          blankStart := gap.rest.head?.any isSpace }
      let p := gap.position.advance line
      let next :=
        match rest with
        | _ :: rest => scanBlockGap (some indent) [] 0 p.newline rest
        | [] => some { position := p, rest := [] }
      next.bind (scanBlockLines literal chomping indent fuel st)
    else
      let tail :=
        match chomping with
        | .strip => []
        | .clip => st.pending.toList
        | .keep => gap.breaks ++ st.pending.toList
      some {
        text := textOfReversed (tail ++ st.text)
        position := gap.position
        rest := gap.rest }

/-- The block scalar after its indicator, inside a collection indented by `parent`. -/
def scanBlock (literal : Bool) (parent : Int) (p : Position) (s : List Char) :
    Option Scanned := do
  let (chomping, indicator, rest) ← scanIndicators s
  let rest ← scanLineEnd rest
  let p := p.advance (s.take (s.length - rest.length))
  let (p, rest) :=
    match rest with
    | _ :: rest => (p.newline, rest)
    | [] => (p, [])
  let given : Option Nat := indicator.map fun n => ((max parent 0) + n).toNat
  let gap ← scanBlockGap given [] 0 p rest
  let indent := given.getD (max gap.widest (max (parent + 1) 1).toNat)
  scanBlockLines literal chomping indent (rest.length + 1) {} gap

end ApiModel.Yaml
