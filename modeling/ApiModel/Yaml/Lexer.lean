import ApiModel.Yaml.PlainScalar
import ApiModel.Yaml.Tag

/-!
# From characters to tokens

A block collection is opened by its first entry and closed by the first token that is
indented less. A key need not be announced: where a key may stand, the place of a token is
kept pending, and a colon on the same line, at most 1024 octets further on, makes a key of
what stands there. Before a token one byte order mark may stand at the start of its line.

## Main definitions

* `Yaml.Lexer`: the state between two tokens.
* `Yaml.Lexer.step`: one token.
* `Yaml.tokens`: the tokens of a text.
-/

namespace ApiModel.Yaml

/-! ### Anchors, tags and directives -/

/-- The name after `&` or `*`, which ends before a gap or an indicator. -/
def scanName (s : List Char) : Option (String × List Char) :=
  let name := s.takeWhile isWordChar
  let rest := s.drop name.length
  if !name.isEmpty && (atGap rest || rest.head?.any "?:,]\x7d%@`".toList.contains) then
    some (String.ofList name, rest)
  else none

/-- The octets of the characters of a tag at the start of a text, which may be none. -/
def scanTagOctets (verbatim : Bool) (s : List Char) : Option (List UInt8 × List Char) := do
  let written := s.takeWhile (isTagChar verbatim)
  return (← tagOctets written, s.drop written.length)

/-- The octets of at least one character of a tag. -/
def scanSomeTagOctets (verbatim : Bool) (s : List Char) : Option (List UInt8 × List Char) :=
  if s.head?.any (isTagChar verbatim) then scanTagOctets verbatim s else none

/-- The tag after `!`: between angle brackets, with a handle, or as a name of its own, which
may be missing. -/
def scanTag : List Char → Option (Token × List Char)
  | '<' :: rest => do
    match ← scanSomeTagOctets true rest with
    | (octets, '>' :: rest) => return (.tag "" octets, rest)
    | _ => none
  | s => do
    let word := s.takeWhile isWordChar
    match s.drop word.length with
    | '!' :: rest =>
      let (suffix, rest) ← scanSomeTagOctets false rest
      return (.tag (String.ofList ('!' :: word ++ ['!'])) suffix, rest)
    | _ =>
      let (suffix, rest) ← scanTagOctets false s
      return (if suffix.isEmpty then .tag "" (octetsOf "!") else .tag "!" suffix, rest)

/-- A number of a version, which has at most nine digits. -/
def scanVersionNumber (s : List Char) : Option (Nat × List Char) :=
  let digits := s.takeWhile Char.isDigit
  if digits.isEmpty || 9 < digits.length then none
  else some (Nat.ofDigitChars 10 digits 0, s.drop digits.length)

/-- The version after `%YAML`. -/
def scanVersion (s : List Char) : Option (Token × List Char) := do
  let (major, rest) ← scanVersionNumber (s.dropWhile isSpace)
  match rest with
  | '.' :: rest =>
    let (minor, rest) ← scanVersionNumber rest
    return (.versionDirective major minor, rest)
  | _ => none

/-- The handle of a tag and what it stands for, after `%TAG`. -/
def scanTagMeaning (s : List Char) : Option (Token × List Char) := do
  match s.dropWhile isSpace with
  | '!' :: rest =>
    let word := rest.takeWhile isWordChar
    let (handle, rest) ←
      match word, rest.drop word.length with
      | word, '!' :: rest => some (String.ofList ('!' :: word ++ ['!']), rest)
      | [], rest => some ("!", rest)
      | _, _ => none
    if !rest.head?.any isSpace then none
    let (leading, rest) ← scanSomeTagOctets true (rest.dropWhile isSpace)
    if !atGap rest then none
    return (.tagDirective handle leading, rest)
  | _ => none

/-- The directive after `%`, up to the end of its line. -/
def scanDirective (s : List Char) : Option (Token × List Char) := do
  let name := s.takeWhile isWordChar
  let rest := s.drop name.length
  if !atGap rest then none
  let (token, rest) ←
    match String.ofList name with
    | "YAML" => scanVersion rest
    | "TAG" => scanTagMeaning rest
    | _ => none
  return (token, ← scanLineEnd rest)

/-! ### The state between two tokens -/

/-- A place at which a key may start that is not announced. -/
structure PendingKey where
  /-- The number of tokens before it. -/
  token : Nat
  /-- Where it starts. -/
  position : Position
  /-- Whether nothing but a key may stand there. -/
  required : Bool

/-- The state between two tokens. -/
structure Lexer where
  /-- The text from here. -/
  rest : List Char
  /-- Where it starts. -/
  position : Position := {}
  /-- The tokens so far, in reverse order. -/
  tokens : List Token := []
  /-- How many there are. -/
  count : Nat := 0
  /-- The columns of the open block collections, the innermost first. -/
  columns : List Nat := []
  /-- Whether a key may start here without being announced. -/
  keyAllowed : Bool := true
  /-- The pending key within the innermost brackets. -/
  pending : Option PendingKey := none
  /-- The pending keys outside of them, the innermost first. -/
  outer : List (Option PendingKey) := []

/-- Skips blanks, line breaks and comments, and a byte order mark at the start of a line. A
line break outside brackets makes room for a key; where a key may start, a tab is no blank. -/
def skipGap (flow comment keyAllowed : Bool) (p : Position) :
    List Char → Bool × Position × List Char
  | [] => (keyAllowed, p, [])
  | c :: rest =>
    if isBreak c then skipGap flow false (keyAllowed || !flow) p.newline rest
    else if comment then skipGap flow true keyAllowed (p.next c) rest
    else if c = ' ' || (c = '\t' && (flow || !keyAllowed)) || (c = '\ufeff' && p.column = 0) then
      skipGap flow false keyAllowed (p.next c) rest
    else if c = '#' then skipGap flow true keyAllowed (p.next c) rest
    else (keyAllowed, p, c :: rest)

/-- Puts a token before the last `n` of a reversed list of tokens. -/
def insertBefore (t : Token) : Nat → List Token → List Token
  | n + 1, u :: rest => u :: insertBefore t n rest
  | _, tokens => t :: tokens

namespace Lexer

variable (l : Lexer)

/-- Whether brackets are open. -/
def flow : Bool := !l.outer.isEmpty

/-- The column of the innermost block collection, or -1. -/
def indent : Int :=
  match l.columns with
  | [] => -1
  | c :: _ => c

/-- The state before the next token. -/
def skip : Lexer :=
  let (keyAllowed, position, rest) := skipGap l.flow false l.keyAllowed l.position l.rest
  { l with keyAllowed, position, rest }

/-- Adds a token before the last `n` ones. -/
def insert (n : Nat) (t : Token) : Lexer :=
  { l with tokens := insertBefore t n l.tokens, count := l.count + 1 }

/-- Adds a token that takes `n` characters. -/
def emit (n : Nat) (t : Token) : Lexer :=
  { l.insert 0 t with rest := l.rest.drop n, position := l.position.advance (l.rest.take n) }

/-- Adds a scalar. -/
def emitScalar (style : Style) (s : Scanned) : Lexer :=
  { l.insert 0 (.scalar style s.text) with
    rest := s.rest
    position := s.position
    keyAllowed := s.brokeLine }

/-- Gives up the pending key. -/
def dropKey : Option Lexer :=
  if l.pending.any PendingKey.required then none else some { l with pending := none }

/-- Keeps the place of the next token as a pending key, where a key may start; no other key
may follow directly. -/
def saveKey : Option Lexer :=
  if l.keyAllowed then do
    let key : PendingKey :=
      { token := l.count
        position := l.position
        required := !l.flow && l.indent = l.position.column }
    return { ← l.dropKey with pending := some key, keyAllowed := false }
  else some l

/-- A pending key is over when its line is, or after 1024 octets. -/
def expire (p : Position) (pending : Option PendingKey) : Option (Option PendingKey) :=
  match pending with
  | none => some none
  | some k =>
    if k.position.line < p.line ∨ k.position.offset + 1024 < p.offset then
      if k.required then none else some none
    else some (some k)

/-- Gives up the pending keys that are over. -/
def expireKeys : Option Lexer := do
  return { l with
    pending := ← expire l.position l.pending
    outer := ← l.outer.mapM (expire l.position) }

/-- Closes the block collections that are indented by more than `column`. -/
def closeBlocks (column : Int) : Lexer :=
  if l.flow then l
  else
    let closed := l.columns.takeWhile fun c : Nat => column < c
    { l with
      tokens := List.replicate closed.length .blockEnd ++ l.tokens
      count := l.count + closed.length
      columns := l.columns.drop closed.length }

/-- Opens a block collection before the last `n` tokens, unless one of at least that
indentation is open. -/
def openBlock (n column : Nat) (t : Token) : Lexer :=
  if l.flow ∨ column ≤ l.indent then l
  else { l.insert n t with columns := column :: l.columns }

/-- Adds an entry or key indicator, which may open a block collection. -/
def emitEntry (start t : Token) (keyAllowed : Bool) : Option Lexer := do
  if !l.flow && !l.keyAllowed then none
  let l ← (l.openBlock 0 l.position.column start).dropKey
  return { l.emit 1 t with keyAllowed }

/-- Adds a colon. It makes a key of what is pending, or is the value of an empty key. -/
def emitValue : Option Lexer :=
  match l.pending with
  | some k =>
    let n := l.count - k.token
    let l := (l.insert n .key).openBlock (n + 1) k.position.column .blockMappingStart
    some { l.emit 1 .value with pending := none, keyAllowed := false }
  | none =>
    if l.flow then some { l.emit 1 .value with keyAllowed := false }
    else if l.keyAllowed then
      some ((l.openBlock 0 l.position.column .blockMappingStart).emit 1 .value)
    else none

/-- Adds the start of a bracketed collection. -/
def emitOpening (t : Token) : Option Lexer := do
  let l ← l.saveKey
  return { l.emit 1 t with pending := none, outer := l.pending :: l.outer, keyAllowed := true }

/-- Adds the end of a bracketed collection, whether or not one is open. -/
def emitClosing (t : Token) : Option Lexer := do
  let l ← l.dropKey
  let (pending, outer) :=
    match l.outer with
    | [] => (none, [])
    | pending :: outer => (pending, outer)
  return { l.emit 1 t with pending, outer, keyAllowed := false }

/-- Adds a directive with its line. -/
def emitDirective : Option Lexer := do
  let l ← (l.closeBlocks (-1)).dropKey
  let (token, rest) ← scanDirective (l.rest.drop 1)
  let l := { l.emit (l.rest.length - rest.length) token with keyAllowed := false }
  return match rest with
    | [] => l
    | _ :: rest => { l with rest, position := l.position.newline }

/-- Adds a token that starts at an indicator, or a plain scalar. -/
def emitAt (c : Char) (rest : List Char) : Option Lexer :=
  let quoted (style : Style) (scan : Position → List Char → Option Scanned) := do
    let l ← l.saveKey
    return l.emitScalar style (← scan (l.position.next c) rest)
  let block (style : Style) := do
    let l ← l.dropKey
    let found ← scanBlock (style = .literal) l.indent (l.position.next c) rest
    return { l.emitScalar style found with keyAllowed := true }
  let named (token : String → Token) := do
    let l ← l.saveKey
    let (name, rest) ← scanName rest
    return l.emit (l.rest.length - rest.length) (token name)
  let plain := do
    let l ← l.saveKey
    return l.emitScalar .plain (← scanPlain l.flow (l.indent + 1) l.position (c :: rest))
  match c with
  | '[' => l.emitOpening .flowSequenceStart
  | '\x7b' => l.emitOpening .flowMappingStart
  | ']' => l.emitClosing .flowSequenceEnd
  | '\x7d' => l.emitClosing .flowMappingEnd
  | ',' => do return { (← l.dropKey).emit 1 .flowEntry with keyAllowed := true }
  | '-' => if atGap rest then l.emitEntry .blockSequenceStart .blockEntry true else plain
  | '?' =>
    if l.flow ∨ atGap rest then l.emitEntry .blockMappingStart .key (!l.flow) else plain
  | ':' => if l.flow ∨ atGap rest then l.emitValue else plain
  | '*' => named .reference
  | '&' => named .anchor
  | '!' => do
    let l ← l.saveKey
    let (token, rest) ← scanTag rest
    if atGap rest ∨ (l.flow ∧ rest.head? = some ',') then
      return l.emit (l.rest.length - rest.length) token
    else none
  | '|' => if l.flow then none else block .literal
  | '>' => if l.flow then none else block .folded
  | '\'' => quoted .singleQuoted scanSingleQuoted
  | '"' => quoted .doubleQuoted scanDoubleQuoted
  | c => if isGap c ∨ "#%@`".toList.contains c then none else plain

/-- Adds the next token; nothing when the text is not well-formed. -/
def step (c : Char) (rest : List Char) : Option Lexer :=
  if l.position.column = 0 ∧ c = '%' then l.emitDirective
  else if l.position.column = 0 ∧ isDocumentMarker (c :: rest) then do
    let l ← (l.closeBlocks (-1)).dropKey
    return { l.emit 3 (if c = '-' then .documentStart else .documentEnd) with
      keyAllowed := false }
  else l.emitAt c rest

/-- The state before the next token, with what its indentation closes. -/
def settle : Option Lexer := do
  let l ← l.skip.expireKeys
  return l.closeBlocks l.position.column

/-- Closes what is open at the end of the text. -/
def finish : Option (List Token) := do
  let l ← (l.closeBlocks (-1)).dropKey
  return l.tokens.reverse

/-- All tokens. Every token takes at least one character. -/
def run (l : Lexer) : Option (List Token) :=
  match l.settle with
  | none => none
  | some settled =>
    match settled.rest with
    | [] => settled.finish
    | c :: rest =>
      match settled.step c rest with
      | none => none
      | some next => if _h : next.rest.length < l.rest.length then run next else none
termination_by l.rest.length

end Lexer

/-- The tokens of a text. -/
def tokens (text : String) : Option (List Token) :=
  let s := text.toList
  if s.all isAllowed then Lexer.run { rest := normalizeBreaks s } else none

end ApiModel.Yaml
