import PubList.Yaml.Property

/-!
# From text to tokens

Indentation and keys without a question mark show only after the fact: a node turns out to be a key
when a colon follows it. So tokens are held back while one of them may still be such a key, and the
marks for the key and for the map that it begins are put in before it. A token is handed on once
nothing can come before it; what is held back when the text turns out to be wrong is lost.
-/

namespace PubList.Yaml

/-- A place in a text. -/
structure Place where
  rest : Text
  /-- How many characters came before. -/
  index : Nat := 0
  line : Nat := 0
  column : Nat := 0

namespace Place

/-- Goes over some characters. -/
def advance (p : Place) : Nat → Place
  | 0 => p
  | n + 1 =>
    match p.rest with
    | [] => p
    | c :: t =>
      let next : Place :=
        if isBreak c && !(c = '\r' && t.head? = some '\n') then ⟨t, p.index + 1, p.line + 1, 0⟩
        else ⟨t, p.index + 1, p.line, p.column + 1⟩
      next.advance n

/-- Goes to where the given text remains. -/
def advanceTo (p : Place) (rest : Text) : Place := p.advance (p.rest.length - rest.length)

end Place

/-- A node that may be a key without a question mark. -/
structure PossibleKey where
  /-- The node has to be a key, for it stands where a key of a map must stand. -/
  required : Bool
  tokenNumber : Nat
  index : Nat
  line : Nat
  column : Nat

/-- The state of the reading. -/
structure Lexer where
  place : Place
  /-- The tokens that are held back, in order. -/
  held : List Token := []
  /-- How many tokens have been handed on. -/
  handedOn : Nat := 0
  /-- The tokens that have been handed on, the last one first. -/
  done : List Token := []
  /-- The column of the innermost list or map that is shown by indentation. -/
  indent : Int := -1
  /-- The columns of those around it. -/
  outer : List Int := []
  /-- Whether a key without a question mark may begin here. -/
  keyAllowed : Bool := true
  /-- The possible key of the innermost list or map. -/
  possibleKey : Option PossibleKey := none
  /-- The possible keys of those around an open bracket, the innermost first. -/
  outerKeys : List (Option PossibleKey) := []

namespace Lexer

/-- Whether the place is inside brackets. -/
def flow (l : Lexer) : Bool := !l.outerKeys.isEmpty

/-- Holds a token back. -/
def hold (l : Lexer) (token : Token) : Lexer := { l with held := l.held ++ [token] }

/-- Holds a token back before the token with the given number. -/
def holdBefore (l : Lexer) (number : Nat) (token : Token) : Lexer :=
  let i := number - l.handedOn
  { l with held := l.held.take i ++ token :: l.held.drop i }

/-- A possible key is on one line and has at most 1024 characters; an older one is given up. -/
def dropIfStale (l : Lexer) (key : Option PossibleKey) : Option (Option PossibleKey) :=
  match key with
  | none => some none
  | some k =>
    if k.line < l.place.line ∨ k.index + 1024 < l.place.index then
      if k.required then none else some none
    else some (some k)

/-- Gives up all possible keys that are too old. -/
def dropStaleKeys (l : Lexer) : Option Lexer := do
  let outerKeys ← l.outerKeys.reverse.mapM l.dropIfStale
  let possibleKey ← l.dropIfStale l.possibleKey
  return { l with possibleKey, outerKeys := outerKeys.reverse }

/-- Gives up the possible key of the innermost list or map. -/
def dropKey (l : Lexer) : Option Lexer :=
  match l.possibleKey with
  | some k => if k.required then none else some { l with possibleKey := none }
  | none => some l

/-- Notes that the next token may begin a key. -/
def noteKey (l : Lexer) : Option Lexer :=
  if l.keyAllowed then do
    let l ← l.dropKey
    return { l with possibleKey := some {
      required := !l.flow && l.indent = l.place.column
      tokenNumber := l.handedOn + l.held.length
      index := l.place.index
      line := l.place.line
      column := l.place.column } }
  else some l

/-- Begins a list or a map at a column that lies deeper than the innermost one. -/
def beginBlock (l : Lexer) (column : Nat) (token : Token) (number : Option Nat) : Lexer :=
  if !l.flow && l.indent < column then
    let l := { l with indent := column, outer := l.indent :: l.outer }
    match number with
    | some number => l.holdBefore number token
    | none => l.hold token
  else l

/-- Holds back an end mark for each list or map that lies deeper than a column: the end marks, and
the columns that are left. -/
def endBlocksTo (column : Int) (indent : Int) : List Int → List Token × Int × List Int
  | [] => ([], indent, [])
  | next :: outer =>
    if column < indent then
      let (ends, indent, outer) := endBlocksTo column next outer
      (.blockEnd :: ends, indent, outer)
    else ([], indent, next :: outer)

/-- Ends the lists and maps that lie deeper than a column. -/
def endBlocks (l : Lexer) (column : Int) : Lexer :=
  if l.flow then l
  else
    let (ends, indent, outer) := endBlocksTo column l.indent l.outer
    { l with held := l.held ++ ends, indent, outer }

/-- Goes over some characters. -/
def skip (l : Lexer) (n : Nat) : Lexer := { l with place := l.place.advance n }

/-- Goes over blanks, comments and line ends. -/
def skipGap (l : Lexer) : (fuel : Nat) → Lexer
  | 0 => l
  | fuel + 1 =>
    let isGap (c : Char) : Bool := c = ' ' || ((l.flow || !l.keyAllowed) && c = '\t')
    let l := l.skip (l.place.rest.takeWhile isGap).length
    let comment :=
      if l.place.rest.head? = some '#' then (l.place.rest.takeWhile (!isBreak ·)).length else 0
    let l := l.skip comment
    match l.place.rest with
    | [] => l
    | c :: _ =>
      if isBreak c then
        let l := { l with place := l.place.advanceTo (dropBreak l.place.rest) }
        skipGap { l with keyAllowed := l.keyAllowed || !l.flow } fuel
      else l

/-- A mark between documents ends all lists and maps. -/
def readDocumentMark (l : Lexer) (token : Token) : Option Lexer := do
  let l ← (l.endBlocks (-1)).dropKey
  return ({ l with keyAllowed := false }.skip 3).hold token

/-- The end of the text ends the last line too. -/
def readEnd (l : Lexer) : Option Lexer := do
  let l ← (l.endBlocks (-1)).dropKey
  let place := { l.place with line := l.place.line + 1, column := 0 }
  return { l with keyAllowed := false, place }.hold .streamEnd

def readDirective (l : Lexer) : Option Lexer := do
  let l ← (l.endBlocks (-1)).dropKey
  let (token, rest) ← readDirective? (l.place.rest.drop 1)
  return { l with keyAllowed := false, place := l.place.advanceTo rest }.hold token

/-- An opening bracket. -/
def openFlow (l : Lexer) (token : Token) : Option Lexer := do
  let l ← l.noteKey
  let l := { l with possibleKey := none, outerKeys := l.possibleKey :: l.outerKeys }
  return ({ l with keyAllowed := true }.skip 1).hold token

/-- A closing bracket. -/
def closeFlow (l : Lexer) (token : Token) : Option Lexer := do
  let l ← l.dropKey
  let l := match l.outerKeys with
    | key :: outerKeys => { l with possibleKey := key, outerKeys }
    | [] => l
  return ({ l with keyAllowed := false }.skip 1).hold token

/-- A comma inside brackets. -/
def readFlowEntry (l : Lexer) : Option Lexer := do
  let l ← l.dropKey
  return ({ l with keyAllowed := true }.skip 1).hold .flowEntry

/-- A hyphen before an item of a list. -/
def readBlockEntry (l : Lexer) : Option Lexer := do
  let l ←
    if l.flow then some l
    else if l.keyAllowed then some (l.beginBlock l.place.column .blockListStart none)
    else none
  let l ← l.dropKey
  return ({ l with keyAllowed := true }.skip 1).hold .blockEntry

/-- A question mark before a key. -/
def readKey (l : Lexer) : Option Lexer := do
  let l ←
    if l.flow then some l
    else if l.keyAllowed then some (l.beginBlock l.place.column .blockMapStart none)
    else none
  let l ← l.dropKey
  return ({ l with keyAllowed := !l.flow }.skip 1).hold .key

/-- A colon before a value: what came before it is a key. -/
def readValue (l : Lexer) : Option Lexer := do
  let l ←
    match l.possibleKey with
    | some k =>
      let l := l.holdBefore k.tokenNumber .key
      let l := l.beginBlock k.column .blockMapStart (some k.tokenNumber)
      some { l with possibleKey := none, keyAllowed := false }
    | none =>
      if l.flow then some { l with keyAllowed := false }
      else if l.keyAllowed then some (l.beginBlock l.place.column .blockMapStart none)
      else none
  return (l.skip 1).hold .value

/-- An alias or an anchor. -/
def readName (l : Lexer) (token : Text → Token) : Option Lexer := do
  let l ← l.noteKey
  let (name, rest) ← readAnchor? (l.place.rest.drop 1)
  return { l with keyAllowed := false, place := l.place.advanceTo rest }.hold (token name)

def readTag (l : Lexer) : Option Lexer := do
  let l ← l.noteKey
  let ((handle, suffix), rest) ← readTag? l.flow l.place.rest
  return { l with keyAllowed := false, place := l.place.advanceTo rest }.hold (.tag handle suffix)

def readBlockScalar (l : Lexer) (style : ScalarStyle) : Option Lexer := do
  let l ← l.dropKey
  let (text, rest) ← readBlock? (style = .literal) l.indent (l.place.rest.drop 1)
  return { l with keyAllowed := true, place := l.place.advanceTo rest }.hold (.scalar style text)

def readQuotedScalar (l : Lexer) (mark : QuoteMark) : Option Lexer := do
  let l ← l.noteKey
  let (text, size) ← readQuoted? mark {} (l.place.column + 1) 0 (l.place.rest.drop 1)
  return ({ l with keyAllowed := false }.skip (size + 1)).hold (.scalar .quoted text)

def readPlainScalar (l : Lexer) : Option Lexer := do
  let l ← l.noteKey
  let scalar ← readPlain? ⟨l.flow, l.indent + 1⟩ {} l.place.column 0 l.place.rest
  return ({ l with keyAllowed := scalar.endsLine }.skip scalar.size).hold
    (.scalar .plain scalar.text)

/-- A character that begins no plain scalar. -/
def isIndicator (c : Char) : Bool := "-?:,[]\x7b\x7d#&*!|>'\"%@`".toList.contains c

/-- Whether a plain scalar begins with the character `c` and the text behind it. -/
def beginsPlain (flow : Bool) (c : Char) (t : Text) : Bool :=
  !(isSpace c || isBreak c || isIndicator c) ||
    (c = '-' && !(t.head?.map isSpace).getD false) ||
    (!flow && (c = '?' || c = ':') && !atGap t)

/-- Reads the token that begins with the character `c`. -/
def readFrom (l : Lexer) (c : Char) (t : Text) : Option Lexer :=
  if l.place.column = 0 && c = '%' then l.readDirective
  else if l.place.column = 0 && atDocumentMark (c :: t) then
    l.readDocumentMark (if c = '-' then .documentStart else .documentEnd)
  else if c = '[' then l.openFlow .flowListStart
  else if c = '{' then l.openFlow .flowMapStart
  else if c = ']' then l.closeFlow .flowListEnd
  else if c = '}' then l.closeFlow .flowMapEnd
  else if c = ',' then l.readFlowEntry
  else if c = '-' && atGap t then l.readBlockEntry
  else if c = '?' && (l.flow || atGap t) then l.readKey
  else if c = ':' && (l.flow || atGap t) then l.readValue
  else if c = '*' then l.readName .alias
  else if c = '&' then l.readName .anchor
  else if c = '!' then l.readTag
  else if c = '|' && !l.flow then l.readBlockScalar .literal
  else if c = '>' && !l.flow then l.readBlockScalar .folded
  else if c = '\'' then l.readQuotedScalar .single
  else if c = '"' then l.readQuotedScalar .double
  else if beginsPlain l.flow c t then l.readPlainScalar
  else none

/-- Reads the next token. -/
def read (l : Lexer) : Option Lexer := do
  let l ← (l.skipGap (l.place.rest.length + 1)).dropStaleKeys
  let l := l.endBlocks l.place.column
  match l.place.rest with
  | [] => l.readEnd
  | c :: t => l.readFrom c t

/-- The number of the first token that may still turn out to be a key. -/
def firstKey? (l : Lexer) : Option Nat :=
  ((l.possibleKey :: l.outerKeys).filterMap fun key => key.map (·.tokenNumber)).min?

/-- Hands on the tokens before which nothing can be put any more. -/
def handOn (l : Lexer) : Option Lexer := do
  let l ← l.dropStaleKeys
  let n := match l.firstKey? with
    | some number => number - l.handedOn
    | none => l.held.length
  return { l with
    done := (l.held.take n).reverse ++ l.done
    held := l.held.drop n
    handedOn := l.handedOn + (l.held.take n).length }

/-- Reads tokens to the end of the text: the tokens that were handed on, the last one first, and
whether the end was reached. -/
def run (l : Lexer) : (fuel : Nat) → List Token × Bool
  | 0 => (l.done, false)
  | fuel + 1 =>
    match l.read with
    | none => (l.done, false)
    | some next =>
      match next.handOn with
      | none => (next.done, false)
      | some next =>
        match next.done with
        | .streamEnd :: _ => (next.done, true)
        | _ => next.run fuel

end Lexer

/-- Where the reading of a text begins: a byte order mark takes a column. -/
def startPlace (t : Text) : Place :=
  match t with
  | c :: rest => if c.toNat = 0xFEFF then ⟨rest, 1, 0, 1⟩ else ⟨t, 0, 0, 0⟩
  | [] => ⟨[], 0, 0, 0⟩

/-- The tokens of a text, up to the first fault. A text with a character that is not allowed has
none. -/
def tokens (t : Text) : List Token :=
  if t.all isAllowed then
    (Lexer.run { place := startPlace t } (t.length + 2)).1.reverse
  else []

end PubList.Yaml
