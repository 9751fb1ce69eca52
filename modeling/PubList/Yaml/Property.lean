import PubList.Yaml.Token

/-!
# Anchors, tags and directives

The names that stand before a node or before a document. Each reader takes the text behind the mark
and gives what it has read and what follows it.
-/

namespace PubList.Yaml

/-- Reads the name of an anchor or of an alias. -/
def readAnchor? (t : Text) : Option (Text × Text) :=
  let name := t.takeWhile isNameChar
  let rest := t.dropWhile isNameChar
  let ends := atGap rest || (rest.head?.map ("?:,]\x7d%@`".toList.contains ·)).getD false
  if name ≠ [] ∧ ends then some (name, rest) else none

/-- A byte that two hexadecimal digits give behind a percent sign. -/
def readByte? : Text → Option (Nat × Text)
  | '%' :: a :: b :: t => (Number.readNat? 16 [a, b]).map (·, t)
  | _ => none

/-- How many bytes follow the first byte of a character, and what that byte contributes. -/
def leadByte? (n : Nat) : Option (Nat × Nat) :=
  if n < 0x80 then some (0, n)
  else if 0xC0 ≤ n ∧ n < 0xE0 then some (1, n % 0x20)
  else if 0xE0 ≤ n ∧ n < 0xF0 then some (2, n % 0x10)
  else if 0xF0 ≤ n ∧ n < 0xF8 then some (3, n % 0x08)
  else none

/-- Reads the bytes that continue a character. -/
def readContinuation? (n : Nat) : (count : Nat) → Text → Option (Nat × Text)
  | 0, t => some (n, t)
  | count + 1, t => do
    let (byte, t) ← readByte? t
    if 0x80 ≤ byte ∧ byte < 0xC0 then readContinuation? (n * 0x40 + byte % 0x40) count t else none

/-- Reads a character that is written in escaped bytes. -/
def readEscapedChar? (t : Text) : Option (Char × Text) := do
  let (byte, t) ← readByte? t
  let (count, n) ← leadByte? byte
  let (n, t) ← readContinuation? n count t
  return (Char.ofNat n, t)

/-- A character of a tag; the second line is for tags in angle brackets only. -/
def isTagChar (verbatim : Bool) (c : Char) : Bool :=
  isNameChar c || ";/?:@&=+$.%!~*'()".toList.contains c || (verbatim && ",[]".toList.contains c)

/-- Reads the characters of a tag. -/
def readTagText? (verbatim : Bool) : (fuel : Nat) → Text → Option (Text × Text)
  | 0, t => some ([], t)
  | _, [] => some ([], [])
  | fuel + 1, c :: t =>
    if !isTagChar verbatim c then some ([], c :: t)
    else if c = '%' then do
      let (c, t) ← readEscapedChar? (c :: t)
      let (text, t) ← readTagText? verbatim fuel t
      return (c :: text, t)
    else (readTagText? verbatim fuel t).map fun (text, t) => (c :: text, t)

/-- Reads the rest of a tag whose beginning, if any, has been read; the whole must not be empty. The
exclamation mark at the beginning is not kept. -/
def readTagRest? (verbatim : Bool) (beginning t : Text) : Option (Text × Text) := do
  let (text, rest) ← readTagText? verbatim t.length t
  if beginning = [] ∧ rest.length = t.length then none
  else some (beginning.drop 1 ++ text, rest)

/-- Reads the handle of a tag: an exclamation mark, a name, and another exclamation mark if there is
one. -/
def readHandle? : Text → Option (Text × Text)
  | '!' :: t =>
    let name := t.takeWhile isNameChar
    match t.dropWhile isNameChar with
    | '!' :: rest => some ('!' :: name ++ ['!'], rest)
    | rest => some ('!' :: name, rest)
  | _ => none

/-- Whether a handle ends as it begins. -/
def isClosedHandle (handle : Text) : Bool := handle.length > 1 && handle.getLast? = some '!'

/-- Reads a tag with its exclamation mark: its handle and the rest of it. -/
def readTag? (flow : Bool) (t : Text) : Option ((Text × Text) × Text) := do
  let (tag, rest) ←
    match t with
    | '!' :: '<' :: t =>
      match readTagRest? true [] t with
      | some (suffix, '>' :: rest) => some (([], suffix), rest)
      | _ => none
    | t => do
      let (handle, t) ← readHandle? t
      if isClosedHandle handle then
        let (suffix, rest) ← readTagRest? false [] t
        return ((handle, suffix), rest)
      else
        let (suffix, rest) ← readTagRest? false handle t
        return (if suffix = [] then ([], ['!']) else (['!'], suffix), rest)
  if atGap rest || (flow && rest.head? = some ',') then some (tag, rest) else none

/-- Reads a number of at most nine digits. -/
def readVersionNumber? (t : Text) : Option (Nat × Text) :=
  let digits := t.takeWhile Char.isDigit
  if digits.length ≤ 9 then (Number.readNat? 10 digits).map (·, t.dropWhile Char.isDigit) else none

/-- Reads the version that a directive declares. -/
def readVersion? (t : Text) : Option (Token × Text) := do
  match ← readVersionNumber? (t.dropWhile isSpace) with
  | (major, '.' :: t) =>
    let (minor, t) ← readVersionNumber? t
    return (.versionDirective major minor, t)
  | _ => none

/-- Reads the handle that a directive declares, and what it stands for. -/
def readTagDirective? (t : Text) : Option (Token × Text) := do
  let (handle, t) ← readHandle? (t.dropWhile isSpace)
  if handle ≠ ['!'] ∧ !isClosedHandle handle then none
  else if (t.head?.map isSpace).getD false then
    let (expansion, t) ← readTagRest? true [] (t.dropWhile isSpace)
    if atGap t then some (.tagDirective handle expansion, t) else none
  else none

/-- Reads a directive behind its percent sign, up to the end of the line. -/
def readDirective? (t : Text) : Option (Token × Text) := do
  let name := t.takeWhile isNameChar
  let rest := t.dropWhile isNameChar
  let (token, rest) ←
    if !atGap rest then none
    else if name = "YAML".toList then readVersion? rest
    else if name = "TAG".toList then readTagDirective? rest
    else none
  let rest ← dropLineRest? rest
  return (token, dropBreak rest)

end PubList.Yaml
