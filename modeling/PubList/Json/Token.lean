import PubList.Json.Number

/-!
# JSON tokens

A JSON text is a list of marks, words, numbers and quoted texts with blanks between them. Each
lexeme is read together with its length.
-/

namespace PubList.Json

inductive Token where
  | openList
  | closeList
  | openMap
  | closeMap
  | colon
  | comma
  | text (t : Text)
  /-- A number or a word for a value. -/
  | plain (value : Data)

/-- The character of an escape that is one letter. -/
def escaped? (c : Char) : Option Char :=
  if c = '"' ∨ c = '\\' ∨ c = '/' then some c
  else if c = 'n' then some '\n'
  else if c = 't' then some '\t'
  else if c = 'r' then some '\r'
  else if c = 'b' then some (Char.ofNat 8)
  else if c = 'f' then some (Char.ofNat 12)
  else none

/-- The number of four hexadecimal digits. -/
def unit? (a b c d : Char) : Option Nat := Number.readNat? 16 [a, b, c, d]

/-- Whether a 16-bit unit is the first or the second of a pair. -/
def isHigh (n : Nat) : Bool := 0xD800 ≤ n && n < 0xDC00
def isLow (n : Nat) : Bool := 0xDC00 ≤ n && n < 0xE000

/-- The character that a pair of 16-bit units stands for. -/
def pairChar (high low : Nat) : Char :=
  Char.ofNat (0x10000 + (high - 0xD800) * 0x400 + (low - 0xDC00))

/-- Puts a character in front of a quoted text that has been read, over `size` characters. -/
def prepend (c : Char) (size : Nat) : Option (Text × Nat) → Option (Text × Nat) :=
  Option.map fun (t, n) => (c :: t, n + size)

/-- Reads a quoted text behind its opening quote: the text, and how many characters it takes with
the closing quote. -/
def readQuoted? : Text → Option (Text × Nat)
  | [] => none
  | '"' :: _ => some ([], 1)
  | '\\' :: 'u' :: a :: b :: c :: d :: '\\' :: 'u' :: a' :: b' :: c' :: d' :: t =>
    match unit? a b c d with
    | none => none
    | some n =>
      if isHigh n then
        match unit? a' b' c' d' with
        | none => none
        | some low => if isLow low then prepend (pairChar n low) 12 (readQuoted? t) else none
      else if isLow n then none
      else prepend (Char.ofNat n) 6 (readQuoted? ('\\' :: 'u' :: a' :: b' :: c' :: d' :: t))
  | '\\' :: 'u' :: a :: b :: c :: d :: t =>
    match unit? a b c d with
    | none => none
    | some n => if isHigh n || isLow n then none else prepend (Char.ofNat n) 6 (readQuoted? t)
  | '\\' :: c :: t =>
    match escaped? c with
    | none => none
    | some c => prepend c 2 (readQuoted? t)
  | c :: t => if c = '\\' || c.toNat < 32 then none else prepend c 1 (readQuoted? t)

/-- The value that a word stands for. -/
def word? (t : Text) : Option Data :=
  if t = "null".toList then some .null
  else if t = "true".toList then some (.bool true)
  else if t = "false".toList then some (.bool false)
  else none

def isNumberChar (c : Char) : Bool :=
  c.isDigit || c = '-' || c = '+' || c = '.' || c = 'e' || c = 'E'

def isBlank (c : Char) : Bool := c = ' ' || c = '\n' || c = '\r' || c = '\t'

/-- The mark that a character is. -/
def mark? (c : Char) : Option Token :=
  if c = '[' then some .openList
  else if c = ']' then some .closeList
  else if c = '{' then some .openMap
  else if c = '}' then some .closeMap
  else if c = ':' then some .colon
  else if c = ',' then some .comma
  else none

/-- Reads the token that begins with `c`: the token, and how many characters of `t` belong to it. -/
def readToken? (c : Char) (t : Text) : Option (Token × Nat) :=
  match mark? c with
  | some token => some (token, 0)
  | none =>
    if c = '"' then (readQuoted? t).map fun (t, size) => (.text t, size)
    else if c = '-' || c.isDigit then
      let rest := t.takeWhile isNumberChar
      (readNumber? (c :: rest)).map fun n => (.plain (.number n), rest.length)
    else
      let rest := t.takeWhile Char.isAlpha
      (word? (c :: rest)).map fun value => (.plain value, rest.length)

/-- Splits a text into tokens. -/
def tokens? : Text → Option (List Token)
  | [] => some []
  | c :: t =>
    if isBlank c then tokens? t
    else
      match readToken? c t with
      | none => none
      | some (token, size) => (tokens? (t.drop size)).map (token :: ·)
termination_by t => t.length

end PubList.Json
