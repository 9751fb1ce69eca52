import PubList.Number.Integer
import PubList.Yaml.Folding

/-!
# Quoted scalars

Between single quotes a quote is written twice and nothing else is escaped. Between double quotes a
backslash begins an escape, and at the end of a line it joins the next line without a space.
-/

namespace PubList.Yaml

inductive QuoteMark where
  | single
  | double
  deriving DecidableEq, Repr

def QuoteMark.char : QuoteMark → Char
  | single => '\''
  | double => '"'

/-- The character that an escape of one letter stands for. -/
def escaped? (c : Char) : Option Char :=
  match c with
  | '0' => some (Char.ofNat 0)
  | 'a' => some (Char.ofNat 0x07)
  | 'b' => some (Char.ofNat 0x08)
  | 't' => some '\t'
  | '\t' => some '\t'
  | 'n' => some '\n'
  | 'v' => some (Char.ofNat 0x0B)
  | 'f' => some (Char.ofNat 0x0C)
  | 'r' => some '\r'
  | 'e' => some (Char.ofNat 0x1B)
  | ' ' => some ' '
  | '"' => some '"'
  | '/' => some '/'
  | '\\' => some '\\'
  | 'N' => some (Char.ofNat 0x85)
  | '_' => some (Char.ofNat 0xA0)
  | 'L' => some (Char.ofNat 0x2028)
  | 'P' => some (Char.ofNat 0x2029)
  | _ => none

/-- How many hexadecimal digits follow the letter of an escape. -/
def escapeDigits? (c : Char) : Option Nat :=
  match c with
  | 'x' => some 2
  | 'u' => some 4
  | 'U' => some 8
  | _ => none

/-- The character with the code point that a number of hexadecimal digits gives. -/
def codePoint? (count : Nat) (t : Text) : Option Char :=
  let digits := t.take count
  if digits.length = count then Number.readCodePoint? digits else none

/-- Reads on in a quoted scalar at the given column, after `size` characters: its text, and how many
characters were taken with the closing quote. -/
def readQuoted? (mark : QuoteMark) (g : Gathered) (column size : Nat) :
    Text → Option (Text × Nat)
  | [] => none
  | c :: t =>
    if isBreak c then
      if c = '\r' && t.head? = some '\n' then readQuoted? mark g column (size + 1) t
      else readQuoted? mark (g.addBreak c) 0 (size + 1) t
    else if isSpace c then readQuoted? mark (g.addBlank c) (column + 1) (size + 1) t
    else if column = 0 && atDocumentMark (c :: t) then none
    else if c = mark.char then
      if mark = .single && t.head? = some '\'' then
        readQuoted? mark (g.add c) (column + 2) (size + 2) (t.drop 1)
      else some (g.settle.text.reverse, size + 1)
    else if mark = .double && c = '\\' then
      match t with
      | [] => none
      | e :: rest =>
        if isBreak e then
          let behind := dropBreak (e :: rest)
          let size := size + 1 + ((e :: rest).length - behind.length)
          readQuoted? mark { g.settle with folding := true } 0 size behind
        else
          match escapeDigits? e with
          | some count =>
            match codePoint? count rest with
            | some c =>
              readQuoted? mark (g.add c) (column + 2 + count) (size + 2 + count) (rest.drop count)
            | none => none
          | none =>
            match escaped? e with
            | some c => readQuoted? mark (g.add c) (column + 2) (size + 2) rest
            | none => none
    else readQuoted? mark (g.add c) (column + 1) (size + 1) t
termination_by t => t.length
decreasing_by
  all_goals simp_wf
  all_goals try omega
  have := length_dropBreak_le (e :: rest)
  simp at this
  omega

end PubList.Yaml
