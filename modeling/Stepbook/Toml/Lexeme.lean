import Stepbook.Text.Enclosed
import Stepbook.Toml.Fault

/-!
# Blanks, strings and keys of a configuration text

## Main definitions

* `skipSpace`, `skipComment`, `skipBlank` — what stands between lexemes.
* `literalString`, `basicString` — strings, whose escapes are resolved in basic
  ones; both have a form over several lines.
* `keyPart`, `key` — a key is a list of parts with points between them.

## Design notes

Control characters are refused everywhere, with the tab as the exception, and
with the line feed as another one in strings over several lines.
-/

namespace Stepbook.Toml

open Stepbook.Text

/-- A blank within a line. -/
def isSpace (c : Char) : Bool := c == ' ' || c == '\t'

/-- A control character that is never allowed within a line. -/
def isControl (c : Char) : Bool := (c.toNat < 0x20 && c != '\t') || c.toNat == 0x7F

/-- A character of a bare key. -/
def isBare (c : Char) : Bool := c.isAlphanum || c == '-' || c == '_'

/-- The text behind blanks. -/
def skipSpace (s : List Char) : List Char := s.dropWhile isSpace

/-- The text behind a comment, if it starts with one.  The comment reaches to
the end of the line. -/
def skipComment : List Char → Except Fault (List Char)
  | '#' :: s =>
    match (s.takeWhile (· != '\n')).find? isControl with
    | some c => fault (.character c) s
    | none => .ok (s.dropWhile (· != '\n'))
  | s => .ok s

/-- The text behind blanks, line feeds and comments.  The fuel bounds the number
of comments. -/
def skipBlankUpTo : Nat → List Char → Except Fault (List Char)
  | 0, s => .ok s
  | fuel + 1, s =>
    match s.dropWhile fun c => isSpace c || c == '\n' with
    | '#' :: rest => skipComment ('#' :: rest) >>= skipBlankUpTo fuel
    | rest => .ok rest

/-- The text behind blanks, line feeds and comments. -/
def skipBlank (s : List Char) : Except Fault (List Char) := skipBlankUpTo (s.length + 1) s

/-! ### Strings -/

/-- At most two more quotes belong to a string over several lines that ends in
more than three. -/
def withQuotes (mark : Char) (text : List Char) : List Char → List Char × List Char
  | a :: b :: rest =>
    if a = mark then
      if b = mark then (text ++ [mark, mark], rest) else (text ++ [mark], b :: rest)
    else (text, a :: b :: rest)
  | [a] => if a = mark then (text ++ [mark], []) else (text, [a])
  | [] => (text, [])

/-- The rest of a literal string on one line. -/
def literalString (s : List Char) : Parse (List Char) :=
  let body := s.takeWhile (· != '\'')
  match s.dropWhile (· != '\'') with
  | [] => fault .unterminatedString []
  | _ :: rest =>
    match body.find? isControl with
    | some c => fault (.character c) s
    | none => .ok (body, rest)

/-- The text up to three single quotes, the last character first. -/
def literalLines (acc : List Char) : List Char → Parse (List Char)
  | '\'' :: '\'' :: '\'' :: rest => .ok (withQuotes '\'' acc.reverse rest)
  | [] => fault .unterminatedString []
  | c :: rest =>
    if isControl c && c != '\n' then fault (.character c) (c :: rest)
    else literalLines (c :: acc) rest

/-- The value of a hexadecimal digit. -/
def hexDigit? (c : Char) : Option Nat :=
  if c.isDigit then some (c.toNat - 0x30)
  else if 'a' ≤ c && c ≤ 'f' then some (c.toNat - 0x57)
  else if 'A' ≤ c && c ≤ 'F' then some (c.toNat - 0x37)
  else none

/-- The character with the given hexadecimal code. -/
def codePoint? (digits : List Char) : Option Char :=
  match digits.mapM hexDigit? with
  | none => none
  | some ds =>
    let n := ds.foldl (fun n d => n * 16 + d) 0
    if n.isValidChar then some (Char.ofNat n) else none

/-- The character that a backslash and one more character stand for. -/
def shortEscape? (c : Char) : Option Char :=
  if c = 'b' then some (Char.ofNat 0x08)
  else if c = 't' then some '\t'
  else if c = 'n' then some '\n'
  else if c = 'f' then some (Char.ofNat 0x0C)
  else if c = 'r' then some '\r'
  else if c = '"' || c = '\\' then some c
  else none

/-- Where the reading of a basic string stands. -/
inductive StringMode where
  /-- Within the text. -/
  | inText
  /-- Behind a backslash that stands at the end of a line: blanks and line feeds
  are passed over, and there must be a line feed before the text goes on. -/
  | atLineEnd (seen : Bool)

/-- The rest of a basic string.  The accumulator holds the text so far, the last
character first. -/
def basicString (multiline : Bool) (mode : StringMode) (acc : List Char) :
    List Char → Parse (List Char)
  | [] => fault .unterminatedString []
  | c :: s =>
    match mode, isSpace c, c == '\n' with
    | .atLineEnd seen, true, _ => basicString multiline (.atLineEnd seen) acc s
    | .atLineEnd _, _, true => basicString multiline (.atLineEnd true) acc s
    | .atLineEnd false, _, _ => fault .escape (c :: s)
    | _, _, _ =>
      if c = '"' then
        if multiline then
          match s with
          | '"' :: '"' :: rest => .ok (withQuotes '"' acc.reverse rest)
          | _ => basicString multiline .inText ('"' :: acc) s
        else .ok (acc.reverse, s)
      else if c = '\\' then
        match s with
        | 'u' :: h₁ :: h₂ :: h₃ :: h₄ :: rest =>
          match codePoint? [h₁, h₂, h₃, h₄] with
          | some d => basicString multiline .inText (d :: acc) rest
          | none => fault .codePoint rest
        | 'U' :: h₁ :: h₂ :: h₃ :: h₄ :: h₅ :: h₆ :: h₇ :: h₈ :: rest =>
          match codePoint? [h₁, h₂, h₃, h₄, h₅, h₆, h₇, h₈] with
          | some d => basicString multiline .inText (d :: acc) rest
          | none => fault .codePoint rest
        | d :: rest =>
          if multiline && (isSpace d || d == '\n') then
            basicString multiline (.atLineEnd (d == '\n')) acc rest
          else
            match shortEscape? d with
            | some e => basicString multiline .inText (e :: acc) rest
            | none => fault .escape s
        | [] => fault .escape []
      else if isControl c && !(multiline && c == '\n') then fault (.character c) (c :: s)
      else basicString multiline .inText (c :: acc) s

/-- A string, in any of its four forms, if the text starts with a quote. -/
def string? (s : List Char) : Option (Parse (List Char)) :=
  let behindLineFeed (s : List Char) : List Char := (afterPrefix? ['\n'] s).getD s
  match s with
  | '"' :: '"' :: '"' :: rest => some (basicString true .inText [] (behindLineFeed rest))
  | '"' :: rest => some (basicString false .inText [] rest)
  | '\'' :: '\'' :: '\'' :: rest => some (literalLines [] (behindLineFeed rest))
  | '\'' :: rest => some (literalString rest)
  | _ => none

/-! ### Keys -/

/-- A key: the names on the way to a value. -/
abbrev Key := List String

/-- One part of a key: bare, or a string on one line. -/
def keyPart (s : List Char) : Parse String :=
  match s with
  | '"' :: rest => (basicString false .inText [] rest).map fun r => (String.ofList r.1, r.2)
  | '\'' :: rest => (literalString rest).map fun r => (String.ofList r.1, r.2)
  | _ =>
    match s.takeWhile isBare with
    | [] => fault .key s
    | part => .ok (String.ofList part, s.dropWhile isBare)

/-- The parts of a key, with points and blanks between them.  The fuel bounds
their number. -/
def keyUpTo : Nat → List Char → Except Fault (Key × List Char)
  | 0, s => fault .key s
  | fuel + 1, s => do
    let (part, rest) ← keyPart s
    match skipSpace rest with
    | '.' :: rest =>
      let (parts, rest) ← keyUpTo fuel (skipSpace rest)
      return (part :: parts, rest)
    | rest => return ([part], rest)

/-- A key and the text behind it and behind blanks. -/
def key (s : List Char) : Parse Key := keyUpTo (s.length + 1) s

end Stepbook.Toml
