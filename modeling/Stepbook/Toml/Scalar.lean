import Stepbook.Data
import Stepbook.Toml.Lexeme

/-!
# Numbers, dates and times of a configuration text

## Main definitions

* `boolean?`, `number?` — truth values and numbers.
* `moment?` — a date, a time of day, or both with an optional offset.

## Design notes

Each reader takes as much of the text as it can and leaves the rest, so
`12` is read from `12.` and what follows is refused by the statement around it.
-/

namespace Stepbook.Toml

open Stepbook.Text

/-- The text before the rest of it. -/
def consumed (s rest : List Char) : String := String.ofList (s.take (s.length - rest.length))

/-- A truth value. -/
def boolean? (s : List Char) : Option (Data × List Char) :=
  ((afterPrefix? "true".toList s).map fun r => (.boolean true, r)).or
    ((afterPrefix? "false".toList s).map fun r => (.boolean false, r))

/-! ### Numbers -/

/-- The text behind a run of digits, with single underscores between digits. -/
def afterDigits (isDigit : Char → Bool) : List Char → List Char
  | '_' :: c :: s => if isDigit c then afterDigits isDigit s else '_' :: c :: s
  | c :: s => if isDigit c then afterDigits isDigit s else c :: s
  | [] => []

/-- The text behind a digit and the run it starts. -/
def afterRun? (isDigit : Char → Bool) : List Char → Option (List Char)
  | c :: s => if isDigit c then some (afterDigits isDigit s) else none
  | [] => none

/-- The value of digits in a base; whatever is no digit is passed over. -/
def digitsValue (base : Nat) (s : List Char) : Nat :=
  s.foldl (fun n c => (hexDigit? c).elim n fun d => n * base + d) 0

/-- The bases that a leading zero and a letter announce. -/
def bases : List (Char × Nat × (Char → Bool)) :=
  [('x', 16, fun c => (hexDigit? c).isSome), ('b', 2, fun c => c == '0' || c == '1'),
   ('o', 8, fun c => '0' ≤ c && c ≤ '7')]

/-- A number in one of the announced bases. -/
def announced? : List Char → Option (Data × List Char)
  | '0' :: c :: s =>
    match bases.find? fun b => b.1 == c with
    | none => none
    | some (_, base, isDigit) =>
      (afterRun? isDigit s).map fun rest =>
        (.integer (digitsValue base (s.take (s.length - rest.length))), rest)
  | _ => none

/-- The text behind a sign, if there is one. -/
def afterSign : List Char → List Char
  | c :: s => if c = '+' || c = '-' then s else c :: s
  | [] => []

/-- The text behind a whole decimal number without its sign. -/
def afterWhole? : List Char → Option (List Char)
  | '0' :: s => some s
  | s => afterRun? Char.isDigit s

/-- The text behind a fraction, if there is one. -/
def afterFraction (s : List Char) : List Char :=
  match s with
  | '.' :: rest => (afterRun? Char.isDigit rest).getD s
  | _ => s

/-- The text behind an exponent, if there is one. -/
def afterExponent (s : List Char) : List Char :=
  match s with
  | c :: rest =>
    if c = 'e' || c = 'E' then (afterRun? Char.isDigit (afterSign rest)).getD s else s
  | [] => s

/-- The most digits of a whole decimal number that are read. -/
def mostDigits : Nat := 4300

/-- A decimal number, with or without fraction and exponent.  A whole number
with too many digits is a fault. -/
def decimal? (s : List Char) : Option (Parse Data) :=
  (afterWhole? (afterSign s)).map fun whole =>
    let rest := afterExponent (afterFraction whole)
    if rest.length < whole.length then .ok (.decimal (consumed s rest), rest)
    else
      let digits := (s.take (s.length - whole.length)).filter Char.isDigit
      if mostDigits < digits.length then fault (.tooManyDigits digits.length) s
      else
        let n : Int := digitsValue 10 digits
        .ok (.integer (if s.head? = some '-' then -n else n), whole)

/-- Infinity, or not a number. -/
def special? (s : List Char) : Option (Data × List Char) :=
  let rest := afterSign s
  ((afterPrefix? "inf".toList rest).or (afterPrefix? "nan".toList rest)).map fun r =>
    (.decimal (consumed s r), r)

/-- A number. -/
def number? (s : List Char) : Option (Parse Data) :=
  ((announced? s).map .ok).or ((decimal? s).or ((special? s).map .ok))

/-! ### Dates and times -/

/-- A number of two digits within bounds. -/
def twoDigits? (least greatest : Nat) : List Char → Option (Nat × List Char)
  | a :: b :: s =>
    let n := (a.toNat - 0x30) * 10 + (b.toNat - 0x30)
    if a.isDigit && b.isDigit && least ≤ n && n ≤ greatest then some (n, s) else none
  | _ => none

/-- The text behind a time of day. -/
def afterClock? (s : List Char) : Option (List Char) := do
  let (_, s) ← twoDigits? 0 23 s
  let (_, s) ← twoDigits? 0 59 (← afterPrefix? [':'] s)
  let (_, s) ← twoDigits? 0 59 (← afterPrefix? [':'] s)
  match s with
  | '.' :: c :: rest => if c.isDigit then some (rest.dropWhile Char.isDigit) else some s
  | _ => some s

/-- The text behind an offset from universal time, if there is one. -/
def afterOffset (s : List Char) : List Char :=
  match s with
  | c :: rest =>
    if c = 'Z' || c = 'z' then rest
    else if c = '+' || c = '-' then
      (do
        let (_, r) ← twoDigits? 0 23 rest
        let (_, r) ← twoDigits? 0 59 (← afterPrefix? [':'] r)
        some r).getD s
    else s
  | [] => s

/-- Year, month and day, the month from 1 to 12 and the day from 1 to 31. -/
def date? : List Char → Option ((Nat × Nat × Nat) × List Char)
  | y₁ :: y₂ :: y₃ :: y₄ :: '-' :: s => do
    let (century, _) ← twoDigits? 0 99 [y₁, y₂]
    let (year, _) ← twoDigits? 0 99 [y₃, y₄]
    let (month, s) ← twoDigits? 1 12 s
    let (day, s) ← twoDigits? 1 31 (← afterPrefix? ['-'] s)
    some ((century * 100 + year, month, day), s)
  | _ => none

/-- The number of days of a month. -/
def daysOf (year month : Nat) : Nat :=
  if month = 2 then
    if year % 4 = 0 && (year % 100 != 0 || year % 400 = 0) then 29 else 28
  else if [4, 6, 9, 11].contains month then 30 else 31

/-- A date, a time of day, or both.  A date that the calendar does not have is a
fault. -/
def moment? (s : List Char) : Option (Parse Data) :=
  match date? s with
  | some ((year, month, day), afterDate) =>
    if year = 0 || daysOf year month < day then some (fault .date s)
    else
      let rest :=
        match afterDate with
        | c :: r =>
          if c = 'T' || c = 't' || c = ' ' then
            ((afterClock? r).map afterOffset).getD afterDate
          else afterDate
        | [] => afterDate
      some (.ok (.moment (consumed s rest), rest))
  | none => (afterClock? s).map fun rest => .ok (.moment (consumed s rest), rest)

end Stepbook.Toml
