import Stepbook.Console.Emoji.Names
import Stepbook.Text.Blank

/-!
# Emoji codes

The console shows a name between colons as an emoji: `:key:` stands for a key.

## Main definitions

* `Emoji.ofName?` — the emoji of a name.
* `Emoji.code?` — the code that a colon opens.
* `Emoji.replace` — a text with its codes replaced.

## Design notes

Codes are taken from left to right, and a code that names no emoji is passed
over as a whole, closing colon included.  There are no blanks in a code.  A name
may end in `-text` or `-emoji`, which asks for one of the two presentations.
-/

namespace Stepbook.Console.Emoji

open Stepbook.Text

/-! ### Names -/

/-- A letter in lower case.  Names hold no letters but those of ASCII and of the
Latin-1 block, which are also the lower case of the Kelvin and the Ångström
sign. -/
def lowerCase (c : Char) : Char :=
  if c = '\u212a' then 'k'
  else if c = '\u212b' then 'å'
  else if c.isUpper || (0xC0 ≤ c.toNat && c.toNat ≤ 0xDE && c.toNat != 0xD7) then
    Char.ofNat (c.toNat + 0x20)
  else c

/-- The emoji in front of a name, in a list where emoji and names take turns. -/
def inFrontOf? (name : List Char) : List (List Char) → Option (List Char)
  | emoji :: other :: rest => if other = name then some emoji else inFrontOf? name rest
  | _ => none

/-- The emoji of a name. -/
def ofName? (name : List Char) : Option (List Char) := do
  let first ← name.head?
  let group ← List.lookup first catalogue
  inFrontOf? name (words group.toList)

/-! ### Codes -/

/-- The ends of names that ask for a presentation, with the selectors for it. -/
def presentations : List (List Char × Char) :=
  [("-text".toList, '\ufe0e'), ("-emoji".toList, '\ufe0f')]

/-- A code without its colons, as a name and the selector it asks for. -/
def nameOf (code : List Char) : List Char × List Char :=
  match presentations.find? fun p => p.1.isSuffixOf code with
  | some (ending, selector) => (code.take (code.length - ending.length), [selector])
  | none => (code, [])

/-- What a code without its colons shows. -/
def shown (code : List Char) : List Char :=
  let (name, selector) := nameOf code
  match ofName? (name.map lowerCase) with
  | some emoji => emoji ++ selector
  | none => ':' :: code ++ [':']

/-- A character that a code may hold. -/
def isInner (c : Char) : Bool := c != ':' && !isBlank c

/-- The code behind an opening colon, and the text behind its closing colon. -/
def code? (s : List Char) : Option (List Char × List Char) :=
  match s.dropWhile isInner with
  | ':' :: rest => some (s.takeWhile isInner, rest)
  | _ => none

/-- A text behind a colon is its code, a colon, and the rest. -/
theorem eq_append_of_code? {s code rest : List Char} (h : code? s = some (code, rest)) :
    s = code ++ ':' :: rest := by
  unfold code? at h
  split at h
  · rename_i hr
    cases h
    rw [← hr, List.takeWhile_append_dropWhile]
  · cases h

theorem length_lt_of_code? {s code rest : List Char} (h : code? s = some (code, rest)) :
    rest.length < s.length := by
  rw [eq_append_of_code? h]
  simp
  omega

/-- A text with its codes replaced. -/
def replace : List Char → List Char
  | [] => []
  | c :: s =>
    if c = ':' then
      match _h : code? s with
      | some (code, rest) => shown code ++ replace rest
      | none => c :: replace s
    else c :: replace s
termination_by s => s.length
decreasing_by
  · have := length_lt_of_code? ‹_›
    simp
    omega
  · simp
  · simp

end Stepbook.Console.Emoji
