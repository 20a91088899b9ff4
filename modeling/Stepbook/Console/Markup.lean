import Stepbook.Console.Emoji

/-!
# Console markup

The console takes styled text: a style is switched on and off by tags such as
`[red]` and `[/red]`, and backslashes keep a tag from being one.  Messages hold
text of any kind, so they are escaped before they are styled.

## Main definitions

* `Markup.tag?` — the tag at the start of a text.
* `Markup.escape` — the markup of a text.
* `Markup.piecesBehind` — the pieces of markup between tags.
* `Markup.plainText` — what markup shows, styles aside.

## Design notes

Before a tag two backslashes show as one, and a single one makes the tag text.
Elsewhere a backslash shows as it is, except before a bracket that opens no tag,
where it is lost.  A text that ends in one backslash has it doubled, because a
tag may come next.  Emoji codes are replaced piece by piece, so no code reaches
over a tag.
-/

namespace Stepbook.Console.Markup

/-- Any character but a bracket. -/
def isInner (c : Char) : Bool := c != '[' && c != ']'

/-- A character that the text of a tag may start with. -/
def isTagStart (c : Char) : Bool := c.isLower || c == '#' || c == '/' || c == '@'

/-- The tag at the start of a text, brackets included, and what follows it. -/
def tag? : List Char → Option (List Char × List Char)
  | '[' :: c :: s =>
    if isTagStart c then
      match s.dropWhile isInner with
      | ']' :: rest => some ('[' :: c :: s.takeWhile isInner ++ [']'], rest)
      | _ => none
    else none
  | _ => none

/-- A text is its first tag and what follows the tag. -/
theorem eq_append_of_tag? {s tag rest : List Char} (h : tag? s = some (tag, rest)) :
    s = tag ++ rest ∧ tag ≠ [] := by
  unfold tag? at h
  split at h
  · split at h
    · split at h
      · rename_i hr
        cases h
        refine ⟨?_, by simp⟩
        simp [← hr, List.takeWhile_append_dropWhile]
      · cases h
    · cases h
  · cases h

theorem length_lt_of_tag? {s tag rest : List Char} (h : tag? s = some (tag, rest)) :
    rest.length < s.length := by
  obtain ⟨rfl, hne⟩ := eq_append_of_tag? h
  have := List.length_pos_iff.mpr hne
  simp
  omega

/-- The markup of a text behind a run of backslashes. -/
def escapeBehind (run : Nat) : List Char → List Char
  | [] => if run = 1 then ['\\'] else []
  | c :: s =>
    match _h : tag? (c :: s) with
    | some (tag, rest) => List.replicate run '\\' ++ '\\' :: tag ++ escapeBehind 0 rest
    | none => c :: escapeBehind (if c = '\\' then run + 1 else 0) s
termination_by s => s.length
decreasing_by
  · exact length_lt_of_tag? ‹_›
  · simp

/-- The markup of a text. -/
def escape (s : List Char) : List Char := escapeBehind 0 s

/-- Put a text in front of the first of some pieces. -/
def extendFirst (text : List Char) : List (List Char) → List (List Char)
  | [] => [text]
  | piece :: rest => (text ++ piece) :: rest

/-- The pieces that markup behind a run of backslashes falls into: the text
between tags, the backslashes before a tag, and tags that are text. -/
def piecesBehind (run : Nat) : List Char → List (List Char)
  | [] => [List.replicate run '\\']
  | c :: s =>
    match _h : tag? (c :: s) with
    | some (tag, rest) =>
      [] :: List.replicate (run / 2) '\\' :: (if run % 2 = 1 then tag else []) ::
        piecesBehind 0 rest
    | none =>
      if c = '\\' then piecesBehind (run + 1) s
      else
        extendFirst (List.replicate (if c = '[' then run - 1 else run) '\\' ++ [c])
          (piecesBehind 0 s)
termination_by s => s.length
decreasing_by
  · exact length_lt_of_tag? ‹_›
  · simp
  · simp

/-- What markup shows, styles aside. -/
def plainText (markup : List Char) : List Char := (piecesBehind 0 markup).flatMap Emoji.replace

end Stepbook.Console.Markup
