/-!
# Optional groups of a match expression

An optional group `[text]?` keeps its text, set between two tags.  Optional
groups nest: the innermost ones are tagged first, which frees the brackets
around them, until no group is left.

## Main definitions

* `optionalGroup? s` — the text of the optional group at the start of `s`, and
  what follows the group.
* `tagInnermost s` — one pass: every optional group without brackets inside is
  tagged.
* `tagOptional s` — passes until one changes nothing.

## Design notes

A pass may lengthen the text, so the passes end because each removes an opening
bracket (`tagInnermost_eq_or_count_lt`).
-/

namespace Stepbook.Phrase

/-- The tag that opens an optional text. -/
def optionalOpen : List Char := "<span class='opt'>".toList

/-- The tag that closes an optional text. -/
def optionalClose : List Char := "</span>".toList

/-- Any character but a bracket. -/
def notBracket (c : Char) : Bool := c != '[' && c != ']'

/-- The text of the optional group at the start of `s` and what follows the
group.  The text holds no brackets. -/
def optionalGroup? : List Char → Option (List Char × List Char)
  | '[' :: s =>
    match s.dropWhile notBracket with
    | ']' :: '?' :: rest => some (s.takeWhile notBracket, rest)
    | _ => none
  | _ => none

/-- An optional group is its text between `[` and `]?`. -/
theorem eq_append_of_optionalGroup? {s body rest : List Char}
    (h : optionalGroup? s = some (body, rest)) : s = '[' :: (body ++ ']' :: '?' :: rest) := by
  unfold optionalGroup? at h
  split at h
  · rename_i t
    split at h
    · rename_i r hr
      cases h
      rw [← hr, List.takeWhile_append_dropWhile]
    · cases h
  · cases h

theorem length_lt_of_optionalGroup? {s body rest : List Char}
    (h : optionalGroup? s = some (body, rest)) : rest.length < s.length := by
  rw [eq_append_of_optionalGroup? h]
  simp
  omega

/-- One pass from the left: every optional group without brackets inside is
tagged. -/
def tagInnermost : List Char → List Char
  | [] => []
  | c :: s =>
    match _h : optionalGroup? (c :: s) with
    | some (body, rest) => optionalOpen ++ body ++ optionalClose ++ tagInnermost rest
    | none => c :: tagInnermost s
termination_by s => s.length
decreasing_by
  · exact length_lt_of_optionalGroup? ‹_›
  · simp

/-- A pass leaves the text alone or removes an opening bracket. -/
theorem tagInnermost_eq_or_count_lt (s : List Char) :
    tagInnermost s = s ∨ (tagInnermost s).count '[' < s.count '[' := by
  have hopen : optionalOpen.count '[' = 0 := by decide
  have hclose : optionalClose.count '[' = 0 := by decide
  induction s using tagInnermost.induct with
  | case1 => left; rw [tagInnermost]
  | case2 c s body rest h ih =>
    right
    have hs := eq_append_of_optionalGroup? h
    have hle : (tagInnermost rest).count '[' ≤ rest.count '[' := by
      rcases ih with ih | ih
      · exact Nat.le_of_eq (congrArg (List.count '[') ih)
      · exact Nat.le_of_lt ih
    rw [tagInnermost, h, hs]
    simp only [List.count_append, List.count_cons, hopen, hclose]
    simp
    omega
  | case3 c s h ih =>
    rw [tagInnermost, h]
    rcases ih with ih | ih
    · left; simp only [ih]
    · right
      simp only [List.count_cons]
      omega

/-- The text with every optional group tagged, from the innermost outwards. -/
def tagOptional (s : List Char) : List Char :=
  if _h : tagInnermost s = s then s else tagOptional (tagInnermost s)
termination_by s.count '['
decreasing_by exact (tagInnermost_eq_or_count_lt s).resolve_left ‹_›

end Stepbook.Phrase
