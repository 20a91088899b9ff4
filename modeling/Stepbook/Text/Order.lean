/-!
# The order of texts and paths

Files are listed in the order of the names on the way to them, and names are
ordered by the code points of their characters.  Both are the same order of
lists: the first difference decides, and a list comes before its extensions.

## Main definitions

* `lexLe le` — that order, over an order of the items.
* `textLe` — the order of names.
* `namesLe` — the order of lists of names.
-/

namespace Stepbook.Text

/-- Whether a list comes before another one or is the same: the first items that
differ decide. -/
def lexLe {α : Type} [DecidableEq α] (le : α → α → Bool) : List α → List α → Bool
  | [], _ => true
  | _ :: _, [] => false
  | a :: s, b :: t => if a = b then lexLe le s t else le a b

/-- The order of names, by code points. -/
def textLe (s t : String) : Bool :=
  lexLe (fun a b : Char => decide (a.toNat ≤ b.toNat)) s.toList t.toList

/-- The order of lists of names. -/
def namesLe (s t : List String) : Bool := lexLe textLe s t

end Stepbook.Text
