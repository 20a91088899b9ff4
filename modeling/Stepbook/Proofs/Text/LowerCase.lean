/-!
# Lower case beyond ASCII

Words are recognised without regard to letter case by lower-casing their ASCII
letters.  Lower-casing all letters recognises the same words, as long as they are
spelled in ASCII letters and without a `k`.

## Main definitions

* `LowersTo` — a text and what it may be lower-cased to.

## Main statements

* `LowersTo.eq_iff` — a word is met by one lower-casing just if it is met by the other.

## Design notes

Most characters beyond ASCII are lower-cased to one character beyond ASCII, which may
hang on what stands around it, as for a final sigma.  Which one it is does not matter,
so that the relation leaves it open.  There are two exceptions: the Kelvin sign becomes
a `k`, and a dotted capital `I` an `i` with the dot behind it.
-/

namespace Stepbook.Text

/-- The two ends of the lower-casing of a text.  A character beyond ASCII that is
neither of the exceptions becomes some character beyond ASCII. -/
inductive LowersTo : List Char → List Char → Prop
  | nil : LowersTo [] []
  | ascii {c : Char} {s t : List Char} (hc : c.toNat < 128) (h : LowersTo s t) :
      LowersTo (c :: s) (c.toLower :: t)
  | kelvin {s t : List Char} (h : LowersTo s t) : LowersTo ('\u212A' :: s) ('k' :: t)
  | dotted {s t : List Char} (h : LowersTo s t) :
      LowersTo ('\u0130' :: s) ('i' :: '\u0307' :: t)
  | other {c d : Char} {s t : List Char} (hc : 128 ≤ c.toNat) (hd : 128 ≤ d.toNat)
      (h : LowersTo s t) : LowersTo (c :: s) (d :: t)

/-- A character beyond ASCII has no ASCII letter in its place. -/
theorem toLower_of_le {c : Char} (h : 128 ≤ c.toNat) : c.toLower = c := by
  have hupper : ¬ (c.val ≥ 'A'.val ∧ c.val ≤ 'Z'.val) := by
    rintro ⟨-, hle⟩
    have hle : c.toNat ≤ 90 := hle
    omega
  exact dif_neg hupper

/-- **Lower-casing all letters meets the same words**, if these are in ASCII letters
and have no `k`. -/
theorem LowersTo.eq_iff {s t w : List Char} (h : LowersTo s t)
    (hascii : ∀ c ∈ w, c.toNat < 128) (hk : 'k' ∉ w) : t = w ↔ s.map Char.toLower = w := by
  induction h generalizing w with
  | nil => rw [List.map_nil]
  | ascii _ _ ih =>
      cases w with
      | nil => simp
      | cons d w =>
          rw [List.map_cons, List.cons.injEq, List.cons.injEq,
            ih (fun c hc => hascii c (List.mem_cons_of_mem d hc)) (List.not_mem_of_not_mem_cons hk)]
  | kelvin _ _ =>
      -- the word has neither the `k` nor the sign
      constructor
      · rintro rfl
        exact absurd List.mem_cons_self hk
      · rintro rfl
        exact absurd (hascii '\u212A' List.mem_cons_self) (by decide)
  | dotted _ _ =>
      constructor
      · rintro rfl
        exact absurd (hascii '\u0307' (by simp)) (by decide)
      · rintro rfl
        exact absurd (hascii '\u0130' List.mem_cons_self) (by decide)
  | @other c d s t hc hd _ _ =>
      constructor
      · rintro rfl
        exact absurd (hascii d List.mem_cons_self) (by omega)
      · rintro rfl
        rw [List.map_cons, toLower_of_le hc] at hascii
        exact absurd (hascii c List.mem_cons_self) (by omega)

end Stepbook.Text
