import Stepbook.Proofs.Toml.Draft
import Stepbook.Proofs.Toml.Scalar

/-!
# Values within values

The readers of values pass fuel on, and what they are given at the start exceeds what
their text can use up.  So more fuel makes no difference.

## Main definitions

* `Toml.items`, `Toml.entries` — the rest of an array and of an inline table, without
  fuel.

## Main statements

* `Toml.leaves_upTo` — what is left behind a value is an end of its text.
* `Toml.valueUpTo_eq_value`, `Toml.itemsUpTo_eq_items`, `Toml.entriesUpTo_eq_entries` — the
  readers of values with enough fuel.
* `Toml.value_of_array`, `Toml.value_of_table`, `Toml.value_of_nothing` — a value by what
  opens at its start.
-/

namespace Stepbook.Toml

open Stepbook.Text

/-! ## What opens and what closes -/

theorem opening_eq_array_iff {s rest : List Char} :
    opening s = .array rest ↔ s = '[' :: rest := by
  constructor
  · intro h
    unfold opening at h
    split at h <;> cases h
    rfl
  · rintro rfl
    rfl

theorem opening_eq_table_iff {s rest : List Char} :
    opening s = .table rest ↔ s = '\x7b' :: rest := by
  constructor
  · intro h
    unfold opening at h
    split at h <;> cases h
    rfl
  · rintro rfl
    rfl

theorem eq_cons_of_delimiter_eq_last {closing : Char} {s rest : List Char}
    (h : delimiter closing s = .last rest) : s = closing :: rest := by
  unfold delimiter at h
  split at h
  · rename_i c s
    split at h
    · rename_i hclosing
      cases h
      rw [hclosing]
    · split at h <;> cases h
  · cases h

theorem eq_cons_of_delimiter_eq_comma {closing : Char} {s rest : List Char}
    (h : delimiter closing s = .comma rest) : s = ',' :: rest := by
  unfold delimiter at h
  split at h
  · rename_i c s
    split at h
    · cases h
    · split at h
      · rename_i hcomma
        cases h
        rw [hcomma]
      · cases h
  · cases h

theorem eq_cons_of_afterPrefix? {c : Char} {s rest : List Char}
    (h : afterPrefix? [c] s = some rest) : s = c :: rest := eq_append_of_afterPrefix? h

/-! ## What is left -/

/-- A reader leaves an end of its text, or meets a fault. -/
abbrev Leaves {α : Type} (s : List Char) (r : Parse α) : Prop :=
  Within (fun _ => true) (fun p => p.2 <:+ s) r

section Leaves

variable {limits : Limits} {fuel : Nat}

theorem within_enter (room : Nat) (s : List Char) :
    Within (fun _ => true) (fun inside => inside = room - kept s ∧ limits.least s ≤ room)
      (limits.enter room s) := by
  unfold Limits.enter
  split
  · rename_i hle
    exact .ok ⟨rfl, hle⟩
  · exact .error rfl

variable (hvalue : ∀ room s, Leaves s (valueUpTo limits fuel room s))
  (hitems : ∀ room acc s, Leaves s (itemsUpTo limits fuel room acc s))
  (hentries : ∀ room d s, Leaves s (entriesUpTo limits fuel room d s))

include hitems hentries in
theorem leaves_valueUpTo_succ (room : Nat) (s : List Char) :
    Leaves s (valueUpTo limits (fuel + 1) room s) := by
  rw [valueUpTo]
  refine (within_enter room s).bind fun inside _ => ?_
  cases hopening : opening s with
  | array rest =>
      obtain rfl := opening_eq_array_iff.mp hopening
      refine (within_skipBlank rest).anyFault.bind fun t ht => ?_
      exact (hitems inside [] t).suffix (ht.trans (List.suffix_cons _ rest))
  | table rest =>
      obtain rfl := opening_eq_table_iff.mp hopening
      have hspace : skipSpace rest <:+ '\x7b' :: rest :=
        (skipSpace_suffix rest).trans (List.suffix_cons _ rest)
      dsimp only
      split
      · rename_i behind hbehind
        exact .ok ((suffix_of_afterPrefix? hbehind).trans hspace)
      · exact (hentries inside {} _).suffix hspace
  | nothing => exact within_scalar s

include hvalue hitems in
theorem leaves_itemsUpTo_succ (room : Nat) (acc : List Data) (s : List Char) :
    Leaves s (itemsUpTo limits (fuel + 1) room acc s) := by
  rw [itemsUpTo]
  split
  · rename_i rest hrest
    exact .ok (suffix_of_afterPrefix? hrest)
  · refine (hvalue room s).bind ?_
    rintro ⟨item, rest⟩ hrest
    refine (within_skipBlank rest).anyFault.bind fun t ht => ?_
    have htext : t <:+ s := ht.trans hrest
    cases hdelimiter : delimiter ']' t with
    | last behind =>
        rw [eq_cons_of_delimiter_eq_last hdelimiter] at htext
        exact .ok ((List.suffix_cons _ behind).trans htext)
    | comma more =>
        rw [eq_cons_of_delimiter_eq_comma hdelimiter] at htext
        have hmore : more <:+ s := (List.suffix_cons _ more).trans htext
        refine (within_skipBlank more).anyFault.bind fun u hu => ?_
        exact (hitems room _ u).suffix (hu.trans hmore)
    | missing => exact .error rfl

include hvalue hentries in
theorem leaves_entriesUpTo_succ (room : Nat) (d : Draft) (s : List Char) :
    Leaves s (entriesUpTo limits (fuel + 1) room d s) := by
  rw [entriesUpTo]
  refine (reads_key s).anyFault.bind ?_
  rintro ⟨k, rest⟩ hrest
  dsimp only
  split
  · exact .error rfl
  · rename_i behind hbehind
    have hbehind : skipSpace behind <:+ s :=
      (skipSpace_suffix behind).trans ((suffix_of_afterPrefix? hbehind).trans hrest)
    refine (hvalue room _).bind ?_
    rintro ⟨v, last⟩ hlast
    refine ((Draft.formOnly_assignInline d k v).orFault last).anyFault.bind fun grown _ => ?_
    have hend : skipSpace last <:+ s := (skipSpace_suffix last).trans (hlast.trans hbehind)
    dsimp only
    cases hdelimiter : delimiter '\x7d' (skipSpace last) with
    | last behind =>
        rw [eq_cons_of_delimiter_eq_last hdelimiter] at hend
        exact .ok ((List.suffix_cons _ behind).trans hend)
    | comma more =>
        rw [eq_cons_of_delimiter_eq_comma hdelimiter] at hend
        exact (hentries room grown _).suffix
          ((skipSpace_suffix more).trans ((List.suffix_cons _ more).trans hend))
    | missing => exact .error rfl

end Leaves

/-- **The readers of values** leave an end of their text, with any fuel. -/
theorem leaves_upTo (limits : Limits) (fuel : Nat) :
    (∀ room s, Leaves s (valueUpTo limits fuel room s)) ∧
    (∀ room acc s, Leaves s (itemsUpTo limits fuel room acc s)) ∧
    (∀ room d s, Leaves s (entriesUpTo limits fuel room d s)) := by
  induction fuel with
  | zero => exact ⟨fun _ _ => .error rfl, fun _ _ _ => .error rfl, fun _ _ _ => .error rfl⟩
  | succ fuel ih =>
      obtain ⟨hvalue, hitems, hentries⟩ := ih
      exact ⟨leaves_valueUpTo_succ hitems hentries, leaves_itemsUpTo_succ hvalue hitems,
        leaves_entriesUpTo_succ hvalue hentries⟩

/-! ## More fuel

A text of `n` characters uses up at most `2 * n + 1` units of fuel where a value starts,
and one more within an array or an inline table: each bracket costs two. -/

/-- Two readers behind a third one need to agree on what it comes to. -/
theorem bind_congr_of_eq_ok {α β : Type} {r : Except Fault α} {f g : α → Except Fault β}
    (h : ∀ a, r = .ok a → f a = g a) : r >>= f = r >>= g := by
  cases r with
  | ok a => exact h a rfl
  | error _ => rfl

section Fuel

variable {limits : Limits} {fuel : Nat}
variable
  (hvalue : ∀ room s, 2 * s.length + 1 ≤ fuel →
    valueUpTo limits (fuel + 1) room s = valueUpTo limits fuel room s)
  (hitems : ∀ room acc s, 2 * s.length + 2 ≤ fuel →
    itemsUpTo limits (fuel + 1) room acc s = itemsUpTo limits fuel room acc s)
  (hentries : ∀ room d s, 2 * s.length + 2 ≤ fuel →
    entriesUpTo limits (fuel + 1) room d s = entriesUpTo limits fuel room d s)

include hitems hentries in
theorem valueUpTo_succ_succ (room : Nat) (s : List Char) (hfuel : 2 * s.length + 1 ≤ fuel + 1) :
    valueUpTo limits (fuel + 2) room s = valueUpTo limits (fuel + 1) room s := by
  rw [valueUpTo, valueUpTo]
  refine bind_congr_of_eq_ok fun inside _ => ?_
  cases hopening : opening s with
  | array rest =>
      obtain rfl := opening_eq_array_iff.mp hopening
      refine bind_congr_of_eq_ok fun t ht => hitems inside [] t ?_
      have hle := ((within_skipBlank rest).of_eq_ok ht).length_le
      rw [List.length_cons] at hfuel
      omega
  | table rest =>
      obtain rfl := opening_eq_table_iff.mp hopening
      have hle := (skipSpace_suffix rest).length_le
      rw [List.length_cons] at hfuel
      dsimp only
      split
      · rfl
      · exact hentries inside {} _ (by omega)
  | nothing => rfl

include hvalue hitems in
theorem itemsUpTo_succ_succ (room : Nat) (acc : List Data) (s : List Char)
    (hfuel : 2 * s.length + 2 ≤ fuel + 1) :
    itemsUpTo limits (fuel + 2) room acc s = itemsUpTo limits (fuel + 1) room acc s := by
  rw [itemsUpTo, itemsUpTo]
  split
  · rfl
  · rw [hvalue room s (by omega)]
    refine bind_congr_of_eq_ok ?_
    rintro ⟨item, rest⟩ hitem
    refine bind_congr_of_eq_ok fun t ht => ?_
    have hrest := (((leaves_upTo limits fuel).1 room s).of_eq_ok hitem).length_le
    have htext := ((within_skipBlank rest).of_eq_ok ht).length_le
    cases hdelimiter : delimiter ']' t with
    | last | missing => rfl
    | comma more =>
        obtain rfl := eq_cons_of_delimiter_eq_comma hdelimiter
        refine bind_congr_of_eq_ok fun u hu => hitems room _ u ?_
        have hmore := ((within_skipBlank more).of_eq_ok hu).length_le
        rw [List.length_cons] at htext
        dsimp only at hrest
        omega

include hvalue hentries in
theorem entriesUpTo_succ_succ (room : Nat) (d : Draft) (s : List Char)
    (hfuel : 2 * s.length + 2 ≤ fuel + 1) :
    entriesUpTo limits (fuel + 2) room d s = entriesUpTo limits (fuel + 1) room d s := by
  rw [entriesUpTo, entriesUpTo]
  refine bind_congr_of_eq_ok ?_
  rintro ⟨k, rest⟩ hkey
  have hrest := ((reads_key s).of_eq_ok hkey).length_le
  dsimp only at hrest ⊢
  split
  · rfl
  · rename_i behind hbehind
    obtain rfl := eq_cons_of_afterPrefix? hbehind
    have hspace := (skipSpace_suffix behind).length_le
    rw [List.length_cons] at hrest
    rw [hvalue room _ (by omega)]
    refine bind_congr_of_eq_ok ?_
    rintro ⟨v, last⟩ hv
    refine bind_congr_of_eq_ok fun grown _ => ?_
    have hlast := (((leaves_upTo limits fuel).1 room _).of_eq_ok hv).length_le
    have hend := (skipSpace_suffix last).length_le
    dsimp only at hlast ⊢
    cases hdelimiter : delimiter '\x7d' (skipSpace last) with
    | last | missing => rfl
    | comma more =>
        rw [eq_cons_of_delimiter_eq_comma hdelimiter, List.length_cons] at hend
        have hmore := (skipSpace_suffix more).length_le
        exact hentries room grown _ (by omega)

end Fuel

/-- **One unit of fuel more** makes no difference to what is enough. -/
theorem upTo_succ (limits : Limits) (fuel : Nat) :
    (∀ room s, 2 * s.length + 1 ≤ fuel →
      valueUpTo limits (fuel + 1) room s = valueUpTo limits fuel room s) ∧
    (∀ room acc s, 2 * s.length + 2 ≤ fuel →
      itemsUpTo limits (fuel + 1) room acc s = itemsUpTo limits fuel room acc s) ∧
    (∀ room d s, 2 * s.length + 2 ≤ fuel →
      entriesUpTo limits (fuel + 1) room d s = entriesUpTo limits fuel room d s) := by
  induction fuel with
  | zero => exact ⟨by omega, by omega, by omega⟩
  | succ fuel ih =>
      obtain ⟨hvalue, hitems, hentries⟩ := ih
      exact ⟨valueUpTo_succ_succ hitems hentries, itemsUpTo_succ_succ hvalue hitems,
        entriesUpTo_succ_succ hvalue hentries⟩

section Enough

variable {limits : Limits} {fuel room : Nat} {s : List Char}

/-- **A value** that is read with enough fuel. -/
theorem valueUpTo_eq_value (hfuel : 2 * s.length + 1 ≤ fuel) :
    valueUpTo limits fuel room s = value limits room s := by
  induction fuel, hfuel using Nat.le_induction with
  | base => exact ((upTo_succ limits _).1 room s le_rfl).symm
  | succ fuel hle ih => exact ((upTo_succ limits fuel).1 room s hle).trans ih

/-- The rest of an array. -/
def items (limits : Limits) (room : Nat) (acc : List Data) (s : List Char) : Parse Data :=
  itemsUpTo limits (2 * s.length + 2) room acc s

/-- **The rest of an array** that is read with enough fuel. -/
theorem itemsUpTo_eq_items {acc : List Data} (hfuel : 2 * s.length + 2 ≤ fuel) :
    itemsUpTo limits fuel room acc s = items limits room acc s := by
  induction fuel, hfuel using Nat.le_induction with
  | base => rfl
  | succ fuel hle ih => exact ((upTo_succ limits fuel).2.1 room acc s hle).trans ih

/-- The rest of an inline table, from a key on. -/
def entries (limits : Limits) (room : Nat) (d : Draft) (s : List Char) : Parse Data :=
  entriesUpTo limits (2 * s.length + 2) room d s

/-- **The rest of an inline table** that is read with enough fuel. -/
theorem entriesUpTo_eq_entries {d : Draft} (hfuel : 2 * s.length + 2 ≤ fuel) :
    entriesUpTo limits fuel room d s = entries limits room d s := by
  induction fuel, hfuel using Nat.le_induction with
  | base => rfl
  | succ fuel hle ih => exact ((upTo_succ limits fuel).2.2 room d s hle).trans ih

theorem suffix_of_value {item : Data} {rest : List Char}
    (h : value limits room s = .ok (item, rest)) : rest <:+ s :=
  ((leaves_upTo limits _).1 room s).of_eq_ok h

end Enough

/-! ## What a value holds -/

/-- What is left behind a character and some more of a text is an end of the text. -/
theorem suffix_behind {c : Char} {s rest t : List Char} (hrest : c :: rest <:+ s)
    (ht : t <:+ rest) : t <:+ s := ht.trans ((List.suffix_cons c rest).trans hrest)

theorem length_behind {c : Char} {s rest t : List Char} (hrest : c :: rest <:+ s)
    (ht : t <:+ rest) : 2 * t.length + 2 ≤ 2 * s.length + 1 := by
  have hle := hrest.length_le
  have hless := ht.length_le
  rw [List.length_cons] at hle
  omega

theorem length_of_array {s rest t : List Char} (hopening : opening s = .array rest)
    (hblank : skipBlank rest = .ok t) : 2 * t.length + 2 ≤ 2 * s.length + 1 := by
  obtain rfl := opening_eq_array_iff.mp hopening
  exact length_behind (List.suffix_refl _) ((within_skipBlank rest).of_eq_ok hblank)

theorem length_of_table {s rest : List Char} (hopening : opening s = .table rest) :
    2 * (skipSpace rest).length + 2 ≤ 2 * s.length + 1 := by
  obtain rfl := opening_eq_table_iff.mp hopening
  exact length_behind (List.suffix_refl _) (skipSpace_suffix rest)

section Entered

variable {limits : Limits} {room inside : Nat} {s rest : List Char}

/-- A value that has not the room that it wants. -/
theorem value_of_no_room {f : Fault} (henter : limits.enter room s = .error f) :
    value limits room s = .error f := by
  rw [value, valueUpTo, henter]
  rfl

variable (henter : limits.enter room s = .ok inside)
include henter

theorem value_of_array (hopening : opening s = .array rest) :
    value limits room s = skipBlank rest >>= items limits inside [] := by
  rw [value, valueUpTo, henter]
  simp only [hopening]
  exact bind_congr_of_eq_ok fun t ht => itemsUpTo_eq_items (length_of_array hopening ht)

theorem value_of_table (hopening : opening s = .table rest)
    (hsome : afterPrefix? ['\x7d'] (skipSpace rest) = none) :
    value limits room s = entries limits inside {} (skipSpace rest) := by
  rw [value, valueUpTo, henter]
  simp only [hopening, hsome]
  exact entriesUpTo_eq_entries (length_of_table hopening)

theorem value_of_empty_table {behind : List Char} (hopening : opening s = .table rest)
    (hend : afterPrefix? ['\x7d'] (skipSpace rest) = some behind) :
    value limits room s = .ok (.table [], behind) := by
  rw [value, valueUpTo, henter]
  simp only [hopening, hend]
  rfl

theorem value_of_nothing (hopening : opening s = .nothing) : value limits room s = scalar s := by
  rw [value, valueUpTo, henter]
  simp only [hopening]
  rfl

end Entered

/-! ## Statements -/

section Statements

variable {limits : Limits} {d : Draft} {s : List Char}

theorem leaves_assignment (d : Draft) (s : List Char) : Leaves s (assignment limits d s) := by
  refine (reads_key s).anyFault.bind ?_
  rintro ⟨k, rest⟩ hrest
  dsimp only
  split
  · exact .error rfl
  · rename_i behind hbehind
    have hspace : skipSpace behind <:+ s :=
      (skipSpace_suffix behind).trans ((suffix_of_afterPrefix? hbehind).trans hrest)
    refine (((leaves_upTo limits _).1 limits.room (skipSpace behind)).suffix hspace).bind ?_
    rintro ⟨v, last⟩ hlast
    exact ((Draft.formOnly_assign d k v).orFault last).anyFault.bind fun _ _ => .ok hlast

/-- A statement that starts with a key is an assignment. -/
theorem statement_of_startsKey (h : startsKey s = true) :
    statement limits d s = assignment limits d s := by
  have hother : ∀ c rest, s = c :: rest → c ≠ '\n' ∧ c ≠ '#' ∧ c ≠ '[' := by
    rintro c rest rfl
    refine ⟨?_, ?_, ?_⟩ <;>
    · rintro rfl
      rw [startsKey] at h
      exact absurd h (by decide)
  unfold statement
  split
  · cases h
  · exact absurd rfl (hother _ _ rfl).1
  · exact absurd rfl (hother _ _ rfl).2.1
  · exact absurd rfl (hother _ _ rfl).2.2
  · exact absurd rfl (hother _ _ rfl).2.2
  · rw [if_pos h]

theorem reads_header {change : Key → Except Fault.Cause Draft}
    (hchange : ∀ k, Draft.FormOnly (change k)) (closing s : List Char) :
    Reads s (header closing change s) := by
  refine ((reads_key _).suffix (skipSpace_suffix s)).bind ?_
  rintro ⟨k, rest⟩ hrest
  refine ((hchange k).orFault rest).bind fun _ _ => ?_
  split
  · rename_i behind hbehind
    exact .ok ((suffix_of_afterPrefix? hbehind).trans hrest)
  · exact .error rfl

/-- A statement that is no assignment meets faults of form only. -/
theorem reads_statement (h : startsKey s = false) (d : Draft) :
    Reads s (statement limits d s) := by
  unfold statement
  split
  · exact .ok (List.suffix_refl _)
  · exact .ok (List.suffix_refl _)
  · exact .ok (List.suffix_refl _)
  · exact ((reads_header d.formOnly_openItem _ _).cons _).cons _
  · exact (reads_header d.formOnly_openTable _ _).cons _
  · rw [h]
    exact .error rfl

/-- **A statement** leaves an end of its text. -/
theorem leaves_statement (limits : Limits) (d : Draft) (s : List Char) :
    Leaves s (statement limits d s) := by
  cases h : startsKey s with
  | true =>
      rw [statement_of_startsKey h]
      exact leaves_assignment d s
  | false => exact (reads_statement h d).anyFault

theorem suffix_of_nextLine {grown : Draft} {rest more : List Char}
    (hstatement : statement limits d (skipSpace s) = .ok (grown, rest))
    (hend : skipComment (skipSpace rest) = .ok ('\n' :: more)) : '\n' :: more <:+ s := by
  have hrest : rest <:+ skipSpace s := (leaves_statement limits d _).of_eq_ok hstatement
  have hmore : '\n' :: more <:+ skipSpace rest := (within_skipComment _).of_eq_ok hend
  exact hmore.trans ((skipSpace_suffix rest).trans (hrest.trans (skipSpace_suffix s)))

theorem length_of_nextLine {grown : Draft} {rest more : List Char}
    (hstatement : statement limits d (skipSpace s) = .ok (grown, rest))
    (hend : skipComment (skipSpace rest) = .ok ('\n' :: more)) : more.length + 1 ≤ s.length :=
  (suffix_of_nextLine hstatement hend).length_le

theorem statementsUpTo_succ {fuel : Nat} (hfuel : s.length + 1 ≤ fuel) :
    statementsUpTo limits (fuel + 1) d s = statementsUpTo limits fuel d s := by
  induction fuel generalizing d s with
  | zero => omega
  | succ fuel ih =>
      rw [statementsUpTo, statementsUpTo]
      refine bind_congr_of_eq_ok ?_
      rintro ⟨grown, rest⟩ hstatement
      refine bind_congr_of_eq_ok fun t ht => ?_
      split
      · rfl
      · rename_i more
        have hmore := length_of_nextLine hstatement ht
        exact ih (by omega)
      · rfl

/-- **The statements of a text** that are read with enough fuel. -/
theorem statementsUpTo_eq_statements {fuel : Nat} (hfuel : s.length + 1 ≤ fuel) :
    statementsUpTo limits fuel d s = statements limits d s := by
  induction fuel, hfuel using Nat.le_induction with
  | base => rfl
  | succ fuel hle ih => exact (statementsUpTo_succ hle).trans ih

end Statements

end Stepbook.Toml
