import Mathlib.Logic.Relation
import Stepbook.Proofs.Toml.Nesting

/-!
# Texts beyond the limits

Two limits hold for configuration texts besides their form.  A whole number has a
greatest number of digits, and values need room.  A text that is read line by line and
value by value is refused for its size at the first value that is beyond a limit, and for
nothing else.

## Main definitions

* `Toml.Position` — where reading stands: at a line, at a value, or within one.
* `Toml.Comes` — one position that reading comes to from another one.
* `Toml.Stops` — a value that is beyond a limit.
* `Toml.roomFor` — the room that is kept if every bracket of a text is still open.

## Main statements

* `Toml.refused_iff_exists_comes` — what is refused for its size is beyond a limit, or
  comes to such a position.
* `Toml.parse_eq_size_error_iff` — the texts that are refused for their size.
* `Toml.exists_of_reaches` — the text before a value that reading comes to.

## Design notes

Reading is sequential, so a position is reached only if all that stands before it is well
formed.  This is what the constructors of `Comes` ask for.
-/

namespace Stepbook.Toml

open Stepbook.Text

/-! ## Positions -/

/-- Where reading stands. -/
inductive Position where
  /-- At a line, with the tables so far. -/
  | line (d : Draft) (s : List Char)
  | value (room : Nat) (s : List Char)
  /-- Within an array, with the items so far, or at its end. -/
  | items (room : Nat) (acc : List Data) (s : List Char)
  /-- At a key within an inline table, with the entries so far. -/
  | entries (room : Nat) (d : Draft) (s : List Char)

variable {limits : Limits}

/-- Reading from a position on meets a fault. -/
def Position.Refused (limits : Limits) (cause : Fault.Cause) : Position → Prop
  | line d s => ∃ left, statements limits d s = .error ⟨cause, left⟩
  | value room s => ∃ left, Toml.value limits room s = .error ⟨cause, left⟩
  | items room acc s => ∃ left, Toml.items limits room acc s = .error ⟨cause, left⟩
  | entries room d s => ∃ left, Toml.entries limits room d s = .error ⟨cause, left⟩

/-- The positions that reading comes to from a position, with nothing but what is well
formed in between. -/
inductive Comes (limits : Limits) : Position → Position → Prop
  /-- From a line to the value of its assignment. -/
  | assigned {d : Draft} {s rest : List Char} {k : Key} (hstart : startsKey (skipSpace s) = true)
      (hkey : key (skipSpace s) = .ok (k, '=' :: rest)) :
      Comes limits (.line d s) (.value limits.room (skipSpace rest))
  | nextLine {d grown : Draft} {s rest more : List Char}
      (hstatement : statement limits d (skipSpace s) = .ok (grown, rest))
      (hend : skipComment (skipSpace rest) = .ok ('\n' :: more)) :
      Comes limits (.line d s) (.line grown more)
  /-- Into an array. -/
  | array {room inside : Nat} {s rest t : List Char} (henter : limits.enter room s = .ok inside)
      (hopening : opening s = .array rest) (hblank : skipBlank rest = .ok t) :
      Comes limits (.value room s) (.items inside [] t)
  /-- Into an inline table with entries. -/
  | table {room inside : Nat} {s rest : List Char} (henter : limits.enter room s = .ok inside)
      (hopening : opening s = .table rest)
      (hsome : afterPrefix? ['\x7d'] (skipSpace rest) = none) :
      Comes limits (.value room s) (.entries inside {} (skipSpace rest))
  | item {room : Nat} {acc : List Data} {s : List Char} (hsome : afterPrefix? [']'] s = none) :
      Comes limits (.items room acc s) (.value room s)
  | nextItem {room : Nat} {acc : List Data} {item : Data} {s rest t more u : List Char}
      (hsome : afterPrefix? [']'] s = none)
      (hitem : Toml.value limits room s = .ok (item, rest)) (hblank : skipBlank rest = .ok t)
      (hcomma : delimiter ']' t = .comma more) (hnext : skipBlank more = .ok u) :
      Comes limits (.items room acc s) (.items room (item :: acc) u)
  | entry {room : Nat} {d : Draft} {s rest : List Char} {k : Key}
      (hkey : key s = .ok (k, '=' :: rest)) :
      Comes limits (.entries room d s) (.value room (skipSpace rest))
  | nextEntry {room : Nat} {d grown : Draft} {s rest last more : List Char} {k : Key} {v : Data}
      (hkey : key s = .ok (k, '=' :: rest))
      (hvalue : Toml.value limits room (skipSpace rest) = .ok (v, last))
      (hassign : d.assignInline k v = .ok grown)
      (hcomma : delimiter '\x7d' (skipSpace last) = .comma more) :
      Comes limits (.entries room d s) (.entries room grown (skipSpace more))

/-- A value is beyond a limit: it has not the room that it wants, or it is a whole number
with too many digits. -/
inductive Stops (limits : Limits) (room : Nat) (s : List Char) : Fault.Cause → Prop
  | tooDeep (hroom : room < limits.least s) : Stops limits room s .tooDeep
  | tooManyDigits {count : Nat} (hroom : limits.least s ≤ room) (hoversize : Oversize s count) :
      Stops limits room s (.tooManyDigits count)

/-- Reading stands at a value that is beyond a limit. -/
inductive Position.Stops (limits : Limits) (cause : Fault.Cause) : Position → Prop
  | value {room : Nat} {s : List Char} (h : Toml.Stops limits room s cause) :
      Stops limits cause (.value room s)

/-! ## One position -/

theorem bind_eq_error_iff {α β : Type} {r : Except Fault α} {g : α → Except Fault β} {f : Fault} :
    r >>= g = .error f ↔ r = .error f ∨ ∃ a, r = .ok a ∧ g a = .error f := by
  constructor
  · intro h
    cases r with
    | ok a => exact .inr ⟨a, rfl, h⟩
    | error e => exact .inl (congrArg Except.error (Except.error.inj h))
  · rintro (rfl | ⟨a, rfl, h⟩)
    · rfl
    · exact h

theorem enter_eq_error_iff {room : Nat} {s : List Char} {f : Fault} :
    limits.enter room s = .error f ↔ room < limits.least s ∧ f = ⟨.tooDeep, s.length⟩ := by
  unfold Limits.enter
  by_cases hle : limits.least s ≤ room
  · rw [if_pos hle]
    exact ⟨fun h => (nomatch h), fun h => absurd hle (Nat.not_le.mpr h.1)⟩
  · rw [if_neg hle]
    exact ⟨fun h => ⟨Nat.not_le.mp hle, (Except.error.inj h).symm⟩,
      fun h => congrArg Except.error h.2.symm⟩

/-- What stands behind the comma that follows an item. -/
theorem suffix_of_nextItem {room : Nat} {s rest t more : List Char} {item : Data}
    (hitem : value limits room s = .ok (item, rest)) (hblank : skipBlank rest = .ok t)
    (hcomma : delimiter ']' t = .comma more) : ',' :: more <:+ s := by
  have htext : t <:+ rest := (within_skipBlank rest).of_eq_ok hblank
  rw [eq_cons_of_delimiter_eq_comma hcomma] at htext
  exact htext.trans (suffix_of_value hitem)

theorem length_of_nextItem {room : Nat} {s rest t more u : List Char} {item : Data}
    (hitem : value limits room s = .ok (item, rest)) (hblank : skipBlank rest = .ok t)
    (hcomma : delimiter ']' t = .comma more) (hnext : skipBlank more = .ok u) :
    2 * u.length + 2 ≤ 2 * s.length + 1 :=
  length_behind (suffix_of_nextItem hitem hblank hcomma) ((within_skipBlank more).of_eq_ok hnext)

theorem suffix_of_entry {s rest : List Char} {k : Key} (hkey : key s = .ok (k, '=' :: rest)) :
    '=' :: rest <:+ s := (reads_key s).of_eq_ok hkey

theorem length_of_entry {s rest : List Char} {k : Key} (hkey : key s = .ok (k, '=' :: rest)) :
    2 * (skipSpace rest).length + 1 ≤ 2 * s.length + 1 :=
  Nat.le_of_succ_le (length_behind (suffix_of_entry hkey) (skipSpace_suffix rest))

/-- What stands behind the comma that follows an entry. -/
theorem suffix_of_nextEntry {room : Nat} {s rest last more : List Char} {k : Key} {v : Data}
    (hkey : key s = .ok (k, '=' :: rest))
    (hvalue : value limits room (skipSpace rest) = .ok (v, last))
    (hcomma : delimiter '\x7d' (skipSpace last) = .comma more) : ',' :: more <:+ s := by
  have hend := skipSpace_suffix last
  rw [eq_cons_of_delimiter_eq_comma hcomma] at hend
  have hrest := suffix_behind (suffix_of_entry hkey) (skipSpace_suffix rest)
  exact hend.trans ((suffix_of_value hvalue).trans hrest)

theorem length_of_nextEntry {room : Nat} {s rest last more : List Char} {k : Key} {v : Data}
    (hkey : key s = .ok (k, '=' :: rest))
    (hvalue : value limits room (skipSpace rest) = .ok (v, last))
    (hcomma : delimiter '\x7d' (skipSpace last) = .comma more) :
    2 * (skipSpace more).length + 2 ≤ 2 * s.length + 1 :=
  length_behind (suffix_of_nextEntry hkey hvalue hcomma) (skipSpace_suffix more)

theorem eq_ok_of_orFault {α : Type} {r : Except Fault.Cause α} {left : List Char} {a : α}
    (h : orFault left r = .ok a) : r = .ok a := by
  cases r with
  | ok b => exact congrArg Except.ok (Except.ok.inj h)
  | error cause => cases h

theorem afterPrefix?_singleton_cons (c : Char) (s : List Char) :
    afterPrefix? [c] (c :: s) = some s := afterPrefix?_append [c] s

section Refused

variable {cause : Fault.Cause} (hsize : cause.isForm = false)
include hsize

/-- A reader that meets faults of form only is not refused for a size. -/
theorem Within.not_refused {α : Type} {P : α → Prop} {r : Except Fault α}
    (h : Within Fault.Cause.isForm P r) (left : Nat) : r ≠ .error ⟨cause, left⟩ := by
  intro hr
  exact absurd ((h.isForm_of_eq_error hr).symm.trans hsize) (by decide)

/-- **A value** is refused for its size if it is beyond a limit itself, or for what is read
within it. -/
theorem refused_value_iff {room : Nat} {s : List Char} :
    (Position.value room s).Refused limits cause ↔
      (Position.value room s).Stops limits cause ∨
        ∃ q, Comes limits (.value room s) q ∧ q.Refused limits cause := by
  constructor
  · rintro ⟨left, h⟩
    cases henter : limits.enter room s with
    | error f =>
        rw [value_of_no_room henter] at h
        obtain ⟨hroom, rfl⟩ := enter_eq_error_iff.mp henter
        cases h
        exact .inl (.value (.tooDeep hroom))
    | ok inside =>
        have hroom := ((within_enter room s).of_eq_ok henter).2
        cases hopening : opening s with
        | array rest =>
            rw [value_of_array henter hopening, bind_eq_error_iff] at h
            rcases h with hblank | ⟨t, hblank, h⟩
            · exact absurd hblank ((within_skipBlank rest).not_refused hsize left)
            · exact .inr ⟨_, .array henter hopening hblank, left, h⟩
        | table rest =>
            cases hsome : afterPrefix? ['\x7d'] (skipSpace rest) with
            | some behind =>
                rw [value_of_empty_table henter hopening hsome] at h
                cases h
            | none =>
                rw [value_of_table henter hopening hsome] at h
                exact .inr ⟨_, .table henter hopening hsome, left, h⟩
        | nothing =>
            rw [value_of_nothing henter hopening] at h
            obtain ⟨count, hfault, hoversize⟩ := (scalar_eq_size_error_iff hsize).mp h
            cases hfault
            exact .inl (.value (.tooManyDigits hroom hoversize))
  · rintro (⟨⟨hstops⟩⟩ | ⟨q, hcomes, hq⟩)
    · cases hstops with
      | tooDeep hroom => exact ⟨_, value_of_no_room (enter_eq_error_iff.mpr ⟨hroom, rfl⟩)⟩
      | tooManyDigits hroom hoversize =>
          refine ⟨s.length, ?_⟩
          rw [value_of_nothing (if_pos hroom) hoversize.opening]
          exact (scalar_eq_size_error_iff hsize).mpr ⟨_, rfl, hoversize⟩
    · cases hcomes with
      | array henter hopening hblank =>
          obtain ⟨left, h⟩ := hq
          refine ⟨left, ?_⟩
          rw [value_of_array henter hopening, bind_eq_error_iff]
          exact .inr ⟨_, hblank, h⟩
      | table henter hopening hsome =>
          obtain ⟨left, h⟩ := hq
          exact ⟨left, (value_of_table henter hopening hsome).trans h⟩

/-- **The rest of an array** is refused for its size for an item, or for what stands behind
the first one. -/
theorem refused_items_iff {room : Nat} {acc : List Data} {s : List Char} :
    (Position.items room acc s).Refused limits cause ↔
      ∃ q, Comes limits (.items room acc s) q ∧ q.Refused limits cause := by
  constructor
  · rintro ⟨left, h⟩
    rw [items, itemsUpTo] at h
    cases hsome : afterPrefix? [']'] s with
    | some rest =>
        rw [hsome] at h
        cases h
    | none =>
        simp only [hsome, bind_eq_error_iff] at h
        rw [valueUpTo_eq_value le_rfl] at h
        rcases h with h | ⟨⟨item, rest⟩, hitem, h⟩
        · exact ⟨_, .item hsome, left, h⟩
        rcases h with hblank | ⟨t, hblank, h⟩
        · exact absurd hblank ((within_skipBlank rest).not_refused hsize left)
        cases hdelimiter : delimiter ']' t with
        | last behind =>
            simp only [hdelimiter] at h
            cases h
        | missing =>
            simp only [hdelimiter] at h
            cases h
            cases hsize
        | comma more =>
            simp only [hdelimiter, bind_eq_error_iff] at h
            rcases h with hnext | ⟨u, hnext, h⟩
            · exact absurd hnext ((within_skipBlank more).not_refused hsize left)
            · refine ⟨_, .nextItem hsome hitem hblank hdelimiter hnext, left, ?_⟩
              rwa [itemsUpTo_eq_items (length_of_nextItem hitem hblank hdelimiter hnext)] at h
  · rintro ⟨q, hcomes, hq⟩
    cases hcomes with
    | item hsome =>
        obtain ⟨left, h⟩ := hq
        refine ⟨left, ?_⟩
        rw [items, itemsUpTo]
        simp only [hsome, bind_eq_error_iff]
        rw [valueUpTo_eq_value le_rfl]
        exact .inl h
    | nextItem hsome hitem hblank hcomma hnext =>
        obtain ⟨left, h⟩ := hq
        refine ⟨left, ?_⟩
        rw [items, itemsUpTo]
        simp only [hsome, bind_eq_error_iff]
        rw [valueUpTo_eq_value le_rfl]
        refine .inr ⟨_, hitem, .inr ⟨_, hblank, ?_⟩⟩
        simp only [hcomma, bind_eq_error_iff]
        refine .inr ⟨_, hnext, ?_⟩
        rwa [itemsUpTo_eq_items (length_of_nextItem hitem hblank hcomma hnext)]

/-- **The rest of an inline table** is refused for its size for a value, or for what stands
behind the first one. -/
theorem refused_entries_iff {room : Nat} {d : Draft} {s : List Char} :
    (Position.entries room d s).Refused limits cause ↔
      ∃ q, Comes limits (.entries room d s) q ∧ q.Refused limits cause := by
  constructor
  · rintro ⟨left, h⟩
    rw [entries, entriesUpTo, bind_eq_error_iff] at h
    rcases h with hkey | ⟨⟨k, rest⟩, hkey, h⟩
    · exact absurd hkey ((reads_key s).not_refused hsize left)
    cases hequals : afterPrefix? ['='] rest with
    | none =>
        simp only [hequals] at h
        cases h
        cases hsize
    | some behind =>
        obtain rfl := eq_cons_of_afterPrefix? hequals
        simp only [hequals, bind_eq_error_iff] at h
        rw [valueUpTo_eq_value (length_of_entry hkey)] at h
        rcases h with h | ⟨⟨v, last⟩, hvalue, h⟩
        · exact ⟨_, .entry hkey, left, h⟩
        rcases h with hassign | ⟨grown, hassign, h⟩
        · exact absurd hassign
            (((Draft.formOnly_assignInline d k v).orFault last).not_refused hsize left)
        cases hdelimiter : delimiter '\x7d' (skipSpace last) with
        | last behind =>
            simp only [hdelimiter] at h
            cases h
        | missing =>
            simp only [hdelimiter] at h
            cases h
            cases hsize
        | comma more =>
            simp only [hdelimiter] at h
            rw [entriesUpTo_eq_entries (length_of_nextEntry hkey hvalue hdelimiter)] at h
            exact ⟨_, .nextEntry hkey hvalue (eq_ok_of_orFault hassign) hdelimiter, left, h⟩
  · rintro ⟨q, hcomes, hq⟩
    cases hcomes with
    | entry hkey =>
        obtain ⟨left, h⟩ := hq
        refine ⟨left, ?_⟩
        rw [entries, entriesUpTo, bind_eq_error_iff]
        refine .inr ⟨_, hkey, ?_⟩
        simp only [afterPrefix?_singleton_cons, bind_eq_error_iff]
        rw [valueUpTo_eq_value (length_of_entry hkey)]
        exact .inl h
    | nextEntry hkey hvalue hassign hcomma =>
        obtain ⟨left, h⟩ := hq
        refine ⟨left, ?_⟩
        rw [entries, entriesUpTo, bind_eq_error_iff]
        refine .inr ⟨_, hkey, ?_⟩
        simp only [afterPrefix?_singleton_cons, bind_eq_error_iff]
        rw [valueUpTo_eq_value (length_of_entry hkey)]
        refine .inr ⟨_, hvalue, .inr ⟨_, congrArg (orFault _) hassign, ?_⟩⟩
        simp only [hcomma]
        rwa [entriesUpTo_eq_entries (length_of_nextEntry hkey hvalue hcomma)]

/-- **An assignment** is refused for its size for its value. -/
theorem assignment_eq_size_error_iff {d : Draft} {s : List Char} {left : Nat} :
    assignment limits d s = .error ⟨cause, left⟩ ↔
      ∃ k rest, key s = .ok (k, '=' :: rest) ∧
        value limits limits.room (skipSpace rest) = .error ⟨cause, left⟩ := by
  constructor
  · intro h
    rw [assignment, bind_eq_error_iff] at h
    rcases h with hkey | ⟨⟨k, rest⟩, hkey, h⟩
    · exact absurd hkey ((reads_key s).not_refused hsize left)
    cases hequals : afterPrefix? ['='] rest with
    | none =>
        simp only [hequals] at h
        cases h
        cases hsize
    | some behind =>
        obtain rfl := eq_cons_of_afterPrefix? hequals
        simp only [hequals, bind_eq_error_iff] at h
        rcases h with h | ⟨⟨v, last⟩, -, h⟩
        · exact ⟨k, behind, hkey, h⟩
        rcases h with hassign | ⟨grown, -, h⟩
        · exact absurd hassign
            (((Draft.formOnly_assign d k v).orFault last).not_refused hsize left)
        · cases h
  · rintro ⟨k, rest, hkey, h⟩
    rw [assignment, bind_eq_error_iff]
    refine .inr ⟨_, hkey, ?_⟩
    simp only [afterPrefix?_singleton_cons, bind_eq_error_iff]
    exact .inl h

/-- **The statements of a text** are refused for their size for the first value, or for
what stands behind the first line. -/
theorem refused_line_iff {d : Draft} {s : List Char} :
    (Position.line d s).Refused limits cause ↔
      ∃ q, Comes limits (.line d s) q ∧ q.Refused limits cause := by
  constructor
  · rintro ⟨left, h⟩
    rw [statements, statementsUpTo, bind_eq_error_iff] at h
    rcases h with h | ⟨⟨grown, rest⟩, hstatement, h⟩
    · cases hstart : startsKey (skipSpace s) with
      | false => exact absurd h ((reads_statement hstart d).not_refused hsize left)
      | true =>
          rw [statement_of_startsKey hstart, assignment_eq_size_error_iff hsize] at h
          obtain ⟨k, rest, hkey, h⟩ := h
          exact ⟨_, .assigned hstart hkey, left, h⟩
    · rw [bind_eq_error_iff] at h
      rcases h with hend | ⟨t, hend, h⟩
      · exact absurd hend ((within_skipComment _).not_refused hsize left)
      split at h
      · cases h
      · rename_i more
        rw [statementsUpTo_eq_statements (length_of_nextLine hstatement hend)] at h
        exact ⟨_, .nextLine hstatement hend, left, h⟩
      · cases h
        cases hsize
  · rintro ⟨q, hcomes, hq⟩
    cases hcomes with
    | assigned hstart hkey =>
        obtain ⟨left, h⟩ := hq
        refine ⟨left, ?_⟩
        rw [statements, statementsUpTo, bind_eq_error_iff, statement_of_startsKey hstart]
        exact .inl ((assignment_eq_size_error_iff hsize).mpr ⟨_, _, hkey, h⟩)
    | nextLine hstatement hend =>
        obtain ⟨left, h⟩ := hq
        refine ⟨left, ?_⟩
        rw [statements, statementsUpTo, bind_eq_error_iff]
        refine .inr ⟨_, hstatement, ?_⟩
        rw [bind_eq_error_iff]
        refine .inr ⟨_, hend, ?_⟩
        rw [← statementsUpTo_eq_statements (length_of_nextLine hstatement hend)] at h
        exact h

end Refused

/-! ## All positions -/

/-- The room that there is for a value at a position. -/
def Position.room (limits : Limits) : Position → Nat
  | line _ _ => limits.room
  | value room _ | items room _ _ | entries room _ _ => room

/-- The text that is left at a position. -/
def Position.text : Position → List Char
  | line _ s | value _ s | items _ _ s | entries _ _ s => s

/-- A measure that goes down from one position to the next. -/
def Position.size : Position → Nat
  | value _ s => 2 * s.length
  | line _ s | items _ _ s | entries _ _ s => 2 * s.length + 1

theorem size_lt_of_comes {p q : Position} (h : Comes limits p q) : q.size < p.size := by
  cases h with
  | @assigned d s rest k hstart hkey =>
      have hlength := length_of_entry hkey
      have hspace := (skipSpace_suffix s).length_le
      simp only [Position.size]
      omega
  | nextLine hstatement hend =>
      have hlength := length_of_nextLine hstatement hend
      simp only [Position.size]
      omega
  | array henter hopening hblank =>
      have hlength := length_of_array hopening hblank
      simp only [Position.size]
      omega
  | table henter hopening hsome =>
      have hlength := length_of_table hopening
      simp only [Position.size]
      omega
  | item hsome => exact Nat.lt_succ_self _
  | nextItem hsome hitem hblank hcomma hnext =>
      have hlength := length_of_nextItem hitem hblank hcomma hnext
      simp only [Position.size]
      omega
  | entry hkey =>
      have hlength := length_of_entry hkey
      simp only [Position.size]
      omega
  | nextEntry hkey hvalue hassign hcomma =>
      have hlength := length_of_nextEntry hkey hvalue hcomma
      simp only [Position.size]
      omega

/-- **What is refused for its size** is beyond a limit, or comes to such a position. -/
theorem refused_iff_exists_comes {cause : Fault.Cause} (hsize : cause.isForm = false)
    (p : Position) :
    p.Refused limits cause ↔
      p.Stops limits cause ∨ ∃ q, Comes limits p q ∧ q.Refused limits cause := by
  cases p with
  | value room s => exact refused_value_iff hsize
  | line d s =>
      rw [refused_line_iff hsize]
      exact ⟨.inr, fun h => h.resolve_left fun hstops => nomatch hstops⟩
  | items room acc s =>
      rw [refused_items_iff hsize]
      exact ⟨.inr, fun h => h.resolve_left fun hstops => nomatch hstops⟩
  | entries room d s =>
      rw [refused_entries_iff hsize]
      exact ⟨.inr, fun h => h.resolve_left fun hstops => nomatch hstops⟩

/-- A position is refused for its size if reading gets from it to a value that is beyond a
limit, at any number of positions in between. -/
theorem refused_iff_reaches {cause : Fault.Cause} (hsize : cause.isForm = false)
    (p : Position) :
    p.Refused limits cause ↔
      ∃ q, Relation.ReflTransGen (Comes limits) p q ∧ q.Stops limits cause := by
  constructor
  · intro h
    induction hmeasure : p.size using Nat.strong_induction_on generalizing p with
    | _ n ih =>
        subst hmeasure
        rcases (refused_iff_exists_comes hsize p).mp h with hstops | ⟨q, hcomes, hq⟩
        · exact ⟨p, .refl, hstops⟩
        · obtain ⟨last, hreaches, hstops⟩ := ih q.size (size_lt_of_comes hcomes) q hq rfl
          exact ⟨last, .head hcomes hreaches, hstops⟩
  · rintro ⟨q, hreaches, hstops⟩
    induction hreaches using Relation.ReflTransGen.head_induction_on with
    | refl => exact (refused_iff_exists_comes hsize q).mpr (.inl hstops)
    | head hcomes _ ih => exact (refused_iff_exists_comes hsize _).mpr (.inr ⟨_, hcomes, ih⟩)

/-- Reading a text gets to a value, with some room left for it. -/
def Reaches (limits : Limits) (text : List Char) (room : Nat) (s : List Char) : Prop :=
  Relation.ReflTransGen (Comes limits) (.line {} (uniform text)) (.value room s)

/-- **The texts that are refused for their size**: reading gets to a value that is beyond a
limit. -/
theorem parse_eq_size_error_iff {cause : Fault.Cause} (hsize : cause.isForm = false)
    {text : List Char} :
    (∃ left, parse limits text = .error ⟨cause, left⟩) ↔
      ∃ room s, Reaches limits text room s ∧ Stops limits room s cause := by
  have hstatements : (∃ left, parse limits text = .error ⟨cause, left⟩) ↔
      (Position.line {} (uniform text)).Refused limits cause := by
    simp only [parse, Position.Refused]
    cases statements limits {} (uniform text) <;> simp [Except.map]
  rw [hstatements, refused_iff_reaches hsize]
  constructor
  · rintro ⟨_, hreaches, ⟨hstops⟩⟩
    exact ⟨_, _, hreaches, hstops⟩
  · rintro ⟨room, s, hreaches, hstops⟩
    exact ⟨_, hreaches, .value hstops⟩

/-! ## The text before a value -/

/-- The room that is kept if every bracket of a text is still open. -/
def roomFor (s : List Char) : Nat := 2 * s.count '[' + 3 * s.count '\x7b'

theorem roomFor_append (s t : List Char) : roomFor (s ++ t) = roomFor s + roomFor t := by
  simp only [roomFor, List.count_append]
  omega

/-- Into a value, what is kept of the room is kept by the bracket that it starts with. -/
theorem exists_of_bracket {c : Char} {s rest t : List Char} {room inside : Nat}
    (henter : limits.enter room s = .ok inside) (hs : s = c :: rest)
    (hkept : kept s = roomFor [c]) (ht : t <:+ rest) :
    ∃ before, s = before ++ t ∧ room ≤ inside + roomFor before := by
  obtain ⟨rfl, hleast⟩ := (within_enter room s).of_eq_ok henter
  obtain ⟨between, rfl⟩ := ht
  have hle : kept s ≤ room := (Nat.le_max_right _ _).trans hleast
  refine ⟨[c] ++ between, hs, ?_⟩
  rw [roomFor_append, ← hkept]
  omega

/-- **What comes behind a position** is an end of its text, and the room that is less by
then is kept by brackets in between. -/
theorem exists_of_comes {p q : Position} (h : Comes limits p q) :
    ∃ before, p.text = before ++ q.text ∧ p.room limits ≤ q.room limits + roomFor before := by
  have hsame : q.text <:+ p.text → p.room limits = q.room limits →
      ∃ before, p.text = before ++ q.text ∧ p.room limits ≤ q.room limits + roomFor before := by
    rintro ⟨before, htext⟩ hroom
    exact ⟨before, htext.symm, hroom.le.trans (Nat.le_add_right _ _)⟩
  cases h with
  | assigned hstart hkey =>
      have hvalue := suffix_behind (suffix_of_entry hkey) (skipSpace_suffix _)
      exact hsame (hvalue.trans (skipSpace_suffix _)) rfl
  | nextLine hstatement hend =>
      exact hsame (suffix_behind (suffix_of_nextLine hstatement hend) (List.suffix_refl _)) rfl
  | @array room inside s rest t henter hopening hblank =>
      have hs := opening_eq_array_iff.mp hopening
      have ht : t <:+ rest := (within_skipBlank rest).of_eq_ok hblank
      exact exists_of_bracket henter hs (by rw [hs]; rfl) ht
  | @table room inside s rest henter hopening hsome =>
      have hs := opening_eq_table_iff.mp hopening
      exact exists_of_bracket henter hs (by rw [hs]; rfl) (skipSpace_suffix rest)
  | item hsome => exact hsame (List.suffix_refl _) rfl
  | @nextItem room acc item s rest t more u hsome hitem hblank hcomma hnext =>
      have hu : u <:+ more := (within_skipBlank more).of_eq_ok hnext
      exact hsame (suffix_behind (suffix_of_nextItem hitem hblank hcomma) hu) rfl
  | entry hkey => exact hsame (suffix_behind (suffix_of_entry hkey) (skipSpace_suffix _)) rfl
  | @nextEntry room d grown s rest last more k v hkey hvalue hassign hcomma =>
      have hmore := skipSpace_suffix more
      exact hsame (suffix_behind (suffix_of_nextEntry hkey hvalue hcomma) hmore) rfl

/-- **The text before a value** that reading gets to has brackets for the room that is
less. -/
theorem exists_of_reaches {text s : List Char} {room : Nat} (h : Reaches limits text room s) :
    ∃ before, uniform text = before ++ s ∧ limits.room ≤ room + roomFor before := by
  have hrun : ∀ p, Relation.ReflTransGen (Comes limits) p (.value room s) →
      ∃ before, p.text = before ++ s ∧ p.room limits ≤ room + roomFor before := by
    intro p hp
    induction hp using Relation.ReflTransGen.head_induction_on with
    | refl => exact ⟨[], rfl, Nat.le_add_right _ _⟩
    | head hcomes _ ih =>
        obtain ⟨before, htext, hroom⟩ := exists_of_comes hcomes
        obtain ⟨between, htext', hroom'⟩ := ih
        refine ⟨before ++ between, by rw [htext, htext', List.append_assoc], ?_⟩
        rw [roomFor_append]
        omega
  exact hrun _ h

/-- Carriage returns are left out, and nothing else changes. -/
theorem uniform_sublist (s : List Char) : (uniform s).Sublist s := by
  unfold uniform
  induction s with
  | nil => exact List.Sublist.slnil
  | cons c s ih =>
      rw [List.foldr_cons]
      dsimp only
      split
      · exact ih.cons c
      · exact ih.cons_cons c

end Stepbook.Toml
