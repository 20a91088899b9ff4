import Stepbook.Proofs.Toml.Lexeme

/-!
# Values that hold no others keep to their text

A value that holds no others leaves an end of its text.  It is refused for its size in one
case: it is a whole number with more digits than are read.

## Main definitions

* `Toml.Oversize` — a whole number with more digits than are read.

## Main statements

* `Toml.boolean?_suffix`, `Toml.number?_cases`, `Toml.reads_of_moment?` — truth values,
  numbers, dates and times.
* `Toml.within_scalar` — each of them leaves an end of its text.
* `Toml.scalar_eq_size_error_iff` — the values that are refused for their size.
-/

namespace Stepbook.Toml

open Stepbook.Text

theorem boolean?_suffix {s : List Char} {r : Data × List Char} (h : boolean? s = some r) :
    r.2 <:+ s := by
  rw [boolean?, Option.or_eq_some_iff] at h
  rcases h with h | ⟨-, h⟩
  · obtain ⟨rest, hrest, rfl⟩ := Option.map_eq_some_iff.mp h
    exact suffix_of_afterPrefix? hrest
  · obtain ⟨rest, hrest, rfl⟩ := Option.map_eq_some_iff.mp h
    exact suffix_of_afterPrefix? hrest

/-! ## Numbers -/

section Numbers

variable {isDigit : Char → Bool} {s rest : List Char}

theorem afterDigits_suffix (isDigit : Char → Bool) (s : List Char) :
    afterDigits isDigit s <:+ s := by
  fun_induction afterDigits isDigit s with
  | case1 _ _ _ ih => exact ih.trans ⟨[_, _], rfl⟩
  | case3 _ _ _ _ ih => exact ih.trans (List.suffix_cons _ _)
  | case2 | case4 | case5 => exact List.suffix_refl _

/-- A run of digits holds digits and underscores. -/
theorem exists_run_of_afterDigits (isDigit : Char → Bool) (s : List Char) :
    ∃ run, s = run ++ afterDigits isDigit s ∧ ∀ c ∈ run, isDigit c = true ∨ c = '_' := by
  fun_induction afterDigits isDigit s with
  | case1 c s hdigit ih =>
      obtain ⟨run, hrun, hchars⟩ := ih
      refine ⟨'_' :: c :: run, by simp [← hrun], ?_⟩
      simpa [hdigit] using hchars
  | case3 c s _ hdigit ih =>
      obtain ⟨run, hrun, hchars⟩ := ih
      refine ⟨c :: run, by simp [← hrun], ?_⟩
      simpa [hdigit] using hchars
  | case2 | case4 | case5 => exact ⟨[], rfl, by simp⟩

theorem suffix_of_afterRun? (h : afterRun? isDigit s = some rest) : rest <:+ s := by
  unfold afterRun? at h
  split at h
  · rename_i c s
    obtain ⟨-, h⟩ := Option.ite_none_right_eq_some.mp h
    cases h
    exact (afterDigits_suffix isDigit s).trans (List.suffix_cons c s)
  · cases h

theorem announced?_suffix {r : Data × List Char} (h : announced? s = some r) : r.2 <:+ s := by
  unfold announced? at h
  split at h
  · rename_i c s
    split at h
    · cases h
    · obtain ⟨rest, hrest, rfl⟩ := Option.map_eq_some_iff.mp h
      exact (suffix_of_afterRun? hrest).trans ⟨['0', c], rfl⟩
  · cases h

theorem afterSign_suffix (s : List Char) : afterSign s <:+ s := by
  unfold afterSign
  split
  · split
    · exact List.suffix_cons _ _
    · exact List.suffix_refl _
  · exact List.suffix_refl _

theorem suffix_of_afterWhole? (h : afterWhole? s = some rest) : rest <:+ s := by
  unfold afterWhole? at h
  split at h
  · cases h
    exact List.suffix_cons _ _
  · exact suffix_of_afterRun? h

theorem afterFraction_suffix (s : List Char) : afterFraction s <:+ s := by
  unfold afterFraction
  split
  · rename_i rest
    exact getD_suffix fun _ hrun => (suffix_of_afterRun? hrun).trans (List.suffix_cons _ _)
  · exact List.suffix_refl _

theorem afterExponent_suffix (s : List Char) : afterExponent s <:+ s := by
  unfold afterExponent
  split
  · rename_i c rest
    split
    · refine getD_suffix fun more hrun => ?_
      have hrest := (suffix_of_afterRun? hrun).trans (afterSign_suffix rest)
      exact hrest.trans (List.suffix_cons c rest)
    · exact List.suffix_refl _
  · exact List.suffix_refl _

/-- A whole number with more digits than are read stands at the start of a text: behind
the number there is neither a fraction nor an exponent, and before that so many digits. -/
def Oversize (s : List Char) (count : Nat) : Prop :=
  ∃ behind, afterWhole? (afterSign s) = some behind ∧
    afterExponent (afterFraction behind) = behind ∧
    (s.take (s.length - behind.length)).countP Char.isDigit = count ∧ mostDigits < count

/-- **A decimal number** leaves an end of its text, or has more digits than are read. -/
theorem decimal?_cases {r : Parse Data} (h : decimal? s = some r) :
    (∃ p, r = .ok p ∧ p.2 <:+ s) ∨
      ∃ count, r = fault (.tooManyDigits count) s ∧ Oversize s count := by
  obtain ⟨behind, hbehind, rfl⟩ := Option.map_eq_some_iff.mp h
  have hsuffix : behind <:+ s := (suffix_of_afterWhole? hbehind).trans (afterSign_suffix s)
  have hrest : afterExponent (afterFraction behind) <:+ behind :=
    (afterExponent_suffix _).trans (afterFraction_suffix behind)
  dsimp only
  split
  · exact .inl ⟨_, rfl, hrest.trans hsuffix⟩
  · rename_i hshorter
    have hends : afterExponent (afterFraction behind) = behind :=
      hrest.eq_of_length (Nat.le_antisymm hrest.length_le (Nat.not_lt.mp hshorter))
    split
    · rename_i hmany
      refine .inr ⟨_, rfl, behind, hbehind, hends, ?_, hmany⟩
      exact List.countP_eq_length_filter
    · exact .inl ⟨_, rfl, hsuffix⟩

/-- A text that starts with an oversize number has its digits. -/
theorem Oversize.count_le {count : Nat} (h : Oversize s count) :
    mostDigits < count ∧ count ≤ s.countP Char.isDigit := by
  obtain ⟨behind, -, -, rfl, hmany⟩ := h
  exact ⟨hmany, (List.take_sublist _ s).countP_le⟩

theorem decimal?_of_oversize {count : Nat} (h : Oversize s count) :
    decimal? s = some (fault (.tooManyDigits count) s) := by
  obtain ⟨behind, hbehind, hends, rfl, hmany⟩ := h
  rw [decimal?, hbehind, Option.map_some, hends]
  rw [List.countP_eq_length_filter] at hmany ⊢
  simp only [Nat.lt_irrefl, if_false, if_pos hmany]

/-- The digits of an oversize number stand in a run, which starts behind the sign, if there
is one, and not with zero. -/
theorem Oversize.exists_run {count : Nat} (h : Oversize s count) :
    ∃ run rest, afterSign s = run ++ rest ∧ mostDigits ≤ run.length ∧
      (∀ c ∈ run, c.isDigit = true ∨ c = '_') ∧
      ∀ c ∈ run.head?, c.isDigit = true ∧ c ≠ '0' := by
  obtain ⟨behind, hbehind, -, rfl, hmany⟩ := h
  have hsign : s.length ≤ (afterSign s).length + 1 := by
    unfold afterSign
    split
    · split <;> simp
    · simp
  have htaken : mostDigits < s.length - behind.length :=
    (hmany.trans_le List.countP_le_length).trans_le (List.length_take_le _ _)
  unfold afterWhole? at hbehind
  split at hbehind
  · -- a zero is a whole number of its own
    rename_i rest hzero
    cases hbehind
    rw [hzero, List.length_cons] at hsign
    have hshort : s.length - behind.length ≤ 2 := by omega
    exact absurd (htaken.trans_le hshort) (by decide)
  · rename_i hnonzero
    unfold afterRun? at hbehind
    split at hbehind
    · rename_i c rest hstart
      obtain ⟨hdigit, hbehind⟩ := Option.ite_none_right_eq_some.mp hbehind
      cases hbehind
      obtain ⟨run, hrun, hchars⟩ := exists_run_of_afterDigits Char.isDigit rest
      refine ⟨c :: run, afterDigits Char.isDigit rest, ?_, ?_, ?_, ?_⟩
      · rw [hstart, List.cons_append, ← hrun]
      · have hlength := congrArg List.length hrun
        rw [hstart, List.length_cons] at hsign
        rw [List.length_append] at hlength
        rw [List.length_cons]
        omega
      · exact List.forall_mem_cons.mpr ⟨.inl hdigit, hchars⟩
      · rintro _ ⟨⟩
        refine ⟨hdigit, ?_⟩
        rintro rfl
        exact hnonzero _ hstart
    · cases hbehind

theorem special?_suffix {r : Data × List Char} (h : special? s = some r) : r.2 <:+ s := by
  obtain ⟨rest, hrest, rfl⟩ := Option.map_eq_some_iff.mp h
  have hsign : rest <:+ afterSign s := by
    rcases Option.or_eq_some_iff.mp hrest with hinfinity | ⟨-, hnone⟩
    · exact suffix_of_afterPrefix? hinfinity
    · exact suffix_of_afterPrefix? hnone
  exact hsign.trans (afterSign_suffix s)

theorem number?_cases {r : Parse Data} (h : number? s = some r) :
    (∃ p, r = .ok p ∧ p.2 <:+ s) ∨
      ∃ count, r = fault (.tooManyDigits count) s ∧ Oversize s count := by
  rw [number?, Option.or_eq_some_iff, Option.or_eq_some_iff] at h
  rcases h with h | ⟨-, h | ⟨-, h⟩⟩
  · obtain ⟨value, hvalue, rfl⟩ := Option.map_eq_some_iff.mp h
    exact .inl ⟨value, rfl, announced?_suffix hvalue⟩
  · exact decimal?_cases h
  · obtain ⟨value, hvalue, rfl⟩ := Option.map_eq_some_iff.mp h
    exact .inl ⟨value, rfl, special?_suffix hvalue⟩

end Numbers

/-! ## Dates and times -/

section Moments

variable {s rest : List Char}

theorem exists_of_twoDigits? {least greatest : Nat} {r : Nat × List Char}
    (h : twoDigits? least greatest s = some r) :
    ∃ a b, s = a :: b :: r.2 ∧ a.isDigit = true := by
  unfold twoDigits? at h
  split at h
  · rename_i a b _
    obtain ⟨hall, h⟩ := Option.ite_none_right_eq_some.mp h
    cases h
    simp only [Bool.and_eq_true] at hall
    exact ⟨a, b, rfl, hall.1.1.1⟩
  · cases h

theorem suffix_of_twoDigits? {least greatest : Nat} {r : Nat × List Char}
    (h : twoDigits? least greatest s = some r) : r.2 <:+ s := by
  obtain ⟨a, b, rfl, -⟩ := exists_of_twoDigits? h
  exact ⟨[a, b], rfl⟩

theorem suffix_of_afterClock? (h : afterClock? s = some rest) : rest <:+ s := by
  simp only [afterClock?, Option.bind_eq_bind, Option.bind_eq_some_iff] at h
  obtain ⟨hours, hhours, minutesText, hcolon, minutes, hminutes, secondsText, hcolon', seconds,
    hseconds, hend⟩ := h
  have hminutesText : minutesText <:+ s :=
    (suffix_of_afterPrefix? hcolon).trans (suffix_of_twoDigits? hhours)
  have hsecondsText : secondsText <:+ s :=
    (suffix_of_afterPrefix? hcolon').trans ((suffix_of_twoDigits? hminutes).trans hminutesText)
  have hclock : seconds.2 <:+ s := (suffix_of_twoDigits? hseconds).trans hsecondsText
  split at hend
  · rename_i c more hmore
    split at hend
    · cases hend
      rw [hmore] at hclock
      exact (List.dropWhile_suffix _).trans (List.IsSuffix.trans ⟨['.', c], rfl⟩ hclock)
    · cases hend
      exact hclock
  · cases hend
    exact hclock

theorem afterOffset_suffix (s : List Char) : afterOffset s <:+ s := by
  unfold afterOffset
  split
  · rename_i c rest
    split
    · exact List.suffix_cons c rest
    · split
      · refine getD_suffix fun more hmore => ?_
        simp only [Option.bind_eq_bind, Option.bind_eq_some_iff] at hmore
        obtain ⟨hours, hhours, minutesText, hcolon, minutes, hminutes, hend⟩ := hmore
        cases hend
        have hminutesText := (suffix_of_afterPrefix? hcolon).trans (suffix_of_twoDigits? hhours)
        exact ((suffix_of_twoDigits? hminutes).trans hminutesText).trans (List.suffix_cons c rest)
      · exact List.suffix_refl _
  · exact List.suffix_refl _

theorem suffix_of_date? {r : (Nat × Nat × Nat) × List Char} (h : date? s = some r) :
    r.2 <:+ s := by
  unfold date? at h
  split at h
  · simp only [Option.bind_eq_bind, Option.bind_eq_some_iff] at h
    obtain ⟨century, -, year, -, month, hmonth, dayText, hhyphen, day, hday, hend⟩ := h
    cases hend
    have hdayText := (suffix_of_afterPrefix? hhyphen).trans (suffix_of_twoDigits? hmonth)
    exact ((suffix_of_twoDigits? hday).trans hdayText).trans ⟨[_, _, _, _, _], rfl⟩
  · cases h

/-- **A date or a time** is read from the text that it starts. -/
theorem reads_of_moment? {r : Parse Data} (h : moment? s = some r) : Reads s r := by
  unfold moment? at h
  split at h
  · rename_i year month day afterDate hdate
    have hafter : afterDate <:+ s := suffix_of_date? hdate
    split at h
    · cases h
      exact within_fault rfl s
    · cases h
      refine .ok ?_
      dsimp only
      split
      · rename_i c rest
        split
        · refine (getD_suffix fun last hlast => ?_).trans hafter
          obtain ⟨more, hclock, rfl⟩ := Option.map_eq_some_iff.mp hlast
          have hrest := (afterOffset_suffix more).trans (suffix_of_afterClock? hclock)
          exact hrest.trans (List.suffix_cons c rest)
        · exact hafter
      · exact List.nil_suffix
  · obtain ⟨rest, hclock, rfl⟩ := Option.map_eq_some_iff.mp h
    exact .ok (suffix_of_afterClock? hclock)

end Moments

/-- **A value that holds no others** leaves an end of its text. -/
theorem within_scalar (s : List Char) :
    Within (fun _ => true) (fun p => p.2 <:+ s) (scalar s) := by
  unfold scalar
  split
  · rename_i r hstring
    exact ((reads_of_string? hstring).mapValue fun text =>
      Data.text (String.ofList text)).anyFault
  · split
    · rename_i r hboolean
      exact .ok (boolean?_suffix hboolean)
    · split
      · rename_i r hmoment
        exact (reads_of_moment? hmoment).anyFault
      · cases hnumber : number? s with
        | none => exact .error rfl
        | some r =>
            rcases number?_cases hnumber with ⟨p, rfl, hsuffix⟩ | ⟨count, rfl, -⟩
            · exact .ok hsuffix
            · exact .error rfl

/-! ## Values that are refused for their size -/

section Sizes

variable {s : List Char} {count : Nat}

/-- An oversize number starts with a digit or a sign. -/
theorem Oversize.exists_head (h : Oversize s count) :
    ∃ c t, s = c :: t ∧ (c.isDigit = true ∨ c = '+' ∨ c = '-') := by
  obtain ⟨run, rest, hrun, hlong, -, hhead⟩ := h.exists_run
  cases run with
  | nil => exact absurd hlong (by decide)
  | cons d run =>
      unfold afterSign at hrun
      split at hrun
      · rename_i c t
        split at hrun
        · rename_i hsign
          exact ⟨c, t, rfl, .inr (by simpa using hsign)⟩
        · obtain ⟨rfl, -⟩ := List.cons.inj hrun
          exact ⟨c, t, rfl, .inl (hhead c rfl).1⟩
      · cases hrun

/-- An oversize number without a sign starts with a run of digits. -/
theorem Oversize.exists_run_of_digit {c : Char} {t : List Char} (h : Oversize (c :: t) count)
    (hdigit : c.isDigit = true) :
    c ≠ '0' ∧ ∀ d ∈ (c :: t).take 5, d.isDigit = true ∨ d = '_' := by
  obtain ⟨run, rest, hrun, hlong, hchars, hhead⟩ := h.exists_run
  have hsign : afterSign (c :: t) = c :: t := by
    rw [afterSign, if_neg]
    intro hsign
    rcases (by simpa using hsign : c = '+' ∨ c = '-') with rfl | rfl <;>
      exact absurd hdigit (by decide)
  rw [hsign] at hrun
  have hfive : 5 ≤ run.length := le_trans (by decide) hlong
  refine ⟨?_, fun d hd => hchars d ?_⟩
  · cases run with
    | nil => exact absurd hfive (by decide)
    | cons e run =>
        obtain ⟨rfl, -⟩ := List.cons.inj hrun
        exact (hhead c rfl).2
  · rw [hrun, List.take_append_of_le_length hfive] at hd
    exact List.mem_of_mem_take hd

theorem Oversize.opening (h : Oversize s count) : opening s = .nothing := by
  obtain ⟨c, t, rfl, hc⟩ := h.exists_head
  unfold Toml.opening
  split
  case h_3 => rfl
  all_goals
    rename_i hbracket
    obtain ⟨rfl, -⟩ := List.cons.inj hbracket
    exact absurd hc (by decide)

theorem Oversize.string? (h : Oversize s count) : string? s = none := by
  obtain ⟨c, t, rfl, hc⟩ := h.exists_head
  unfold Toml.string?
  dsimp only
  split
  case h_5 => rfl
  all_goals
    rename_i hquote
    obtain ⟨rfl, -⟩ := List.cons.inj hquote
    exact absurd hc (by decide)

theorem Oversize.boolean? (h : Oversize s count) : boolean? s = none := by
  obtain ⟨c, t, rfl, hc⟩ := h.exists_head
  have hother : ∀ d : Char, ¬ (d.isDigit = true ∨ d = '+' ∨ d = '-') → d ≠ c := by
    rintro d hd rfl
    exact hd hc
  have htrue : afterPrefix? "true".toList (c :: t) = none := if_neg (hother 't' (by decide))
  have hfalse : afterPrefix? "false".toList (c :: t) = none := if_neg (hother 'f' (by decide))
  rw [Toml.boolean?, htrue, hfalse]
  rfl

/-- An oversize number is no date and no time: those have another character close behind
their start. -/
theorem Oversize.moment? (h : Oversize s count) : moment? s = none := by
  have hdate : date? s = none := by
    refine Option.eq_none_iff_forall_ne_some.mpr fun r hr => ?_
    unfold date? at hr
    split at hr
    · simp only [Option.bind_eq_bind, Option.bind_eq_some_iff] at hr
      obtain ⟨century, hcentury, -⟩ := hr
      obtain ⟨a, b, hstart, hdigit⟩ := exists_of_twoDigits? hcentury
      obtain ⟨rfl, -⟩ := List.cons.inj hstart
      exact absurd ((h.exists_run_of_digit hdigit).2 '-' (by simp)) (by decide)
    · cases hr
  have hclock : afterClock? s = none := by
    refine Option.eq_none_iff_forall_ne_some.mpr fun r hr => ?_
    simp only [afterClock?, Option.bind_eq_bind, Option.bind_eq_some_iff] at hr
    obtain ⟨hours, hhours, minutesText, hcolon, -⟩ := hr
    obtain ⟨a, b, rfl, hdigit⟩ := exists_of_twoDigits? hhours
    rw [eq_append_of_afterPrefix? hcolon] at h
    exact absurd ((h.exists_run_of_digit hdigit).2 ':' (by simp)) (by decide)
  rw [Toml.moment?, hdate, hclock, Option.map_none]

/-- An oversize number is no number of an announced base: it does not start with zero. -/
theorem Oversize.announced? (h : Oversize s count) : announced? s = none := by
  unfold Toml.announced?
  split
  · exact absurd rfl (h.exists_run_of_digit (by decide)).1
  · rfl

/-- **The values that are refused for their size** among those that hold no others are the
whole numbers with more digits than are read. -/
theorem scalar_eq_size_error_iff {f : Fault} (hsize : f.cause.isForm = false) :
    scalar s = .error f ↔
      ∃ count, f = ⟨.tooManyDigits count, s.length⟩ ∧ Oversize s count := by
  constructor
  · intro h
    unfold scalar at h
    split at h
    · rename_i r hstring
      have hform := (((reads_of_string? hstring).mapValue fun text =>
        Data.text (String.ofList text))).isForm_of_eq_error h
      exact absurd (hform.symm.trans hsize) (by decide)
    · split at h
      · cases h
      · split at h
        · rename_i r hmoment
          have hform := (reads_of_moment? hmoment).isForm_of_eq_error h
          exact absurd (hform.symm.trans hsize) (by decide)
        · cases hnumber : number? s with
          | none =>
              rw [hnumber] at h
              cases h
              cases hsize
          | some r =>
              rw [hnumber, Option.getD_some] at h
              rcases number?_cases hnumber with ⟨p, rfl, -⟩ | ⟨count, rfl, hoversize⟩
              · cases h
              · cases h
                exact ⟨count, rfl, hoversize⟩
  · rintro ⟨count, rfl, hoversize⟩
    have hnumber : number? s = some (fault (.tooManyDigits count) s) := by
      rw [number?, hoversize.announced?, decimal?_of_oversize hoversize]
      rfl
    simp only [scalar, hoversize.string?, hoversize.boolean?, hoversize.moment?, hnumber,
      Option.getD_some]
    rfl

end Sizes

end Stepbook.Toml
