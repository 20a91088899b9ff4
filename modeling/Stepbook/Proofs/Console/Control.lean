import Mathlib.Data.List.Infix
import Mathlib.Data.List.TakeWhile
import Stepbook.Console.Control

/-!
# Texts with and without control sequences

Stripping leaves a text as it is if no control sequence stands in it, and only
then: whatever is left out makes the text shorter.

## Main definitions

* `Control.IsSequence` — a control sequence.
* `Control.IsFree` — a text in which none stands.

## Main statements

* `Control.strip_cons`, `Control.strip_escape_cons` — stripping, character by
  character.
* `Control.afterEscape_cases` — what is left out behind an escape character.
* `Control.strip_eq_self_iff` — the texts that stripping leaves as they are.
* `Control.strip_append_newLine` — a line break at the end stays.
-/

namespace Stepbook.Console.Control

open Stepbook.Text

/-! ## Character by character -/

/-- The text up to the next escape character. -/
def untilEscape (s : List Char) : List Char := s.takeWhile (· != escapeCharacter)

/-- The first piece of a text that is cut at the escape characters. -/
theorem headD_pieces (s : List Char) :
    (pieces (· == escapeCharacter) s).headD [] = untilEscape s := by
  induction s with
  | nil => rfl
  | cons c s ih =>
      rw [pieces_cons, untilEscape, List.takeWhile_cons]
      by_cases hc : c = escapeCharacter
      · simp [hc]
      · simp only [beq_iff_eq, hc, if_false, List.headD_cons, ih, bne_iff_ne, ne_eq, not_false_iff,
          if_true, untilEscape]

/-- Any other character stays. -/
theorem strip_cons {c : Char} (hc : c ≠ escapeCharacter) (s : List Char) :
    strip (c :: s) = c :: strip s := by
  simp [strip, pieces_cons, hc]

/-- Behind an escape character, the text up to the next one decides. -/
theorem strip_escape_cons (s : List Char) :
    ∃ rest, strip s = untilEscape s ++ rest ∧
      strip (escapeCharacter :: s) = afterEscape (untilEscape s) ++ rest := by
  refine ⟨(pieces (· == escapeCharacter) s).tail.flatMap afterEscape, ?_, ?_⟩
  · rw [strip, headD_pieces]
  · have hhead := headD_pieces s
    cases hcut : pieces (· == escapeCharacter) s with
    | nil => exact absurd hcut (pieces_ne_nil _ s)
    | cons piece others =>
        rw [hcut, List.headD_cons] at hhead
        simp [strip, pieces_cons, hcut, hhead]

/-! ## Control sequences -/

/-- The text of a control sequence behind its escape character. -/
def IsSequenceBody (w : List Char) : Prop :=
  ∃ parameters letter, w = '[' :: parameters ++ [letter] ∧
    (∀ c ∈ parameters, isParameter c = true) ∧ letter.isAlpha = true

/-- A control sequence: an escape character, an opening bracket, parameters and a
letter. -/
def IsSequence (w : List Char) : Prop := ∃ body, w = escapeCharacter :: body ∧ IsSequenceBody body

/-- The characters of the parameters come before all letters. -/
theorem isParameter_eq_false_of_isAlpha {c : Char} (h : c.isAlpha = true) :
    isParameter c = false := by
  by_contra hc
  simp only [isParameter, Char.isDigit, Bool.not_eq_false, Bool.or_eq_true, Bool.and_eq_true,
    decide_eq_true_eq, beq_iff_eq, ge_iff_le, UInt32.le_iff_toNat_le] at hc
  change (decide ('A'.val ≤ c.val ∧ c.val ≤ 'Z'.val) ||
    decide ('a'.val ≤ c.val) && decide (c.val ≤ 'z'.val)) = true at h
  simp only [Bool.or_eq_true, Bool.and_eq_true, decide_eq_true_eq, UInt32.le_iff_toNat_le] at h
  change (65 ≤ c.toNat ∧ c.toNat ≤ 90) ∨ (97 ≤ c.toNat ∧ c.toNat ≤ 122) at h
  have hletter : 65 ≤ c.toNat := by omega
  rcases hc with (hdigit | rfl) | rfl
  · change 48 ≤ c.toNat ∧ c.toNat ≤ 57 at hdigit
    omega
  · exact absurd hletter (by decide)
  · exact absurd hletter (by decide)

/-- Behind an escape character, what ends a sequence with it is left out. -/
theorem afterEscape_body_append {body : List Char} (h : IsSequenceBody body) (rest : List Char) :
    afterEscape (body ++ rest) = rest := by
  obtain ⟨parameters, letter, rfl, hparameters, hletter⟩ := h
  have hdrop : (parameters ++ letter :: rest).dropWhile isParameter = letter :: rest := by
    rw [List.dropWhile_append_of_pos hparameters,
      List.dropWhile_cons_of_neg (by simp [isParameter_eq_false_of_isAlpha hletter])]
  simp [afterEscape, hdrop, hletter]

/-- A text that does not start with the end of a sequence stays behind an escape
character, and so does the escape character. -/
theorem afterEscape_of_forall_not_prefix {s : List Char}
    (h : ∀ body, IsSequenceBody body → ¬ body <+: s) :
    afterEscape s = escapeCharacter :: s := by
  unfold afterEscape
  split
  · rename_i rest
    split
    · rename_i letter rest' hdrop
      -- a letter behind the parameters would end a sequence
      split
      · rename_i hletter
        have hsplit := List.takeWhile_append_dropWhile (p := isParameter) (l := rest)
        rw [hdrop] at hsplit
        refine absurd ?_ (h ('[' :: rest.takeWhile isParameter ++ [letter])
          ⟨_, _, rfl, fun c hc => List.mem_takeWhile_imp hc, hletter⟩)
        exact ⟨rest', by simp [hsplit]⟩
      · rfl
    · rfl
  · rfl

/-- **A text behind an escape character** loses a sequence at its start, or nothing
and then the escape character stays too. -/
theorem afterEscape_cases (s : List Char) :
    (∃ body rest, IsSequenceBody body ∧ s = body ++ rest ∧ afterEscape s = rest) ∨
      ((∀ body, IsSequenceBody body → ¬ body <+: s) ∧
        afterEscape s = escapeCharacter :: s) := by
  by_cases hstart : ∃ body, IsSequenceBody body ∧ body <+: s
  · obtain ⟨body, hbody, rest, rfl⟩ := hstart
    exact Or.inl ⟨body, rest, hbody, rfl, afterEscape_body_append hbody rest⟩
  · have hnone : ∀ body, IsSequenceBody body → ¬ body <+: s :=
      fun body hbody hprefix => hstart ⟨body, hbody, hprefix⟩
    exact Or.inr ⟨hnone, afterEscape_of_forall_not_prefix hnone⟩

/-! ## Texts that stay as they are -/

theorem length_strip_le (s : List Char) : (strip s).length ≤ s.length := by
  induction s with
  | nil => exact le_rfl
  | cons c s ih =>
      by_cases hc : c = escapeCharacter
      · obtain ⟨rest, hstrip, hescape⟩ := strip_escape_cons s
        have hafter : (afterEscape (untilEscape s)).length ≤ (untilEscape s).length + 1 := by
          rcases afterEscape_cases (untilEscape s) with ⟨body, rest, -, hcut, hrest⟩ | ⟨-, hstays⟩
          · rw [hrest, hcut, List.length_append]
            omega
          · rw [hstays, List.length_cons]
        rw [hstrip, List.length_append] at ih
        rw [hc, hescape, List.length_append, List.length_cons]
        omega
      · rw [strip_cons hc, List.length_cons, List.length_cons]
        exact Nat.succ_le_succ ih

/-- A sequence body holds no escape character. -/
theorem ne_escape_of_mem_body {body : List Char} (h : IsSequenceBody body) :
    ∀ c ∈ body, c ≠ escapeCharacter := by
  obtain ⟨parameters, letter, rfl, hparameters, hletter⟩ := h
  rintro c hc rfl
  rcases List.mem_append.mp hc with hc | hc
  · rcases List.mem_cons.mp hc with hc | hc
    · exact absurd hc (by decide)
    · exact absurd (hparameters _ hc) (by decide)
  · rw [← List.mem_singleton.mp hc] at hletter
    exact absurd hletter (by decide)

theorem prefix_untilEscape_iff {body s : List Char} (h : IsSequenceBody body) :
    body <+: untilEscape s ↔ body <+: s := by
  constructor
  · exact fun hbody => hbody.trans (List.takeWhile_prefix _)
  · rintro ⟨rest, rfl⟩
    rw [untilEscape, List.takeWhile_append_of_pos fun c hc => by
      simpa using ne_escape_of_mem_body h c hc]
    exact List.prefix_append _ _

/-- No control sequence stands in a text. -/
def IsFree (s : List Char) : Prop := ∀ w, IsSequence w → ¬ w <:+: s

/-- A text is free of sequences if none starts at its first character and the text
behind that is free of them. -/
theorem isFree_cons_iff {c : Char} {s : List Char} :
    IsFree (c :: s) ↔
      (c = escapeCharacter → ∀ body, IsSequenceBody body → ¬ body <+: s) ∧ IsFree s := by
  constructor
  · intro hfree
    refine ⟨?_, fun w hw hinfix => hfree w hw (List.infix_cons_iff.mpr (Or.inr hinfix))⟩
    rintro rfl body hbody hprefix
    have hstart : escapeCharacter :: body <+: escapeCharacter :: s :=
      List.cons_prefix_cons.mpr ⟨rfl, hprefix⟩
    exact hfree _ ⟨body, rfl, hbody⟩ hstart.isInfix
  · rintro ⟨hstart, hfree⟩ w hw hinfix
    rcases List.infix_cons_iff.mp hinfix with hprefix | hinfix
    · obtain ⟨body, rfl, hbody⟩ := hw
      obtain ⟨hc, hprefix⟩ := List.cons_prefix_cons.mp hprefix
      exact hstart hc.symm body hbody hprefix
    · exact hfree w hw hinfix

/-- **Stripping leaves a text as it is** if no control sequence stands in it, and
only then. -/
theorem strip_eq_self_iff {s : List Char} : strip s = s ↔ IsFree s := by
  induction s with
  | nil =>
      refine ⟨fun _ w hw hinfix => ?_, fun _ => rfl⟩
      obtain ⟨body, rfl, -⟩ := hw
      exact absurd (List.infix_nil.mp hinfix) (List.cons_ne_nil _ _)
  | cons c s ih =>
      by_cases hc : c = escapeCharacter
      · obtain ⟨rest, hstrip, hescape⟩ := strip_escape_cons s
        rcases afterEscape_cases (untilEscape s) with
          ⟨body, left, hbody, hcut, hleft⟩ | ⟨hnone, hstays⟩
        · -- the sequence is left out, and the text gets shorter
          have hshorter : strip (c :: s) ≠ c :: s := by
            intro hsame
            have hlength := length_strip_le s
            rw [hstrip, hcut, List.append_assoc, List.length_append] at hlength
            have htotal := congrArg List.length hsame
            rw [hc, hescape, hleft, List.length_cons] at htotal
            omega
          have hprefix : body <+: s :=
            (prefix_untilEscape_iff hbody).mp (hcut ▸ List.prefix_append _ _)
          exact iff_of_false hshorter fun hfree =>
            (isFree_cons_iff.mp hfree).1 hc body hbody hprefix
        · have hstep : strip (c :: s) = c :: strip s := by
            rw [hc, hescape, hstays, hstrip, List.cons_append]
          rw [hstep, List.cons_inj_right, ih, isFree_cons_iff]
          refine (and_iff_right fun _ body hbody hprefix => ?_).symm
          exact hnone body hbody ((prefix_untilEscape_iff hbody).mpr hprefix)
      · rw [strip_cons hc, List.cons_inj_right, ih, isFree_cons_iff]
        exact (and_iff_right fun hescape => absurd hescape hc).symm

/-! ## The last line break -/

/-- A line break ends no sequence. -/
theorem afterEscape_append_newLine (s : List Char) :
    afterEscape (s ++ ['\n']) = afterEscape s ++ ['\n'] := by
  rcases afterEscape_cases s with ⟨body, rest, hbody, rfl, hrest⟩ | ⟨hnone, hstays⟩
  · rw [hrest, List.append_assoc, afterEscape_body_append hbody]
  · rw [hstays, List.cons_append]
    refine afterEscape_of_forall_not_prefix fun body hbody hprefix => ?_
    rcases List.prefix_concat_iff.mp hprefix with hwhole | hprefix
    · obtain ⟨parameters, letter, rfl, -, hletter⟩ := hbody
      obtain rfl : letter = '\n' := (List.append_inj' hwhole rfl).2 |> List.cons.inj |>.1
      exact absurd hletter (by decide)
    · exact hnone body hbody hprefix

/-- A line break is no escape character. -/
theorem untilEscape_append_newLine (s : List Char) :
    (untilEscape s = s ∧ untilEscape (s ++ ['\n']) = s ++ ['\n']) ∨
      untilEscape (s ++ ['\n']) = untilEscape s := by
  unfold untilEscape
  rw [List.takeWhile_append]
  split
  · rename_i hlength
    have hwhole := (List.takeWhile_prefix (· != escapeCharacter) (l := s)).eq_of_length hlength
    exact Or.inl ⟨hwhole, by simp [escapeCharacter]⟩
  · exact Or.inr rfl

/-- A text that is all before the first escape character is the first piece, and
there are no others. -/
theorem eq_nil_of_strip_eq {s rest : List Char} (h : strip s = s ++ rest) : rest = [] := by
  have hlength := length_strip_le s
  rw [h, List.length_append] at hlength
  exact List.eq_nil_of_length_eq_zero (by omega)

/-- **A line break at the end stays**, and stripping is as without it. -/
theorem strip_append_newLine (s : List Char) : strip (s ++ ['\n']) = strip s ++ ['\n'] := by
  induction s with
  | nil => rfl
  | cons c s ih =>
      by_cases hc : c = escapeCharacter
      · obtain ⟨rest, hstrip, hescape⟩ := strip_escape_cons s
        obtain ⟨rest', hstrip', hescape'⟩ := strip_escape_cons (s ++ ['\n'])
        rw [hc, List.cons_append, hescape, hescape']
        rcases untilEscape_append_newLine s with ⟨hwhole, hwhole'⟩ | hsame
        · rw [hwhole] at hstrip ⊢
          rw [hwhole'] at hstrip' ⊢
          rw [eq_nil_of_strip_eq hstrip, eq_nil_of_strip_eq hstrip', List.append_nil,
            List.append_nil]
          exact afterEscape_append_newLine s
        · rw [hstrip, hstrip', hsame, List.append_assoc] at ih
          rw [hsame, List.append_cancel_left ih, List.append_assoc]
      · rw [List.cons_append, strip_cons hc, strip_cons hc, ih, List.cons_append]

end Stepbook.Console.Control
