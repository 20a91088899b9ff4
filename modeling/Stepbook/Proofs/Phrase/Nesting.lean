import Mathlib.Data.List.Infix
import Stepbook.Proofs.Phrase.Fragment
import Stepbook.Proofs.Phrase.Letters

/-!
# Nested groups

A group is closed by the first `)` behind it, so a group that holds another one ends
early and the `)` that belongs to it stays in the text.  What this comes to is read
off the depth of a text, the parentheses that it opens and does not close.  A pass
takes one `)` away for each group, and all the `(` up to it, so it never raises the
depth, and it keeps the depth only if no group that it replaces holds a `(`.

## Main definitions

* `Phrase.depth`, `Phrase.Balanced` — the depth of a text, and balanced parentheses.
* `Phrase.Shallow` — an expression in which no group holds another one, but for
  groups that capture nothing within a capture.
* `Phrase.Alternates` — a text in which no parenthesis is opened within another one.

## Main statements

* `Phrase.depth_replaceGroups_le` — a pass never raises the depth.
* `Phrase.not_mem_open_ofExpression` — no `(` is left of a balanced expression.
* `Phrase.not_mem_close_ofExpression_iff` — no `)` is left just of a shallow one.
* `Phrase.no_parenthesis_survives_iff` — both facts for annotations.
* `Phrase.closing_parenthesis_survives_nesting` — a nested group that leaves a `)`.

## Design notes

A balanced expression has depth zero and its phrase has no `(`.  So if its phrase has
no `)` either, both passes keep the depth, and it is known what each of them replaced:
the first one groups without parentheses inside, the second one the pairs of
parentheses that were left, none of them within another.
-/

namespace Stepbook.Phrase

open Stepbook.Text

/-! ## Depth -/

/-- A text without parentheses. -/
def Plain (s : List Char) : Prop := '(' ∉ s ∧ ')' ∉ s

/-- The number of parentheses that a text opens and does not close. -/
def depth (s : List Char) : Int := s.count '(' - s.count ')'

@[simp] theorem depth_nil : depth [] = 0 := rfl

@[simp] theorem depth_append (s t : List Char) : depth (s ++ t) = depth s + depth t := by
  simp only [depth, List.count_append]
  omega

theorem depth_cons (c : Char) (s : List Char) : depth (c :: s) = depth [c] + depth s :=
  depth_append [c] s

theorem Plain.depth_eq {s : List Char} (h : Plain s) : depth s = 0 := by
  rw [depth, List.count_eq_zero.mpr h.1, List.count_eq_zero.mpr h.2]
  rfl

theorem plain_nil : Plain [] := ⟨by simp, by simp⟩

theorem plain_silentMark : Plain ['?', ':'] := ⟨by decide, by decide⟩

theorem plain_anyMarker : Plain anyMarker := ⟨by decide +kernel, by decide +kernel⟩

theorem plain_placeholder : Plain placeholder := ⟨by decide +kernel, by decide +kernel⟩

/-- Balanced parentheses: none is closed that is not open, and none stays open. -/
structure Balanced (s : List Char) : Prop where
  nonneg : ∀ before, before <+: s → 0 ≤ depth before
  settled : depth s = 0

instance (s : List Char) : Decidable (Balanced s) :=
  decidable_of_iff ((∀ before ∈ s.inits, 0 ≤ depth before) ∧ depth s = 0)
    ⟨fun h => ⟨fun before hbefore => h.1 before ((List.mem_inits before s).mpr hbefore), h.2⟩,
      fun h => ⟨fun before hbefore => h.nonneg before ((List.mem_inits before s).mp hbefore),
        h.settled⟩⟩

/-- Every parenthesis that is open is closed behind it. -/
def Closes (s : List Char) : Prop := ∀ after, after <:+ s → depth after ≤ 0

theorem Balanced.closes {s : List Char} (h : Balanced s) : Closes s := by
  rintro after ⟨before, rfl⟩
  have hbefore := h.nonneg before (List.prefix_append before after)
  have hsettled := h.settled
  rw [depth_append] at hsettled
  omega

theorem closes_cons_iff {c : Char} {s : List Char} :
    Closes (c :: s) ↔ depth (c :: s) ≤ 0 ∧ Closes s := by
  constructor
  · intro h
    refine ⟨h _ List.suffix_rfl, fun after hafter => h after ?_⟩
    exact hafter.trans (List.suffix_cons c s)
  · rintro ⟨hwhole, hrest⟩ after hafter
    rcases List.suffix_cons_iff.mp hafter with rfl | hafter
    · exact hwhole
    · exact hrest after hafter

theorem Closes.of_append {u s : List Char} (h : Closes (u ++ s)) : Closes s :=
  fun after hafter => h after (hafter.trans (List.suffix_append u s))

/-- A text without parentheses before one that closes all changes nothing. -/
theorem Closes.append {u s : List Char} (hu : Plain u) (h : Closes s) : Closes (u ++ s) := by
  induction u with
  | nil => exact h
  | cons c u ih =>
      have htail : Plain u :=
        ⟨fun hmem => hu.1 (List.mem_cons_of_mem c hmem),
          fun hmem => hu.2 (List.mem_cons_of_mem c hmem)⟩
      rw [List.cons_append]
      refine closes_cons_iff.mpr ⟨?_, ih htail⟩
      rw [← List.cons_append, depth_append, hu.depth_eq, Int.zero_add]
      exact h s List.suffix_rfl

/-- In a text within one line that closes all, an open parenthesis begins a group. -/
theorem Closes.not_mem_open {s : List Char} (h : Closes s) (hfree : GroupFree s)
    (hline : '\n' ∉ s) : '(' ∉ s := by
  intro hmem
  obtain ⟨before, after, rfl⟩ := List.append_of_mem hmem
  have hdepth : depth ('(' :: after) ≤ 0 := h _ (List.suffix_append before _)
  have hclose : ')' ∈ after := by
    by_contra hnone
    simp [depth, List.count_eq_zero.mpr hnone] at hdepth
    omega
  obtain ⟨body, rest, rfl⟩ := List.append_of_mem hclose
  have hbody : '\n' ∈ body := hfree before body rest rfl
  exact hline (by simp [hbody])

/-! ## Depth of a pass -/

section Pass

variable {o marker s rest : List Char}

/-- A group takes one `)` away, and as many `(` as it holds besides its own. -/
theorem depth_group {body : List Char} (ho : Plain o) (hbody : ')' ∉ body) :
    depth ('(' :: (o ++ (body ++ ')' :: rest))) = body.count '(' + depth rest := by
  have hopen : depth ['('] = 1 := rfl
  have hclose : depth [')'] = -1 := rfl
  have hinside : depth body = body.count '(' := by
    rw [depth, List.count_eq_zero.mpr hbody]
    omega
  rw [depth_cons, depth_append, depth_append, depth_cons ')', ho.depth_eq, hopen, hclose, hinside]
  omega

/-- A pass that keeps the depth of a text keeps it behind a character that it keeps. -/
theorem depth_eq_of_cons {c : Char} (hgroup : afterGroup? ('(' :: o) (c :: s) = none)
    (hkeeps : depth (replaceGroups ('(' :: o) marker (c :: s)) = depth (c :: s)) :
    depth (replaceGroups ('(' :: o) marker s) = depth s := by
  rw [replaceGroups_of_none hgroup, depth_cons, depth_cons c s] at hkeeps
  omega

variable (ho : Plain o) (hmarker : Plain marker)
include ho hmarker

/-- **A pass never raises the depth.** -/
theorem depth_replaceGroups_le (s : List Char) :
    depth (replaceGroups ('(' :: o) marker s) ≤ depth s := by
  induction s using replaceGroups.induct ('(' :: o) with
  | case1 =>
      have hnil : replaceGroups ('(' :: o) marker [] = [] := by rw [replaceGroups]
      exact Int.le_of_eq (congrArg depth hnil)
  | case2 c s rest hgroup ih =>
      obtain ⟨body, hbody, -, hs⟩ := exists_body_of_afterGroup? hgroup
      rw [replaceGroups_of_some hgroup (by simp), depth_append, hmarker.depth_eq, hs,
        depth_group ho hbody]
      omega
  | case3 c s hgroup ih =>
      rw [replaceGroups_of_none hgroup, depth_cons, depth_cons c s]
      omega

/-- A pass leaves no parenthesis open that was closed. -/
theorem closes_replaceGroups (h : Closes s) : Closes (replaceGroups ('(' :: o) marker s) := by
  induction s using replaceGroups.induct ('(' :: o) with
  | case1 => rwa [replaceGroups]
  | case2 c s rest hgroup ih =>
      obtain ⟨body, -, -, hs⟩ := exists_body_of_afterGroup? hgroup
      have hrest : Closes rest := by
        have hsplit : c :: s = ('(' :: (o ++ (body ++ [')']))) ++ rest := by simp [hs]
        rw [hsplit] at h
        exact h.of_append
      rw [replaceGroups_of_some hgroup (by simp)]
      exact (ih hrest).append hmarker
  | case3 c s hgroup ih =>
      obtain ⟨hwhole, hrest⟩ := closes_cons_iff.mp h
      rw [replaceGroups_of_none hgroup]
      refine closes_cons_iff.mpr ⟨?_, ih hrest⟩
      have hle := depth_replaceGroups_le ho hmarker s
      rw [depth_cons] at hwhole ⊢
      omega

/-- A pass that keeps the depth replaces groups without parentheses inside. -/
theorem plain_body_of_depth_eq (hgroup : afterGroup? ('(' :: o) s = some rest)
    (hkeeps : depth (replaceGroups ('(' :: o) marker s) = depth s) :
    ∃ body, Plain body ∧ '\n' ∉ body ∧ s = '(' :: (o ++ (body ++ ')' :: rest)) ∧
      depth (replaceGroups ('(' :: o) marker rest) = depth rest := by
  obtain ⟨body, hbody, hline, rfl⟩ := exists_body_of_afterGroup? hgroup
  rw [replaceGroups_of_some hgroup (by simp), depth_append, hmarker.depth_eq,
    depth_group ho hbody] at hkeeps
  have hle := depth_replaceGroups_le ho hmarker rest
  have hcount : body.count '(' = 0 := by omega
  exact ⟨body, ⟨List.count_eq_zero.mp hcount, hbody⟩, hline, rfl, by omega⟩

end Pass

/-! ## Parentheses in turn -/

/-- Parentheses open and close in turn, and none stays open.  The flag says whether one
is open in front of the text. -/
def Alternates : Bool → List Char → Prop
  | isOpen, [] => isOpen = false
  | isOpen, c :: s =>
    if c = '(' then isOpen = false ∧ Alternates true s
    else if c = ')' then isOpen = true ∧ Alternates false s
    else Alternates isOpen s

theorem alternates_open_iff {isOpen : Bool} {s : List Char} :
    Alternates isOpen ('(' :: s) ↔ isOpen = false ∧ Alternates true s := by
  rw [Alternates, if_pos rfl]

theorem alternates_close_iff {isOpen : Bool} {s : List Char} :
    Alternates isOpen (')' :: s) ↔ isOpen = true ∧ Alternates false s := by
  rw [Alternates, if_neg (by decide), if_pos rfl]

theorem alternates_cons_iff {isOpen : Bool} {c : Char} {s : List Char} (hopen : c ≠ '(')
    (hclose : c ≠ ')') : Alternates isOpen (c :: s) ↔ Alternates isOpen s := by
  rw [Alternates, if_neg hopen, if_neg hclose]

theorem alternates_append_iff {isOpen : Bool} {u s : List Char} (hu : Plain u) :
    Alternates isOpen (u ++ s) ↔ Alternates isOpen s := by
  induction u with
  | nil => rfl
  | cons c u ih =>
      obtain ⟨hopen, hclose⟩ := hu
      rw [List.mem_cons, not_or] at hopen hclose
      rw [List.cons_append, alternates_cons_iff (Ne.symm hopen.1) (Ne.symm hclose.1)]
      exact ih ⟨hopen.2, hclose.2⟩

/-- The second pass leaves no parenthesis only of a text in which they come in turn, if it
keeps the depth. -/
theorem alternates_of_plain {marker s : List Char} (hmarker : Plain marker)
    (hplain : Plain (replaceGroups ['('] marker s))
    (hkeeps : depth (replaceGroups ['('] marker s) = depth s) : Alternates false s := by
  induction s using replaceGroups.induct ['('] with
  | case1 => rfl
  | case2 c s rest hgroup ih =>
      obtain ⟨body, hbody, -, hs, hkeepsRest⟩ :=
        plain_body_of_depth_eq plain_nil hmarker hgroup hkeeps
      rw [replaceGroups_of_some hgroup (by simp)] at hplain
      have hrest : Plain (replaceGroups ['('] marker rest) :=
        ⟨fun hmem => hplain.1 (List.mem_append_right _ hmem),
          fun hmem => hplain.2 (List.mem_append_right _ hmem)⟩
      rw [hs, alternates_open_iff, List.nil_append, alternates_append_iff hbody,
        alternates_close_iff]
      exact ⟨rfl, rfl, ih hrest hkeepsRest⟩
  | case3 c s hgroup ih =>
      have hkeepsRest := depth_eq_of_cons hgroup hkeeps
      rw [replaceGroups_of_none hgroup] at hplain
      obtain ⟨hopen, hclose⟩ := hplain
      rw [List.mem_cons, not_or] at hopen hclose
      rw [alternates_cons_iff (Ne.symm hopen.1) (Ne.symm hclose.1)]
      exact ih ⟨hopen.2, hclose.2⟩ hkeepsRest

/-! ## Shallow expressions -/

/-- A part of a shallow expression. -/
inductive ShallowPart where
  | text (t : GroupText)
  /-- A group that captures nothing. -/
  | silent (c : GroupText)
  | capture (b : Capture)

/-- A part, with its groups written in a given way. -/
def ShallowPart.render (silent : GroupText → List Char) (capture : Capture → List Char) :
    ShallowPart → List Char
  | .text t => t.text
  | .silent c => silent c
  | .capture b => capture b

/-- A part of a shallow expression, written out. -/
abbrev ShallowPart.source : ShallowPart → List Char :=
  ShallowPart.render silentSource (Capture.render silentSource)

/-- A part once the groups that capture nothing are replaced. -/
abbrev ShallowPart.silenced : ShallowPart → List Char :=
  ShallowPart.render (fun _ => anyMarker) (Capture.render fun _ => anyMarker)

/-- What a part shows. -/
abbrev ShallowPart.display : ShallowPart → List Char :=
  ShallowPart.render (fun _ => anyMarker) fun _ => placeholder

/-- An expression of texts, groups that capture nothing, and captures, in which a group
holds no other one, but for groups that capture nothing within a capture. -/
def Shallow (e : List Char) : Prop :=
  ∃ parts : List ShallowPart, e = parts.flatMap ShallowPart.source

theorem Shallow.nil : Shallow [] := ⟨[], rfl⟩

theorem Shallow.append (p : ShallowPart) {s : List Char} (h : Shallow s) :
    Shallow (p.source ++ s) := by
  obtain ⟨parts, rfl⟩ := h
  exact ⟨p :: parts, rfl⟩

/-- The passes write each part anew. -/
theorem replaceGroups_of_shallow (parts : List ShallowPart) :
    replaceGroups ['('] placeholder
        (replaceGroups ['(', '?', ':'] anyMarker (parts.flatMap ShallowPart.source)) =
      parts.flatMap ShallowPart.display := by
  have hsilenced : Rewrites ['(', '?', ':'] anyMarker (parts.flatMap ShallowPart.source)
      (parts.flatMap ShallowPart.silenced) := by
    refine rewrites_flatMap (fun p => ?_) parts
    cases p with
    | text t => exact rewrites_of_not_mem t.not_mem_open
    | silent c => exact rewrites_silentSource c
    | capture b => exact rewrites_captureSource b
  have hreplaced : Rewrites ['('] placeholder (parts.flatMap ShallowPart.silenced)
      (parts.flatMap ShallowPart.display) := by
    refine rewrites_flatMap (fun p => ?_) parts
    cases p with
    | text t => exact rewrites_of_not_mem t.not_mem_open
    | silent c => exact rewrites_of_not_mem plain_anyMarker.1
    | capture b => exact rewrites_captureSilenced b
  rw [hsilenced.eq, hreplaced.eq]

/-- A capture that the first pass leaves open does not begin like a group that captures
nothing. -/
theorem not_silent_of_afterGroup? {body rest : List Char} (hline : '\n' ∉ body)
    (hgroup : afterGroup? ['(', '?', ':'] ('(' :: (body ++ ')' :: rest)) = none) :
    ¬ ['?', ':'] <+: body := by
  rintro ⟨inside, rfl⟩
  have hclose : afterClose? (inside ++ ')' :: rest) = none := by
    rw [afterGroup?] at hgroup
    simpa [afterPrefix?] using hgroup
  have hbreak := afterClose?_eq_none_iff.mp hclose inside rest rfl
  exact hline (List.mem_append_right _ hbreak)

/-- **The first pass leaves parentheses in turn only of a shallow text**, if it keeps the
depth.  With a parenthesis open in front, the text goes on with the rest of a capture and
its `)`, and a shallow text behind. -/
theorem shallow_of_alternates {e : List Char} (hline : '\n' ∉ e)
    (hkeeps : depth (replaceGroups ['(', '?', ':'] anyMarker e) = depth e) :
    (Alternates false (replaceGroups ['(', '?', ':'] anyMarker e) → Shallow e) ∧
    (Alternates true (replaceGroups ['(', '?', ':'] anyMarker e) →
      ∃ (parts : List CapturePart) (rest : List Char),
        e = parts.flatMap (CapturePart.render silentSource) ++ ')' :: rest ∧ Shallow rest) := by
  induction e using replaceGroups.induct ['(', '?', ':'] with
  | case1 =>
      rw [replaceGroups]
      exact ⟨fun _ => .nil, fun h => absurd h (by simp [Alternates])⟩
  | case2 c s rest hgroup ih =>
      obtain ⟨body, hbody, hbodyLine, hs, hkeepsRest⟩ :=
        plain_body_of_depth_eq plain_silentMark plain_anyMarker hgroup hkeeps
      have hrestLine : '\n' ∉ rest := fun hmem => hline (by simp [hs, hmem])
      obtain ⟨houtside, hinside⟩ := ih hrestLine hkeepsRest
      let inner : GroupText := ⟨body, by simp [hbody.1, hbody.2, hbodyLine]⟩
      have hsource : c :: s = silentSource inner ++ rest := by simp [hs, silentSource, inner]
      rw [replaceGroups_of_some hgroup (by simp), alternates_append_iff plain_anyMarker,
        alternates_append_iff plain_anyMarker, hsource]
      refine ⟨fun h => (houtside h).append (.silent inner), fun h => ?_⟩
      obtain ⟨parts, behind, rfl, hbehind⟩ := hinside h
      exact ⟨.silent inner :: parts, behind, by simp [CapturePart.render], hbehind⟩
  | case3 c s hgroup ih =>
      have hkeepsRest := depth_eq_of_cons hgroup hkeeps
      rw [List.mem_cons, not_or] at hline
      obtain ⟨houtside, hinside⟩ := ih hline.2 hkeepsRest
      rw [replaceGroups_of_none hgroup]
      by_cases hopen : c = '('
      · subst hopen
        rw [alternates_open_iff, alternates_open_iff]
        refine ⟨fun h => ?_, fun h => absurd h.1 (by decide)⟩
        obtain ⟨parts, behind, rfl, hbehind⟩ := hinside h.2
        have hpartsLine : '\n' ∉ parts.flatMap (CapturePart.render silentSource) :=
          fun hmem => hline.2 (List.mem_append_left _ hmem)
        let capture : Capture := ⟨parts, not_silent_of_afterGroup? hpartsLine hgroup⟩
        have hsource : '(' :: (parts.flatMap (CapturePart.render silentSource) ++ ')' :: behind) =
            (ShallowPart.capture capture).source ++ behind := by
          simp [ShallowPart.source, ShallowPart.render, Capture.render, capture]
        rw [hsource]
        exact hbehind.append _
      · by_cases hclose : c = ')'
        · subst hclose
          rw [alternates_close_iff, alternates_close_iff]
          exact ⟨fun h => absurd h.1 (by decide), fun h => ⟨[], s, rfl, houtside h.2⟩⟩
        · let letter : GroupText :=
            ⟨[c], by simp [Ne.symm hopen, Ne.symm hclose, hline.1]⟩
          rw [alternates_cons_iff hopen hclose, alternates_cons_iff hopen hclose]
          refine ⟨fun h => (houtside h).append (.text letter), fun h => ?_⟩
          obtain ⟨parts, behind, rfl, hbehind⟩ := hinside h
          exact ⟨.text letter :: parts, behind, by simp [CapturePart.render, letter], hbehind⟩

/-! ## Phrases -/

/-- Tagging optional groups takes no parenthesis away and brings none in. -/
theorem mem_ofExpression_iff {c : Char} (hc : isGroupMark c = true) (e : List Char) :
    c ∈ ofExpression e ↔
      c ∈ replaceGroups ['('] placeholder (replaceGroups ['(', '?', ':'] anyMarker e) := by
  rw [ofExpression]
  generalize replaceGroups ['('] placeholder (replaceGroups ['(', '?', ':'] anyMarker e) = s
  have hfilter := filter_of_reaches (reaches_tagOptional s)
  have hiff : ∀ t : List Char, c ∈ t.filter isGroupMark ↔ c ∈ t := by
    simp [List.mem_filter, hc]
  rw [← hiff, hfilter, hiff]

section Balanced

variable {e : List Char} (hbalanced : Balanced e) (hline : '\n' ∉ e)
include hbalanced hline

/-- **No opening parenthesis is left of a balanced expression.** -/
theorem not_mem_open_ofExpression : '(' ∉ ofExpression e := by
  have hfirst : Closes (replaceGroups ['(', '?', ':'] anyMarker e) :=
    closes_replaceGroups plain_silentMark plain_anyMarker hbalanced.closes
  have hsecond : Closes (replaceGroups ['('] placeholder
      (replaceGroups ['(', '?', ':'] anyMarker e)) :=
    closes_replaceGroups plain_nil plain_placeholder hfirst
  rw [mem_ofExpression_iff rfl]
  refine hsecond.not_mem_open (groupFree_replaceGroups (by decide +kernel) _) fun hmem => ?_
  have hplaceholderLine : '\n' ∉ placeholder := by decide +kernel
  have hanyLine : '\n' ∉ anyMarker := by decide +kernel
  have hmemFirst := (mem_replaceGroups hmem).resolve_left hplaceholderLine
  exact hline ((mem_replaceGroups hmemFirst).resolve_left hanyLine)

/-- **No closing parenthesis is left of a balanced expression just if it is shallow.** -/
theorem not_mem_close_ofExpression_iff : ')' ∉ ofExpression e ↔ Shallow e := by
  have hopen := not_mem_open_ofExpression hbalanced hline
  rw [mem_ofExpression_iff rfl] at hopen ⊢
  constructor
  · intro hclose
    have hplain : Plain (replaceGroups ['('] placeholder
        (replaceGroups ['(', '?', ':'] anyMarker e)) := ⟨hopen, hclose⟩
    -- the depth is zero at both ends, so no pass changes it
    have hfirst := depth_replaceGroups_le plain_silentMark plain_anyMarker e
    have hsecond := depth_replaceGroups_le plain_nil plain_placeholder
      (replaceGroups ['(', '?', ':'] anyMarker e)
    have hstart := hbalanced.settled
    have hend := hplain.depth_eq
    have halternates : Alternates false (replaceGroups ['(', '?', ':'] anyMarker e) :=
      alternates_of_plain plain_placeholder hplain (by omega)
    exact (shallow_of_alternates hline (by omega)).1 halternates
  · rintro ⟨parts, rfl⟩
    rw [replaceGroups_of_shallow, List.mem_flatMap]
    rintro ⟨p, -, hp⟩
    cases p with
    | text t => exact t.not_mem ')' (by simp) hp
    | silent c => exact plain_anyMarker.2 hp
    | capture b => exact plain_placeholder.2 hp

end Balanced

/-- **The parentheses that survive.**  Take an annotation whose match expression lies on one
line and has balanced parentheses.  Its phrase has no `(`, however deep the groups are
nested.  It has no `)` just if the expression is shallow: every other nested group leaves
the `)` behind that belongs to it. -/
theorem no_parenthesis_survives_iff {text expression : String}
    (hexpression : Phrase.expression text = .ok expression)
    (hbalanced : Balanced expression.toList) (hline : '\n' ∉ expression.toList) :
    ∃ phrase, extract text = .ok phrase ∧ '(' ∉ phrase.toList ∧
      (')' ∉ phrase.toList ↔ Shallow expression.toList) := by
  refine ⟨String.ofList (ofExpression expression.toList), ?_, ?_, ?_⟩
  · rw [extract, hexpression]
    rfl
  · rw [String.toList_ofList]
    exact not_mem_open_ofExpression hbalanced hline
  · rw [String.toList_ofList]
    exact not_mem_close_ofExpression_iff hbalanced hline

/-- A capture with two groups that capture nothing inside, beside brackets that belong
together with nothing. -/
theorem shallow_expression_loses_parentheses :
    let text := "@When(\"^(?:I|we) [buy (a (?:big|red)(?: old)) dog]$\")"
    let expression := "(?:I|we) [buy (a (?:big|red)(?: old)) dog]"
    Phrase.expression text = .ok expression ∧ Balanced expression.toList ∧
      '\n' ∉ expression.toList ∧
      ∃ phrase, extract text = .ok phrase ∧ '(' ∉ phrase.toList ∧ ')' ∉ phrase.toList := by
  intro text expression
  have hexpression : Phrase.expression text = .ok expression := by decide +kernel
  have hbalanced : Balanced expression.toList := by decide +kernel
  have hline : '\n' ∉ expression.toList := by decide +kernel
  have hshallow : Shallow expression.toList := by
    refine ⟨[.silent ⟨"I|we".toList, by simp⟩, .text ⟨" [buy ".toList, by simp⟩,
      .capture ⟨[.text ⟨"a ".toList, by simp⟩, .silent ⟨"big|red".toList, by simp⟩,
        .silent ⟨" old".toList, by simp⟩], by decide +kernel⟩,
      .text ⟨" dog]".toList, by simp⟩], by decide +kernel⟩
  obtain ⟨phrase, hphrase, hopen, hclose⟩ :=
    no_parenthesis_survives_iff hexpression hbalanced hline
  exact ⟨hexpression, hbalanced, hline, phrase, hphrase, hopen, hclose.mpr hshallow⟩

/-- A capture around another one: its `)` is left. -/
theorem closing_parenthesis_survives_nesting :
    let text := "@Then(\"^I see ((.*) items)$\")"
    let expression := "I see ((.*) items)"
    Phrase.expression text = .ok expression ∧ Balanced expression.toList ∧
      '\n' ∉ expression.toList ∧ extract text = .ok "I see XXXX items)" := by
  intro text expression
  refine ⟨by decide +kernel, by decide +kernel, by decide +kernel, ?_⟩
  simp only [text]
  cbv

end Stepbook.Phrase
