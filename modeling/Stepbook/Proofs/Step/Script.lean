import Stepbook.Proofs.Phrase.Escape
import Stepbook.Proofs.Phrase.NormalForm
import Stepbook.Proofs.Text.Enclosed
import Stepbook.Step.Script
import Stepbook.Text.Blank

/-!
# Reading a script back

Phrases and names are set between quotes as they are, and type names without quotes.
A phrase that is the body of a string literal does not run over its closing quote, so
the statement around it is read as it was written.  If all phrases and names are such
bodies, and type names have neither blanks nor quotes, the whole script is read back:
each part says itself where it ends.

## Main definitions

* `Step.scriptStart`, `Step.scriptTail` — what a statement holds before its phrase and
  behind it.
* `Parameter.Readable`, `Step.Readable` — what the parts of a statement must be for it
  to be read back.

## Main statements

* `Step.toList_script` — a statement, around the two quotes of its phrase.
* `Step.phrase_literal_stays_closed` — the phrase of an escaped annotation ends at its
  own closing quote.
* `Parameter.script_append_inj`, `Step.script_append_inj` — each part is read off a text
  that goes on.
* `Step.scriptOf_eq_iff` — scripts of different steps are different.
-/

namespace Stepbook

open Stepbook.Text

/-- Texts with a separator between them: each but the first comes behind one. -/
theorem toList_intercalate_cons (separator first : String) (others : List String) :
    (separator.intercalate (first :: others)).toList =
      first.toList ++ others.flatMap fun t => separator.toList ++ t.toList := by
  rw [String.toList_intercalate]
  induction others generalizing first with
  | nil => simp
  | cons second others ih =>
      rw [List.map_cons, List.map_cons, List.intercalate_cons_cons, ← List.map_cons, ih,
        List.flatMap_cons, List.append_assoc, List.append_assoc]

/-! ## The parts of a statement -/

/-- What the key pair of a parameter shows for its kind. -/
def ParameterKind.script (kind : ParameterKind) : List Char :=
  (kind.typeName?.getD ("\"" ++ kind.word ++ "\"")).toList

/-- A key pair, around the closing quote of its name and the blank behind its type. -/
theorem Parameter.toList_script (p : Parameter) :
    p.script.toList = "new keypair( \"".toList ++
      (p.name.toList ++ '"' :: (", ".toList ++ (p.kind.script ++ ' ' :: [')']))) := by
  have hcomma : "\", ".toList = '"' :: ", ".toList := by decide +kernel
  have hclose : " )".toList = ' ' :: [')'] := by decide +kernel
  unfold Parameter.script ParameterKind.script
  rw [String.toList_append, String.toList_append, String.toList_append, String.toList_append,
    hcomma, hclose]
  simp only [List.append_assoc, List.cons_append]

namespace Step

/-- What a statement holds before the quote that opens its phrase. -/
def scriptStart : List Char := "testSteps.push( new step( ".toList

/-- What a statement holds behind the quote that closes its phrase. -/
def scriptTail (parameters : List Parameter) : List Char :=
  (parameters.flatMap fun p => ", ".toList ++ p.script.toList) ++ " ) );".toList

theorem scriptTail_cons (p : Parameter) (parameters : List Parameter) :
    scriptTail (p :: parameters) = ", ".toList ++ (p.script.toList ++ scriptTail parameters) := by
  rw [scriptTail, scriptTail, List.flatMap_cons, List.append_assoc, List.append_assoc]

/-- **A statement, around the two quotes of its phrase.** -/
theorem toList_script (s : Step) :
    s.script.toList = scriptStart ++ '"' :: (s.phrase.toList ++ '"' :: scriptTail s.parameters) := by
  have hquote : "\"".toList = ['"'] := by decide +kernel
  unfold script scriptStart scriptTail
  rw [String.toList_append, String.toList_append, toList_intercalate_cons, String.toList_append,
    String.toList_append, List.flatMap_map, hquote]
  simp only [List.append_assoc, List.cons_append, List.nil_append]

/-! ## Escaped annotations -/

/-- **The phrase of an escaped annotation ends at its own closing quote.**  If the match
expression of an annotation is the body of a string literal in which no mark is
escaped, so is its phrase.  In the statement of any step with that phrase, the first
quote behind the opening one that is not escaped is the one behind the phrase. -/
theorem phrase_literal_stays_closed {text expression : String}
    (hexpression : Phrase.expression text = .ok expression)
    (hclosed : Phrase.EscapeClosed expression.toList) :
    ∃ phrase, Phrase.extract text = .ok phrase ∧ Phrase.EscapeClosed phrase.toList ∧
      ∀ s : Step, s.phrase = phrase →
        s.script.toList =
          scriptStart ++ '"' :: (phrase.toList ++ '"' :: scriptTail s.parameters) ∧
        untilQuote? (phrase.toList ++ '"' :: scriptTail s.parameters) =
          some (phrase.toList, scriptTail s.parameters) := by
  have hphrase : Phrase.EscapeClosed (Phrase.ofExpression expression.toList) :=
    Phrase.escapeClosed_ofExpression hclosed
  rw [← String.toList_ofList (l := Phrase.ofExpression expression.toList)] at hphrase
  refine ⟨String.ofList (Phrase.ofExpression expression.toList), ?_, hphrase, ?_⟩
  · rw [Phrase.extract, hexpression]
    rfl
  · intro s hs
    rw [← hs] at hphrase ⊢
    exact ⟨s.toList_script, untilQuote?_append hphrase.isLiteralBody _⟩

/-- A group between two backslashes that belong together and an escaped quote, and an
optional group around an escape. -/
theorem escaped_groups_stay_closed :
    let text := "@When(\"^\\\\(.*)\\\"[b\\n]?\\\\$\")"
    let expression := "\\\\(.*)\\\"[b\\n]?\\\\"
    let phrase := "\\\\XXXX\\\"<span class='opt'>b\\n</span>\\\\"
    let parameters : List Parameter := [⟨"c", .text⟩]
    Phrase.expression text = .ok expression ∧ Phrase.EscapeClosed expression.toList ∧
      Phrase.extract text = .ok phrase ∧ Phrase.EscapeClosed phrase.toList ∧
      untilQuote? (phrase.toList ++ '"' :: scriptTail parameters) =
        some (phrase.toList, scriptTail parameters) := by
  intro text expression phrase parameters
  have hexpression : Phrase.expression text = .ok expression := by decide +kernel
  have hclosed : Phrase.EscapeClosed expression.toList := by decide +kernel
  have hextract : Phrase.extract text = .ok phrase := by
    simp only [text, phrase]
    cbv
  obtain ⟨phrase', hphrase, hescapes, hstep⟩ := phrase_literal_stays_closed hexpression hclosed
  obtain rfl : phrase = phrase' := Except.ok.inj (hextract.symm.trans hphrase)
  exact ⟨hexpression, hclosed, hextract, hescapes, (hstep ⟨phrase, parameters⟩ rfl).2⟩

end Step

/-! ## Readable parameters -/

namespace ParameterKind

/-- A kind whose type name, if it has one, has neither blanks nor quotes. -/
def Readable (kind : ParameterKind) : Prop :=
  ∀ type, kind.typeName? = some type → ∀ c ∈ type.toList, isBlank c = false ∧ c ≠ '"'

/-- The kinds that carry no type name. -/
def plain : List ParameterKind := [.number, .text, .date]

theorem mem_plain {kind : ParameterKind} (h : kind.typeName? = none) : kind ∈ plain := by
  cases kind with
  | enumeration type => cases h
  | number => simp [plain]
  | text => simp [plain]
  | date => simp [plain]

theorem script_of_typeName {kind : ParameterKind} {type : String}
    (h : kind.typeName? = some type) : kind.script = type.toList := by
  rw [script, h, Option.getD_some]

/-- Only a plain kind is set between quotes. -/
theorem quote_mem_script_iff {kind : ParameterKind} (h : kind.Readable) :
    '"' ∈ kind.script ↔ kind.typeName? = none := by
  have hplain : (plain.all fun k => k.script.contains '"') = true := by decide +kernel
  cases htype : kind.typeName? with
  | none =>
      have hkind := List.all_eq_true.mp hplain kind (mem_plain htype)
      simpa using hkind
  | some type =>
      rw [script_of_typeName htype]
      simpa using fun hmem => (h type htype _ hmem).2 rfl

/-- What a key pair shows for a kind has no blanks. -/
theorem blank_not_mem_script {kind : ParameterKind} (h : kind.Readable) : ' ' ∉ kind.script := by
  have hplain : (plain.all fun k => !k.script.contains ' ') = true := by decide +kernel
  cases htype : kind.typeName? with
  | none =>
      have hkind := List.all_eq_true.mp hplain kind (mem_plain htype)
      simpa using hkind
  | some type =>
      rw [script_of_typeName htype]
      intro hmem
      have hblank := (h type htype _ hmem).1
      revert hblank
      decide

/-- The type name of a kind, or the quotes around its word, tell it from all others. -/
theorem script_inj {kind other : ParameterKind} (hkind : kind.Readable) (hother : other.Readable)
    (h : kind.script = other.script) : kind = other := by
  have hplain : ∀ k ∈ plain, ∀ l ∈ plain, k.script = l.script → k = l := by decide +kernel
  have hiff : kind.typeName? = none ↔ other.typeName? = none := by
    rw [← quote_mem_script_iff hkind, h, quote_mem_script_iff hother]
  cases htype : kind.typeName? with
  | none => exact hplain kind (mem_plain htype) other (mem_plain (hiff.mp htype)) h
  | some type =>
      cases kind with
      | enumeration t =>
          cases other with
          | enumeration u =>
              have htext : t.text.toList = u.text.toList := h
              obtain ⟨t, ht⟩ := t
              obtain ⟨u, hu⟩ := u
              cases String.toList_inj.mp htext
              rfl
          | number => exact absurd (hiff.mpr rfl) (by simp [htype])
          | text => exact absurd (hiff.mpr rfl) (by simp [htype])
          | date => exact absurd (hiff.mpr rfl) (by simp [htype])
      | number => cases htype
      | text => cases htype
      | date => cases htype

end ParameterKind

/-- A parameter that is read back from its key pair: its name is the body of a string
literal, and its type name has neither blanks nor quotes. -/
structure Parameter.Readable (p : Parameter) : Prop where
  name : IsLiteralBody p.name.toList
  kind : p.kind.Readable

/-- **A key pair is read off a text that goes on.** -/
theorem Parameter.script_append_inj {p q : Parameter} (hp : p.Readable) (hq : q.Readable)
    {s t : List Char} (h : p.script.toList ++ s = q.script.toList ++ t) : p = q ∧ s = t := by
  simp only [toList_script, List.append_assoc, List.cons_append] at h
  have hbody := List.append_cancel_left h
  obtain ⟨hname, hbehind⟩ := quote_append_inj hp.name hq.name hbody
  have htype := List.append_cancel_left hbehind
  obtain ⟨hkind, hrest⟩ := append_mark_inj (ParameterKind.blank_not_mem_script hp.kind)
    (ParameterKind.blank_not_mem_script hq.kind) htype
  obtain ⟨name, kind⟩ := p
  obtain ⟨name', kind'⟩ := q
  cases String.toList_inj.mp hname
  cases ParameterKind.script_inj hp.kind hq.kind hkind
  exact ⟨rfl, (List.cons.inj hrest).2⟩

/-! ## Readable steps -/

/-- A step that is read back from its statement. -/
structure Step.Readable (s : Step) : Prop where
  phrase : IsLiteralBody s.phrase.toList
  parameters : ∀ p ∈ s.parameters, p.Readable

namespace Step

/-- The key pairs of a statement are read up to the end of the statement. -/
theorem scriptTail_append_inj {ps qs : List Parameter} (hps : ∀ p ∈ ps, p.Readable)
    (hqs : ∀ q ∈ qs, q.Readable) {s t : List Char} (h : scriptTail ps ++ s = scriptTail qs ++ t) :
    ps = qs ∧ s = t := by
  -- another key pair begins with a comma, the end of the statement with a blank
  have hcomma : ", ".toList = ',' :: [' '] := by decide +kernel
  have hend : scriptTail [] = ' ' :: ") );".toList := by decide +kernel
  induction ps generalizing qs with
  | nil =>
      cases qs with
      | nil => exact ⟨rfl, List.append_cancel_left h⟩
      | cons q qs =>
          rw [hend, scriptTail_cons, hcomma] at h
          cases h
  | cons p ps ih =>
      cases qs with
      | nil =>
          rw [hend, scriptTail_cons, hcomma] at h
          cases h
      | cons q qs =>
          rw [List.forall_mem_cons] at hps hqs
          rw [scriptTail_cons, scriptTail_cons, List.append_assoc, List.append_assoc,
            List.append_assoc, List.append_assoc] at h
          have hpairs := List.append_cancel_left h
          obtain ⟨rfl, htail⟩ := Parameter.script_append_inj hps.1 hqs.1 hpairs
          obtain ⟨rfl, hrest⟩ := ih hps.2 hqs.2 htail
          exact ⟨rfl, hrest⟩

/-- **A statement is read off a text that goes on.** -/
theorem script_append_inj {a b : Step} (ha : a.Readable) (hb : b.Readable) {s t : List Char}
    (h : a.script.toList ++ s = b.script.toList ++ t) : a = b ∧ s = t := by
  simp only [toList_script, List.append_assoc, List.cons_append] at h
  have hliteral := (List.cons.inj (List.append_cancel_left h)).2
  obtain ⟨hphrase, hbehind⟩ := quote_append_inj ha.phrase hb.phrase hliteral
  obtain ⟨hparameters, hrest⟩ := scriptTail_append_inj ha.parameters hb.parameters hbehind
  obtain ⟨phrase, parameters⟩ := a
  obtain ⟨phrase', parameters'⟩ := b
  cases String.toList_inj.mp hphrase
  cases hparameters
  exact ⟨rfl, hrest⟩

/-- The first statement of a script, and the lines behind it. -/
theorem toList_scriptOf_cons (s : Step) (steps : List Step) :
    (scriptOf (s :: steps)).toList =
      s.script.toList ++ steps.flatMap fun other => '\n' :: other.script.toList := by
  have hline : "\n".toList = ['\n'] := by decide +kernel
  rw [scriptOf, List.map_cons, toList_intercalate_cons, List.flatMap_map, hline]
  rfl

/-- Lines of a script are read back one by one. -/
theorem lines_inj {xs ys : List Step} (hxs : ∀ s ∈ xs, s.Readable) (hys : ∀ s ∈ ys, s.Readable)
    (h : (xs.flatMap fun s => '\n' :: s.script.toList) =
      ys.flatMap fun s => '\n' :: s.script.toList) : xs = ys := by
  induction xs generalizing ys with
  | nil =>
      cases ys with
      | nil => rfl
      | cons b ys => cases h
  | cons a xs ih =>
      cases ys with
      | nil => cases h
      | cons b ys =>
          rw [List.forall_mem_cons] at hxs hys
          rw [List.flatMap_cons, List.flatMap_cons, List.cons_append, List.cons_append] at h
          obtain ⟨rfl, hrest⟩ := script_append_inj hxs.1 hys.1 (List.cons.inj h).2
          rw [ih hxs.2 hys.2 hrest]

/-- A script is empty only if there are no steps. -/
theorem scriptOf_eq_empty_iff {steps : List Step} : scriptOf steps = "" ↔ steps = [] := by
  cases steps with
  | nil => exact ⟨fun _ => rfl, fun _ => rfl⟩
  | cons s steps =>
      have hquote : '"' ∈ (scriptOf (s :: steps)).toList := by
        rw [toList_scriptOf_cons, toList_script]
        exact List.mem_append_left _ (List.mem_append_right _ List.mem_cons_self)
      constructor
      · intro h
        rw [h] at hquote
        cases hquote
      · rintro ⟨⟩

/-- **A script loses nothing.**  If in all steps the phrases and the names are bodies of
string literals, and the type names have neither blanks nor quotes, two scripts are the
same only if the steps are: the same phrases, the same parameters in the same order,
and for each the same name, kind and type name. -/
theorem scriptOf_eq_iff {xs ys : List Step} (hxs : ∀ s ∈ xs, s.Readable)
    (hys : ∀ s ∈ ys, s.Readable) : scriptOf xs = scriptOf ys ↔ xs = ys := by
  constructor
  · intro h
    cases xs with
    | nil => exact (scriptOf_eq_empty_iff.mp h.symm).symm
    | cons a xs =>
        cases ys with
        | nil => exact scriptOf_eq_empty_iff.mp h
        | cons b ys =>
            rw [List.forall_mem_cons] at hxs hys
            have htexts := congrArg String.toList h
            rw [toList_scriptOf_cons, toList_scriptOf_cons] at htexts
            obtain ⟨rfl, hlines⟩ := script_append_inj hxs.1 hys.1 htexts
            rw [lines_inj hxs.2 hys.2 hlines]
  · rintro rfl
    rfl

/-- A phrase that holds what looks like a key pair, against a phrase with a key pair
behind it. -/
theorem escaped_key_pair_is_no_key_pair :
    let xs : List Step := [⟨"a\\\", new keypair( \\\"n\\\", T )", []⟩]
    let ys : List Step := [⟨"a", [⟨"n", .enumeration ⟨"T", by decide⟩⟩]⟩]
    (∀ s ∈ xs, s.Readable) ∧ (∀ s ∈ ys, s.Readable) ∧ scriptOf xs ≠ scriptOf ys := by
  intro xs ys
  have hxs : ∀ s ∈ xs, s.Readable := by
    rw [List.forall_mem_singleton]
    exact ⟨by decide +kernel, by simp⟩
  have hys : ∀ s ∈ ys, s.Readable := by
    rw [List.forall_mem_singleton]
    refine ⟨by decide +kernel, ?_⟩
    rw [List.forall_mem_singleton]
    refine ⟨by decide +kernel, ?_⟩
    rintro type ⟨⟩ c hc
    obtain rfl : c = 'T' := by simpa using hc
    decide
  exact ⟨hxs, hys, (scriptOf_eq_iff hxs hys).not.mpr (by decide)⟩

end Step

end Stepbook
