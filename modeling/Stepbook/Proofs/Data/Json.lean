import Mathlib.Data.String.Basic
import Stepbook.Data.Json

/-!
# What JSON text consists of

JSON text goes through terminals and pipes unharmed: it consists of printable ASCII
characters and line breaks, whatever the texts in the data hold.  Only a number that
keeps the text it was written as is not covered.

## Main definitions

* `Json.isPrinted`, `Json.Printed` — a character and a text of that kind.
* `Json.Spelled` — data without numbers that keep their text.

## Main statements

* `Json.printed_quote` — string literals.
* `Json.printed_render` — the text of data.
-/

namespace Stepbook.Json

open Stepbook.Text

/-! ## Printed text -/

/-- A printable ASCII character or a line break. -/
def isPrinted (c : Char) : Bool := c == '\n' || (0x20 ≤ c.toNat && c.toNat ≤ 0x7E)

/-- A text of printable ASCII characters and line breaks. -/
def Printed (s : String) : Prop := ∀ c ∈ s.toList, isPrinted c = true

instance (s : String) : Decidable (Printed s) :=
  decidable_of_iff (s.toList.all isPrinted = true) List.all_eq_true

theorem printed_ofList {s : List Char} (h : ∀ c ∈ s, isPrinted c = true) :
    Printed (String.ofList s) := by
  rwa [Printed, String.toList_ofList]

theorem Printed.append {s t : String} (hs : Printed s) (ht : Printed t) : Printed (s ++ t) := by
  intro c hc
  rw [String.toList_append] at hc
  rcases List.mem_append.mp hc with hc | hc
  · exact hs c hc
  · exact ht c hc

theorem Printed.intercalate {separator : String} {texts : List String}
    (hseparator : Printed separator) (h : ∀ s ∈ texts, Printed s) :
    Printed (separator.intercalate texts) := by
  induction texts with
  | nil => simp [Printed]
  | cons s texts ih =>
      have hs : Printed s := h s List.mem_cons_self
      have hrest : ∀ t ∈ texts, Printed t := fun t ht => h t (List.mem_cons_of_mem _ ht)
      cases texts with
      | nil => simpa using hs
      | cons t texts =>
          rw [String.intercalate_cons_cons]
          exact (hs.append hseparator).append (ih hrest)

/-! ## String literals -/

theorem isPrinted_digitChar {n : Nat} (h : n < 16) : isPrinted (Nat.digitChar n) = true := by
  revert n
  decide

theorem isPrinted_of_mem_hex {width n : Nat} {c : Char} (h : c ∈ hex width n) :
    isPrinted c = true := by
  induction width generalizing n with
  | zero => cases h
  | succ width ih =>
      rcases List.mem_append.mp h with h | h
      · exact ih h
      · rw [List.mem_singleton.mp h]
        exact isPrinted_digitChar (Nat.mod_lt n (by decide))

/-- A sixteen-bit unit in its escaped form. -/
theorem isPrinted_of_mem_unit {n : Nat} {c : Char} (h : c ∈ '\\' :: 'u' :: hex 4 n) :
    isPrinted c = true := by
  rcases List.mem_cons.mp h with rfl | h
  · rfl
  · rcases List.mem_cons.mp h with rfl | h
    · rfl
    · exact isPrinted_of_mem_hex h

theorem isPrinted_of_mem_escapeUnits {n : Nat} {c : Char} (h : c ∈ escapeUnits n) :
    isPrinted c = true := by
  unfold escapeUnits at h
  split at h
  · exact isPrinted_of_mem_unit h
  · rcases List.mem_append.mp h with h | h
    · exact isPrinted_of_mem_unit h
    · exact isPrinted_of_mem_unit h

/-- The form of a character inside a string literal is printed, whatever the
character. -/
theorem isPrinted_of_mem_escape {c d : Char} (h : d ∈ escape c) : isPrinted d = true := by
  -- two characters for the marks and for the named controls
  have hpair : ∀ {e : Char}, isPrinted e = true → d ∈ ['\\', e] → isPrinted d = true := by
    intro e he hd
    rcases List.mem_pair.mp hd with rfl | rfl
    · rfl
    · exact he
  unfold escape at h
  split at h
  · rename_i hmark
    refine hpair ?_ h
    rcases (Bool.or_eq_true _ _).mp hmark with hmark | hmark
    · rw [of_decide_eq_true hmark]
      rfl
    · rw [of_decide_eq_true hmark]
      rfl
  split at h
  · exact hpair rfl h
  split at h
  · exact hpair rfl h
  split at h
  · exact hpair rfl h
  split at h
  · exact hpair rfl h
  split at h
  · exact hpair rfl h
  split at h
  · rename_i hprintable
    rw [List.mem_singleton.mp h, isPrinted, hprintable, Bool.or_true]
  · exact isPrinted_of_mem_escapeUnits h

/-- **A string literal is printed**, whatever the text. -/
theorem printed_quote (s : String) : Printed (quote s) := by
  refine printed_ofList fun c hc => ?_
  rcases List.mem_append.mp hc with hc | hc
  · rcases List.mem_cons.mp hc with rfl | hc
    · rfl
    · obtain ⟨d, -, hd⟩ := List.mem_flatMap.mp hc
      exact isPrinted_of_mem_escape hd
  · rw [List.mem_singleton.mp hc]
    rfl

/-! ## Whole numbers -/

theorem printed_natRepr (n : Nat) : Printed n.repr := by
  intro c hc
  rw [Nat.toList_repr] at hc
  have hdigit : c.isDigit = true := Nat.isDigit_of_mem_toDigits (by decide) (by decide) hc
  obtain ⟨hlow, hhigh⟩ : 48 ≤ c.toNat ∧ c.toNat ≤ 57 := by
    simpa [Char.isDigit, UInt32.le_iff_toNat_le] using hdigit
  have hrange : 0x20 ≤ c.toNat ∧ c.toNat ≤ 0x7E := by omega
  simp [isPrinted, hrange]

theorem printed_integer (n : Int) : Printed (toString n) := by
  change Printed n.repr
  rw [Int.repr_eq_if]
  split
  · exact printed_natRepr _
  · exact Printed.append (by decide +kernel) (printed_natRepr _)

/-! ## Data -/

theorem renderItems_eq_map (depth : Nat) (items : List Data) :
    renderItems depth items = items.map (renderAt depth) := by
  induction items with
  | nil => rw [renderItems, List.map_nil]
  | cons d items ih => rw [renderItems, List.map_cons, ih]

theorem renderEntries_eq_map (depth : Nat) (entries : Entries) :
    renderEntries depth entries =
      entries.map fun e => quote e.1 ++ ": " ++ renderAt depth e.2 := by
  induction entries with
  | nil => rw [renderEntries, List.map_nil]
  | cons e entries ih => rw [renderEntries, List.map_cons, ih]

theorem printed_newLine (depth : Nat) : Printed (newLine depth) := by
  refine printed_ofList fun c hc => ?_
  rcases List.mem_cons.mp hc with rfl | hc
  · rfl
  · rw [List.eq_of_mem_replicate hc]
    rfl

theorem printed_block {opener closer : String} (hopener : Printed opener)
    (hcloser : Printed closer) (depth : Nat) {items : List String} (h : ∀ s ∈ items, Printed s) :
    Printed (block opener closer depth items) := by
  have hcomma : Printed "," := by decide +kernel
  unfold block
  split
  · exact hopener.append hcloser
  · have hseparator := hcomma.append (printed_newLine (depth + 1))
    have hbody := Printed.intercalate hseparator h
    exact (((hopener.append (printed_newLine _)).append hbody).append (printed_newLine _)).append
      hcloser

/-- Data without numbers that keep the text they were written as. -/
inductive Spelled : Data → Prop
  | null : Spelled .null
  | boolean (b : Bool) : Spelled (.boolean b)
  | integer (n : Int) : Spelled (.integer n)
  | moment (literal : String) : Spelled (.moment literal)
  | text (s : String) : Spelled (.text s)
  | array {items : List Data} (h : ∀ d ∈ items, Spelled d) : Spelled (.array items)
  | table {entries : Entries} (h : ∀ e ∈ entries, Spelled e.2) : Spelled (.table entries)

theorem spelled_map {α : Type} {f : α → Data} {as : List α} (h : ∀ a ∈ as, Spelled (f a)) :
    Spelled (.array (as.map f)) := by
  refine .array fun d hd => ?_
  obtain ⟨a, ha, rfl⟩ := List.mem_map.mp hd
  exact h a ha

theorem printed_renderAt {d : Data} (h : Spelled d) (depth : Nat) : Printed (renderAt depth d) := by
  induction h generalizing depth with
  | null =>
      rw [renderAt]
      decide +kernel
  | boolean b =>
      rw [renderAt]
      cases b <;> decide +kernel
  | integer n =>
      rw [renderAt]
      exact printed_integer n
  | moment literal =>
      rw [renderAt]
      exact printed_quote literal
  | text s =>
      rw [renderAt]
      exact printed_quote s
  | array _ ih =>
      rw [renderAt, renderItems_eq_map]
      refine printed_block (by decide +kernel) (by decide +kernel) depth fun s hs => ?_
      obtain ⟨d, hd, rfl⟩ := List.mem_map.mp hs
      exact ih d hd _
  | table _ ih =>
      rw [renderAt, renderEntries_eq_map]
      refine printed_block (by decide +kernel) (by decide +kernel) depth fun s hs => ?_
      obtain ⟨e, he, rfl⟩ := List.mem_map.mp hs
      have hcolon : Printed ": " := by decide +kernel
      exact ((printed_quote e.1).append hcolon).append (ih e he _)

/-- **JSON text is printed**: printable ASCII and line breaks. -/
theorem printed_render {d : Data} (h : Spelled d) : Printed (render d) := printed_renderAt h 0

end Stepbook.Json
