import Stepbook.CommandLine.Command

/-!
# Options that do not look at each other

A change of the settings that no option of a table looks at can be made before the
arguments are parsed or behind it.  The switch for JSON is such a change: wherever it
stands before the command, it leads to the same request, with that switch set.

## Main definitions

* `OptionTable.Ignores` — the options of a table do not look at a change of the
  settings.
* `IsOption` — an argument that is parsed as options.
* `Request.withJson` — a request with the switch for JSON set.

## Main statements

* `OptionTable.parse_of_ignores` — parsing with changed settings.
* `Request.parse_json` — a command line with the switch for JSON.
-/

namespace Stepbook.CommandLine

variable {σ : Type}

/-! ## Changes of the settings -/

/-- An option does to changed settings what it does to them before the change. -/
def OptionEffect.Ignores (effect : OptionEffect σ) (change : σ → σ) : Prop :=
  match effect with
  | .switch set => ∀ settings, set (change settings) = change (set settings)
  | .value set => ∀ v settings, set v (change settings) = change (set v settings)

namespace OptionTable

variable {table : OptionTable σ} {change : σ → σ}

/-- No option of a table looks at a change of the settings. -/
def Ignores (table : OptionTable σ) (change : σ → σ) : Prop :=
  ∀ option ∈ table, option.2.Ignores change

theorem Ignores.of_effect? (h : table.Ignores change) {name : String} {effect : OptionEffect σ}
    (heffect : table.effect? name = some effect) : effect.Ignores change := by
  obtain ⟨option, hfind, rfl⟩ := Option.map_eq_some_iff.mp heffect
  exact h option (List.mem_of_find?_eq_some hfind)

/-- What an argument comes to, with the settings changed behind it. -/
def Taken.map (change : σ → σ) : Taken σ → Taken σ
  | .done settings => .done (change settings)
  | .wants set => .wants fun v => change (set v)
  | .refused => .refused

/-! ## One argument -/

theorem takeShort_of_ignores (h : table.Ignores change) (settings : σ) (letters : List Char) :
    table.takeShort (change settings) letters = (table.takeShort settings letters).map change := by
  induction settings, letters using takeShort.induct table with
  | case1 settings => rfl
  | case2 settings c rest hnone => simp only [takeShort, hnone, Taken.map]
  | case3 settings c rest set hset ih =>
      have hcommutes : set (change settings) = change (set settings) := h.of_effect? hset settings
      simp only [takeShort, hset, hcommutes, ih]
  | case4 settings c rest set hset hlast =>
      have hcommutes : ∀ v, set v (change settings) = change (set v settings) :=
        fun v => h.of_effect? hset v settings
      simp only [takeShort, hset, if_pos hlast, hcommutes, Taken.map]
  | case5 settings c rest set hset hvalue =>
      have hcommutes : ∀ v, set v (change settings) = change (set v settings) :=
        fun v => h.of_effect? hset v settings
      simp only [takeShort, hset, if_neg hvalue, hcommutes, Taken.map]

theorem takeLong_of_ignores {effect : OptionEffect σ} (h : effect.Ignores change) (settings : σ)
    (given : Option String) :
    takeLong (change settings) effect given = (takeLong settings effect given).map change := by
  cases effect with
  | switch set =>
      have hcommutes : set (change settings) = change (set settings) := h settings
      cases given with
      | none => simp only [takeLong, hcommutes, Taken.map]
      | some v => rfl
  | value set =>
      have hcommutes : ∀ v, set v (change settings) = change (set v settings) :=
        fun v => h v settings
      cases given with
      | none => simp only [takeLong, hcommutes, Taken.map]
      | some v => simp only [takeLong, hcommutes, Taken.map]

theorem take_of_ignores (h : table.Ignores change) (settings : σ) (argument : List Char) :
    table.take (change settings) argument = (table.take settings argument).map change := by
  unfold take
  dsimp only
  split
  · split
    · rename_i effect heffect
      exact takeLong_of_ignores (h.of_effect? heffect) settings _
    · rfl
  · exact takeShort_of_ignores h settings _

/-! ## All arguments -/

/-- **Parsing with changed settings** is parsing, and then the change. -/
theorem parse_of_ignores (h : table.Ignores change) (interspersed : Bool) (settings : σ)
    (arguments : List String) :
    table.parse interspersed (change settings) arguments =
      (table.parse interspersed settings arguments).map (Prod.map change id) := by
  induction settings, arguments using parse.induct table interspersed with
  | case1 settings => rfl
  | case2 settings rest => simp only [parse, if_true, Option.map_some, Prod.map, id]
  | case3 settings argument rest hend hoption after htaken ih =>
      simp only [parse, if_neg hend, if_pos hoption, take_of_ignores h, htaken, Taken.map, ih]
  | case4 settings argument hend hoption set htaken v rest ih =>
      simp only [parse, if_neg hend, if_pos hoption, take_of_ignores h, htaken, Taken.map, ih]
  | case5 settings argument hend hoption set htaken =>
      simp only [parse, if_neg hend, if_pos hoption, take_of_ignores h, htaken, Taken.map,
        Option.map_none]
  | case6 settings argument rest hend hoption htaken =>
      simp only [parse, if_neg hend, if_pos hoption, take_of_ignores h, htaken, Taken.map,
        Option.map_none]
  | case7 settings argument rest hend hoption hinterspersed ih =>
      simp only [parse, if_neg hend, if_neg hoption, if_pos hinterspersed, ih, Option.map_map]
      rfl
  | case8 settings argument rest hend hoption hinterspersed =>
      simp only [parse, if_neg hend, if_neg hoption, if_neg hinterspersed, Option.map_some,
        Prod.map, id]

end OptionTable

/-! ## The switch for JSON -/

/-- An argument that is parsed as options: it starts with a hyphen, and more stands
behind it than another one. -/
def IsOption (argument : String) : Prop :=
  argument.toList.head? = some '-' ∧ argument ≠ "-" ∧ argument ≠ "--"

instance (argument : String) : Decidable (IsOption argument) :=
  inferInstanceAs (Decidable (_ ∧ _ ∧ _))

section IsOption

variable {table : OptionTable σ} {settings : σ} {argument : String}

theorem OptionTable.parse_cons_of_done {after : σ} (h : IsOption argument)
    (htaken : table.take settings argument.toList = .done after) (interspersed : Bool)
    (rest : List String) :
    table.parse interspersed settings (argument :: rest) = table.parse interspersed after rest := by
  rw [parse, if_neg h.2.2, if_pos ⟨h.1, h.2.1⟩, htaken]

theorem OptionTable.parse_cons_of_refused (h : IsOption argument)
    (htaken : table.take settings argument.toList = .refused) (interspersed : Bool)
    (rest : List String) : table.parse interspersed settings (argument :: rest) = none := by
  rw [parse, if_neg h.2.2, if_pos ⟨h.1, h.2.1⟩, htaken]

end IsOption

/-- The settings with the switch for JSON set. -/
def Switches.withJson (s : Switches) : Switches := { s with json := true }

/-- A request with the switch for JSON set.  A question stays as it is. -/
def Request.withJson : Request → Request
  | .about query => .about query
  | .run switches command => .run switches.withJson command

/-- The options before the command are switches, and none looks at the one for
JSON. -/
theorem exists_switch_of_mem_switchTable {option : List String × OptionEffect Switches}
    (h : option ∈ switchTable) :
    ∃ set, option.2 = .switch set ∧ ∀ s : Switches, set s.withJson = (set s).withJson := by
  simp only [switchTable, List.mem_cons, List.not_mem_nil, or_false] at h
  rcases h with rfl | rfl | rfl | rfl | rfl | rfl <;> exact ⟨_, rfl, fun _ => rfl⟩

theorem switchTable_ignores_withJson : switchTable.Ignores Switches.withJson := by
  intro option hoption
  obtain ⟨set, hset, hcommutes⟩ := exists_switch_of_mem_switchTable hoption
  rw [hset]
  exact hcommutes

theorem exists_switch_of_effect? {name : String} {effect : OptionEffect Switches}
    (h : switchTable.effect? name = some effect) : ∃ set, effect = .switch set := by
  obtain ⟨option, hfind, rfl⟩ := Option.map_eq_some_iff.mp h
  obtain ⟨set, hset, -⟩ := exists_switch_of_mem_switchTable (List.mem_of_find?_eq_some hfind)
  exact ⟨set, hset⟩

theorem takeShort_switchTable_ne_wants (settings : Switches) (letters : List Char)
    (set : String → Switches) : switchTable.takeShort settings letters ≠ .wants set := by
  induction letters generalizing settings with
  | nil => exact fun h => nomatch h
  | cons c rest ih =>
      rw [OptionTable.takeShort]
      cases heffect : switchTable.effect? (String.ofList ['-', c]) with
      | none => exact fun h => nomatch h
      | some effect =>
          obtain ⟨change, rfl⟩ := exists_switch_of_effect? heffect
          exact ih (change settings)

/-- No option before the command takes its value from the next argument. -/
theorem take_switchTable_ne_wants (settings : Switches) (argument : List Char)
    (set : String → Switches) : switchTable.take settings argument ≠ .wants set := by
  have hlong : ∀ (change : Switches → Switches) (given : Option String),
      OptionTable.takeLong settings (.switch change) given ≠ .wants set := by
    intro change given
    cases given <;> exact fun h => nomatch h
  unfold OptionTable.take
  dsimp only
  split
  · split
    · rename_i effect heffect
      obtain ⟨change, rfl⟩ := exists_switch_of_effect? heffect
      exact hlong change _
    · exact fun h => nomatch h
  · exact takeShort_switchTable_ne_wants settings _ set

/-- The switch for JSON among the options before the command. -/
theorem parse_switchTable_json {before : List String} (h : ∀ a ∈ before, IsOption a)
    (settings : Switches) (arguments : List String) :
    switchTable.parse false settings (before ++ "--json" :: arguments) =
      (switchTable.parse false settings (before ++ arguments)).map
        (Prod.map Switches.withJson id) := by
  induction before generalizing settings with
  | nil =>
      have hjson : switchTable.take settings "--json".toList = .done settings.withJson := rfl
      rw [List.nil_append, List.nil_append, OptionTable.parse_cons_of_done (by decide) hjson]
      exact OptionTable.parse_of_ignores switchTable_ignores_withJson false settings arguments
  | cons argument before ih =>
      have hargument : IsOption argument := h argument List.mem_cons_self
      have hbefore : ∀ a ∈ before, IsOption a := fun a ha => h a (List.mem_cons_of_mem _ ha)
      rw [List.cons_append, List.cons_append]
      cases htaken : switchTable.take settings argument.toList with
      | done after =>
          rw [OptionTable.parse_cons_of_done hargument htaken,
            OptionTable.parse_cons_of_done hargument htaken]
          exact ih hbefore after
      | wants set => exact absurd htaken (take_switchTable_ne_wants settings _ set)
      | refused =>
          rw [OptionTable.parse_cons_of_refused hargument htaken,
            OptionTable.parse_cons_of_refused hargument htaken]
          rfl

namespace Request

theorem ofCommand_withJson (switches : Switches) (name : String) (rest : List String) :
    ofCommand switches.withJson name rest = (ofCommand switches name rest).map withJson := by
  cases htable : Command.table? name with
  | none =>
      -- only questions come from options that stand behind two hyphens
      simp only [ofCommand, htable]
      cases switchTable.parse false {} (name :: rest) with
      | none => rfl
      | some again => cases hquery : again.1.query <;> simp [ofSwitches, hquery, withJson]
  | some table =>
      simp only [ofCommand, htable, bind]
      cases table.parse true {} rest with
      | none => rfl
      | some parsed =>
          simp only [Option.bind_some]
          by_cases hhelp : parsed.1.help = true
          · rw [if_pos hhelp, if_pos hhelp]
            rfl
          · rw [if_neg hhelp, if_neg hhelp, Option.map_map]
            rfl

/-- **A command line with the switch for JSON** before the command, anywhere among the
other options, asks for the same with that switch set. -/
theorem parse_json {before : List String} (h : ∀ a ∈ before, IsOption a)
    (arguments : List String) :
    parse (before ++ "--json" :: arguments) = (parse (before ++ arguments)).map withJson := by
  unfold parse
  rw [parse_switchTable_json h]
  cases switchTable.parse false {} (before ++ arguments) with
  | none => rfl
  | some parsed =>
      obtain ⟨switches, rest⟩ := parsed
      cases hquery : switches.query with
      | some query => simp [ofSwitches, hquery, withJson, Switches.withJson]
      | none =>
          cases rest with
          | nil => simp [ofSwitches, hquery, Switches.withJson]
          | cons name rest =>
              simpa [ofSwitches, hquery, Switches.withJson] using
                ofCommand_withJson switches name rest

end Request

end Stepbook.CommandLine
