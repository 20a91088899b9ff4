import Stepbook.Text.Pieces

/-!
# Options on a command line

Arguments that start with a hyphen are options.  A long option takes its value
behind an equals sign or from the next argument; short options may share one
hyphen, and what follows a short option with a value is that value.  Two hyphens
alone end the options.

## Main definitions

* `OptionTable σ` — the options and what each does to the settings `σ`.
* `OptionTable.parse` — the settings and the other arguments.
-/

namespace Stepbook.CommandLine

/-- What an option does to the settings. -/
inductive OptionEffect (σ : Type) where
  /-- An option without a value. -/
  | switch (set : σ → σ)
  /-- An option with a value. -/
  | value (set : String → σ → σ)

/-- The options of a command: names, hyphens included, and effects. -/
abbrev OptionTable (σ : Type) := List (List String × OptionEffect σ)

namespace OptionTable

variable {σ : Type}

/-- The effect of an option. -/
def effect? (table : OptionTable σ) (name : String) : Option (OptionEffect σ) :=
  (List.find? (fun o => o.1.contains name) table).map (·.2)

/-- What an argument with options comes to. -/
inductive Taken (σ : Type) where
  /-- The argument is used up. -/
  | done (settings : σ)
  /-- The value of its last option is the next argument. -/
  | wants (set : String → σ)
  /-- The argument is no option, or not used as one. -/
  | refused

/-- Short options that share a hyphen. -/
def takeShort (table : OptionTable σ) (settings : σ) : List Char → Taken σ
  | [] => .done settings
  | c :: rest =>
    match table.effect? (String.ofList ['-', c]) with
    | none => .refused
    | some (.switch set) => takeShort table (set settings) rest
    | some (.value set) =>
      if rest.isEmpty then .wants fun v => set v settings
      else .done (set (String.ofList rest) settings)

/-- A long option, with its value if there is an equals sign. -/
def takeLong (settings : σ) (effect : OptionEffect σ) (given : Option String) : Taken σ :=
  match effect, given with
  | .switch set, none => .done (set settings)
  | .switch _, some _ => .refused
  | .value set, some v => .done (set v settings)
  | .value set, none => .wants fun v => set v settings

/-- An argument that starts with a hyphen. -/
def take (table : OptionTable σ) (settings : σ) (argument : List Char) : Taken σ :=
  let name := String.ofList (argument.takeWhile (· != '='))
  let given := ((argument.dropWhile (· != '=')).tail?).map String.ofList
  match argument with
  | '-' :: '-' :: _ =>
    match table.effect? name with
    | some effect => takeLong settings effect given
    | none => .refused
  | _ => takeShort table settings argument.tail

/-- The settings after all options, and the other arguments.  With
`interspersed`, options may stand between the other arguments; otherwise the
first of these ends the options. -/
def parse (table : OptionTable σ) (interspersed : Bool) (settings : σ) :
    List String → Option (σ × List String)
  | [] => some (settings, [])
  | argument :: rest =>
    if argument = "--" then some (settings, rest)
    else if argument.toList.head? = some '-' ∧ argument ≠ "-" then
      match table.take settings argument.toList with
      | .done settings => parse table interspersed settings rest
      | .wants set =>
        match rest with
        | v :: rest => parse table interspersed (set v) rest
        | [] => none
      | .refused => none
    else if interspersed then
      (parse table interspersed settings rest).map fun r => (r.1, argument :: r.2)
    else some (settings, argument :: rest)

end OptionTable

end Stepbook.CommandLine
