import EntityQuery.CommandLine.Argument
import EntityQuery.Numeral

/-!
# Commands

What a command line asks for. Options that exclude each other cannot be given together, so a command
to run a query wants rows, one row or a count, and never two of them.
-/

namespace EntityQuery.CommandLine

/-- The criteria of a command, still as text, with a sort order and a page. -/
structure CriteriaArguments where
  entity : String
  criteria : String := "\x7b\x7d"
  order : List String := []
  limit : Option Nat := none
  offset : Option Nat := none
  deriving DecidableEq, Repr

/-- What a command to run a query wants. -/
inductive Wanted where
  | rows | one | count
  deriving DecidableEq, Repr

/-- What the program is asked for. -/
inductive Command where
  /-- The statement of criteria. -/
  | lower (args : CriteriaArguments)
  /-- The counting statement of criteria. -/
  | count (entity criteria : String)
  /-- The condition and the statement of query text. -/
  | parse (entity text : String)
  /-- The result of criteria or of query text. -/
  | run (args : CriteriaArguments) (text : Option String) (wanted : Wanted)
  deriving DecidableEq, Repr

/-- A command with the settings file to use, if one is named. -/
structure Invocation where
  config : Option String
  command : Command
  deriving DecidableEq, Repr

/-- How the program is called. -/
def usage : List String :=
  ["Usage: [--config FILE] COMMAND",
   "Commands:",
   "  lower -e ENTITY [-c CRITERIA] [-o FIELD[:asc|desc]]... [--limit N] [--offset N]",
   "  count -e ENTITY [-c CRITERIA]",
   "  parse -e ENTITY TEXT",
   "  run -e ENTITY [-c CRITERIA | --text TEXT] [-o FIELD[:asc|desc]]... [--limit N] [--offset N]",
   "      [--one | --count]"]

/-- The option that every command has. -/
def configForm : OptionForm := { name := "config" }

/-- The entity of a command. -/
def entityForm : OptionForm := { name := "entity", letter := some 'e' }

/-- The criteria of a command. -/
def criteriaForm : OptionForm := { name := "criteria", letter := some 'c' }

/-- The options of commands with criteria. -/
def criteriaForms : List OptionForm :=
  [configForm, entityForm, criteriaForm, { name := "order", letter := some 'o' },
   { name := "limit" }, { name := "offset" }]

/-- The options of commands that run a query. -/
def runForms : List OptionForm :=
  criteriaForms ++ [{ name := "text" }, { name := "one", hasValue := false },
    { name := "count", hasValue := false }]

/-- The number that an option gives. -/
def number? (name : String) (args : List Argument) : Option (Option Nat) := do
  match ← Argument.value? name args with
  | none => some none
  | some value => (Numeral.natBelow? Numeral.wordBound value.toList).map some

/-- The settings file that an option names; its name must not be empty. -/
def config? (args : List Argument) : Option (Option String) :=
  (Argument.value? "config" args).filter (· != some "")

/-- The entity that must be given. -/
def entity? (args : List Argument) : Option String := (Argument.value? "entity" args).bind id

/-- The criteria that may be given. -/
def criteriaArguments? (args : List Argument) : Option CriteriaArguments := do
  let entity ← entity? args
  let criteria ← Argument.value? "criteria" args
  let limit ← number? "limit" args
  let offset ← number? "offset" args
  some { entity, criteria := criteria.getD "\x7b\x7d", order := Argument.values "order" args, limit,
         offset }

/-- What is wanted; not two things at once. -/
def wanted? (args : List Argument) : Option Wanted := do
  match ← Argument.flag? "one" args, ← Argument.flag? "count" args with
  | false, false => some .rows
  | true, false => some .one
  | false, true => some .count
  | true, true => none

/-- The query text that may be given in place of criteria. -/
def queryText? (args : List Argument) : Option (Option String) := do
  let text ← Argument.value? "text" args
  if text.isSome && Argument.count "criteria" args != 0 then none else some text

namespace Invocation

/-- A command of the given options, without plain arguments. -/
def withoutPlain? (forms : List OptionForm) (command? : List Argument → Option Command)
    (args : List String) : Option Invocation := do
  let args ← arguments? forms args
  let command ← command? args
  if (Argument.plains args).isEmpty then some ⟨← config? args, command⟩ else none

/-- The command of a name with its arguments. -/
def ofCommand? (name : String) (args : List String) : Option Invocation :=
  match name with
  | "lower" => withoutPlain? criteriaForms (fun args => (criteriaArguments? args).map .lower) args
  | "count" =>
    withoutPlain? [configForm, entityForm, criteriaForm]
      (fun args => (criteriaArguments? args).map fun a => .count a.entity a.criteria) args
  | "parse" => do
    let args ← arguments? [configForm, entityForm] args
    let entity ← entity? args
    match Argument.plains args with
    | [text] => some ⟨← config? args, .parse entity text⟩
    | _ => none
  | "run" =>
    withoutPlain? runForms
      (fun args => do some (.run (← criteriaArguments? args) (← queryText? args) (← wanted? args)))
      args
  | _ => none

/-- What a command line asks for. A settings file named after the command counts more than one named
before it. -/
def ofArguments? (args : List String) : Option Invocation := do
  let (options, rest) ← leadingOptions? [configForm] args
  let config ← config? options
  match rest with
  | [] => none
  | name :: args =>
    let invocation ← ofCommand? name args
    some { invocation with config := invocation.config.or config }

end Invocation

end EntityQuery.CommandLine
