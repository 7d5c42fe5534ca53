/-!
# Arguments of a command line

An argument is an option, by its name after two dashes or by its letter after one, or a plain text.
An option takes its value from the same argument or from the next one, which must not look like an
option itself. After two dashes alone every argument is plain.
-/

namespace EntityQuery.CommandLine

/-- An option that may be given. -/
structure OptionForm where
  name : String
  letter : Option Char := none
  hasValue : Bool := true
  deriving DecidableEq, Repr

/-- An argument that was given. -/
inductive Argument where
  /-- An option, with its value if it has one. -/
  | option (name : String) (value : Option String)
  | plain (text : String)
  deriving DecidableEq, Repr

/-- What one argument tells by itself. -/
inductive Reading where
  | complete (a : Argument)
  /-- An option whose value comes next. -/
  | awaiting (name : String)
  deriving DecidableEq, Repr

namespace Reading

/-- An option of a form with the value attached to it. -/
def ofForm? (form : OptionForm) (attached : Option String) : Option Reading :=
  match form.hasValue, attached with
  | true, some value => some (complete (.option form.name (some value)))
  | true, none => some (awaiting form.name)
  | false, none => some (complete (.option form.name none))
  | false, some _ => none

/-- An option given by its name. -/
def ofName? (forms : List OptionForm) (cs : List Char) : Option Reading := do
  let name := String.ofList (cs.takeWhile (· != '='))
  let form ← forms.find? (·.name == name)
  let attached := match cs.dropWhile (· != '=') with
    | '=' :: value => some (String.ofList value)
    | _ => none
  ofForm? form attached

/-- An option given by its letter. -/
def ofLetter? (forms : List OptionForm) (letter : Char) (cs : List Char) : Option Reading := do
  let form ← forms.find? (·.letter == some letter)
  let attached := match cs with
    | [] => none
    | '=' :: value => some (String.ofList value)
    | value => some (String.ofList value)
  ofForm? form attached

/-- What an argument tells; nothing if it is an option that is not known. -/
def ofText? (forms : List OptionForm) (text : String) : Option Reading :=
  match text.toList with
  | '-' :: '-' :: cs => ofName? forms cs
  | '-' :: letter :: cs => ofLetter? forms letter cs
  | _ => some (complete (.plain text))

end Reading

/-- Whether a text can be the value of an option when it is an argument of its own. -/
def isValue (text : String) : Bool :=
  match text.toList with
  | '-' :: _ :: _ => false
  | _ => true

/-- The options at the front, up to the first plain argument, and the arguments from there on. -/
def leadingOptions? (forms : List OptionForm) : List String → Option (List Argument × List String)
  | [] => some ([], [])
  | text :: rest => do
    match ← Reading.ofText? forms text with
    | .complete (.plain _) => some ([], text :: rest)
    | .complete a => do
      let (more, left) ← leadingOptions? forms rest
      some (a :: more, left)
    | .awaiting name =>
      match rest with
      | [] => none
      | value :: rest =>
        if isValue value then do
          let (more, left) ← leadingOptions? forms rest
          some (.option name (some value) :: more, left)
        else none

/-- All arguments. -/
def arguments? (forms : List OptionForm) : List String → Option (List Argument)
  | [] => some []
  | text :: rest =>
    if text = "--" then some (rest.map .plain)
    else do
      match ← Reading.ofText? forms text with
      | .complete a => return a :: (← arguments? forms rest)
      | .awaiting name =>
        match rest with
        | [] => none
        | value :: rest =>
          if isValue value then return .option name (some value) :: (← arguments? forms rest)
          else none

namespace Argument

/-- The plain arguments. -/
def plains (args : List Argument) : List String :=
  args.filterMap fun
    | plain text => some text
    | option _ _ => none

/-- The values of an option, in order. -/
def values (name : String) (args : List Argument) : List String :=
  args.filterMap fun
    | option n (some value) => if n = name then some value else none
    | _ => none

/-- How often an option is given. -/
def count (name : String) (args : List Argument) : Nat :=
  (args.filter fun
    | option n _ => n == name
    | plain _ => false).length

/-- The value of an option that may be given once. -/
def value? (name : String) (args : List Argument) : Option (Option String) :=
  match values name args with
  | [] => some none
  | [value] => some (some value)
  | _ => none

/-- Whether an option without a value is given; it may be given once. -/
def flag? (name : String) (args : List Argument) : Option Bool :=
  match count name args with
  | 0 => some false
  | 1 => some true
  | _ => none

end Argument

theorem arguments?_dashes (forms : List OptionForm) (rest : List String) :
    arguments? forms ("--" :: rest) = some (rest.map .plain) := by
  simp [arguments?]

end EntityQuery.CommandLine
