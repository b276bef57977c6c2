import VkTurn.Flags.ParseInt

/-! # Command lines

The parsing loop of Go's `flag` package, over an arbitrary record of options: a flag has a name,
says whether it is boolean, and stores a value into the record.  `runProgram` is the frame around
it that decides between running and an exit code.
-/

namespace VkTurn.Flags

structure Flag (Options : Type) where
  name : String
  isBool : Bool
  set : String → Options → Except String Options

section Kinds

variable {Options : Type} (name : String)

def stringVar (store : String → Options → Options) : Flag Options :=
  ⟨name, false, fun value options => .ok (store value options)⟩

def intVar (store : Int → Options → Options) : Flag Options :=
  ⟨name, false, fun value options => (parseInt value).map (store · options)⟩

def boolVar (store : Bool → Options → Options) : Flag Options :=
  ⟨name, true, fun value options => (parseBool value).map (store · options)⟩

end Kinds

/-- What one argument is to the parser. -/
inductive Argument where
  | notFlag
  | terminator
  | badSyntax
  | flag (name : String) (value : Option String)
  deriving DecidableEq

/-- A flag's text after its dashes. -/
def readName : List Char → Argument
  | [] | '-' :: _ | '=' :: _ => .badSyntax
  | first :: rest =>
    let name := String.ofList (first :: rest.takeWhile (· ≠ '='))
    match rest.dropWhile (· ≠ '=') with
    | [] => .flag name none
    | _ :: value => .flag name (some (String.ofList value))

def readArgument (argument : String) : Argument :=
  match argument.toList with
  | ['-', '-'] => .terminator
  | '-' :: '-' :: rest => readName rest
  | '-' :: first :: rest => readName (first :: rest)
  | _ => .notFlag

inductive FlagError where
  | help
  | failed (message : String)
  deriving DecidableEq

section Parse

variable {Options : Type} (flags : List (Flag Options))

def invalidValue (name value message : String) : FlagError :=
  .failed ("invalid value \"" ++ value ++ "\" for flag -" ++ name ++ ": " ++ message)

/-- `FlagSet.Parse`; arguments from the first that is no flag on are left alone. -/
def parse : List String → Options → Except FlagError Options
  | [], options => .ok options
  | argument :: rest, options =>
    match readArgument argument with
    | .notFlag | .terminator => .ok options
    | .badSyntax => .error (.failed ("bad flag syntax: " ++ argument))
    | .flag name value =>
      match flags.find? (·.name == name) with
      | none =>
        if name = "help" ∨ name = "h" then .error .help
        else .error (.failed ("flag provided but not defined: -" ++ name))
      | some flag =>
        match flag.isBool, value, rest with
        | true, value, rest =>
          match flag.set (value.getD "true") options with
          | .error message => .error (invalidValue name (value.getD "true") message)
          | .ok options => parse rest options
        | false, some value, rest =>
          match flag.set value options with
          | .error message => .error (invalidValue name value message)
          | .ok options => parse rest options
        | false, none, [] => .error (.failed ("flag needs an argument: -" ++ name))
        | false, none, value :: rest =>
          match flag.set value options with
          | .error message => .error (invalidValue name value message)
          | .ok options => parse rest options

/-- `cliutil.Parse`: the options of a program that goes on, or its exit code. -/
def runProgram (defaults : Options) (validate : Options → Except String Options)
    (arguments : List String) : Except Nat Options :=
  if arguments = [] then .error 0
  else
    match parse flags arguments defaults with
    | .error .help => .error 0
    | .error (.failed _) => .error 2
    | .ok options =>
      match validate options with
      | .error _ => .error 2
      | .ok options => .ok options

variable {flags} {argument name value : String} {rest : List String} {options next : Options}
  {flag : Flag Options}

theorem parse_value (isFlag : readArgument argument = .flag name none)
    (found : flags.find? (·.name == name) = some flag) (notBool : flag.isBool = false)
    (isSet : flag.set value options = .ok next) :
    parse flags (argument :: value :: rest) options = parse flags rest next := by
  rw [parse, isFlag]
  simp only [found, notBool, isSet]

theorem parse_switch (isFlag : readArgument argument = .flag name none)
    (found : flags.find? (·.name == name) = some flag) (isBool : flag.isBool = true)
    (isSet : flag.set "true" options = .ok next) :
    parse flags (argument :: rest) options = parse flags rest next := by
  rw [parse, isFlag]
  simp only [found, isBool, Option.getD_none, isSet]

/-- An undefined flag ends the program. -/
theorem parse_undefined (isFlag : readArgument argument = .flag name none)
    (notFound : flags.find? (·.name == name) = none) (notHelp : name ≠ "help" ∧ name ≠ "h") :
    parse flags (argument :: rest) options =
      .error (.failed ("flag provided but not defined: -" ++ name)) := by
  rw [parse, isFlag]
  simp only [notFound, notHelp, or_self, if_false]

end Parse

end VkTurn.Flags
