import Draft6.Command

/-!
# Arguments of the command line

A command is followed by its options and files in any order. An option with a value takes the next
argument, or what follows an equals sign. Short options may stand together after one hyphen. After
two hyphens alone everything is a file.
-/

namespace Draft6

namespace Command

/-- Why arguments make no command. -/
inductive UsageError where
  | noCommand
  | unknownCommand (name : String)
  | unknownOption (option : String)
  | valueMissing (option : String)
  | valueUnexpected (option : String)
  | repeated (option : String)
  | schemaMissing
  | filesMissing
  | tooManyFiles (file : String)
deriving DecidableEq, Repr

/-- The words for arguments that make no command. -/
def UsageError.message : UsageError → String
  | .noCommand => "a command is needed: validate, check or inspect"
  | .unknownCommand name => "unrecognized subcommand '" ++ name ++ "'"
  | .unknownOption option => "unexpected argument '" ++ option ++ "' found"
  | .valueMissing option => "a value is required for '" ++ option ++ "' but none was supplied"
  | .valueUnexpected option => "unexpected value for '" ++ option ++ "' found"
  | .repeated option => "the argument '" ++ option ++ "' cannot be used multiple times"
  | .schemaMissing => "a schema is needed"
  | .filesMissing => "a file is needed"
  | .tooManyFiles file => "unexpected argument '" ++ file ++ "' found"

/-- The options of the commands. -/
inductive Flag where
  | schema
  | preload
  | json
deriving DecidableEq, Repr

namespace Flag

/-- Whether an option has a value. -/
def takesValue : Flag → Bool
  | .json => false
  | _ => true

/-- The long form of an option. -/
def name : Flag → String
  | .schema => "schema"
  | .preload => "preload"
  | .json => "json"

/-- The option with a letter. -/
def ofLetter? : Char → Option Flag
  | 's' => some .schema
  | 'j' => some .json
  | _ => none

/-- The option with a long name. -/
def ofName? (name : String) : Option Flag :=
  [schema, preload, json].find? fun flag => flag.name = name

end Flag

/-- An argument that is understood: an option with its value, or a file. -/
inductive Argument where
  | option (flag : Flag) (value : Option String)
  | file (name : String)
deriving DecidableEq, Repr

/-- The letters of short options. The first one with a value takes the rest, if there is any. -/
def readLetters : List Char → Except UsageError (List Argument × Option Flag)
  | [] => .ok ([], none)
  | letter :: rest =>
    match Flag.ofLetter? letter, rest with
    | none, _ => .error (.unknownOption ("-" ++ String.singleton letter))
    | some flag, [] =>
      if flag.takesValue then .ok ([], some flag) else .ok ([.option flag none], none)
    | some flag, next :: more =>
      if flag.takesValue then
        .ok ([.option flag (String.ofList (if next = '=' then more else next :: more))], none)
      else do
        let (others, open?) ← readLetters rest
        pure (.option flag none :: others, open?)

/-- One argument, and the option that still needs a value after it. -/
def readArgument (argument : String) : Except UsageError (List Argument × Option Flag) :=
  match argument.toList with
  | '-' :: '-' :: long =>
    let (name, value?) := Text.cut '=' long
    match Flag.ofName? (String.ofList name), value? with
    | none, _ => .error (.unknownOption argument)
    | some flag, some value =>
      if flag.takesValue then .ok ([.option flag (String.ofList value)], none)
      else .error (.valueUnexpected argument)
    | some flag, none =>
      if flag.takesValue then .ok ([], some flag) else .ok ([.option flag none], none)
  | '-' :: letter :: rest => readLetters (letter :: rest)
  | _ => .ok ([.file argument], none)

/-- Whether an argument may be the value of an option before it. -/
def isValue (argument : String) : Bool :=
  match argument.toList with
  | '-' :: _ :: _ => false
  | _ => true

/-- Read arguments one after the other, given the option that needs a value. -/
def readArguments : (open? : Option Flag) → List String → Except UsageError (List Argument)
  | some flag, [] => .error (.valueMissing ("--" ++ flag.name))
  | none, [] => .ok []
  | some flag, argument :: rest =>
    if isValue argument then do
      pure (.option flag argument :: (← readArguments none rest))
    else .error (.valueMissing ("--" ++ flag.name))
  | none, argument :: rest =>
    if argument = "--" then .ok (rest.map .file)
    else do
      let (first, open?) ← readArgument argument
      pure (first ++ (← readArguments open? rest))

/-- The files among arguments. -/
def files (arguments : List Argument) : List String :=
  arguments.filterMap fun argument => match argument with
    | .file name => some name
    | .option _ _ => none

/-- The values of an option among arguments. -/
def values (flag : Flag) (arguments : List Argument) : List String :=
  arguments.filterMap fun argument => match argument with
    | .option other value => if other = flag then some (value.getD "") else none
    | .file _ => none

/-- Refuse options that a command does not have, and those that stand there twice. -/
def checkFlags (allowed : List Flag) (arguments : List Argument) : Except UsageError Unit :=
  [Flag.schema, .preload, .json].forM fun flag =>
    let count := (values flag arguments).length
    if count = 0 then .ok ()
    else if !allowed.contains flag then .error (.unknownOption ("--" ++ flag.name))
    else if 1 < count ∧ flag ≠ .preload then .error (.repeated ("--" ++ flag.name))
    else .ok ()

/-- The one schema file of a command. -/
def oneSchema (arguments : List Argument) : Except UsageError String :=
  match files arguments with
  | [] => .error .schemaMissing
  | [schema] => .ok schema
  | _ :: file :: _ => .error (.tooManyFiles file)

/-- The command that arguments make. -/
def ofArguments : List String → Except UsageError Command
  | [] => .error .noCommand
  | "validate" :: rest => do
    let arguments ← readArguments none rest
    checkFlags [.schema, .preload, .json] arguments
    match values .schema arguments, files arguments with
    | [], _ => .error .schemaMissing
    | _, [] => .error .filesMissing
    | schema :: _, names =>
      pure (.validate schema names (values .preload arguments)
        (values .json arguments ≠ []))
  | "check" :: rest => do
    let arguments ← readArguments none rest
    checkFlags [] arguments
    pure (.check (← oneSchema arguments))
  | "inspect" :: rest => do
    let arguments ← readArguments none rest
    checkFlags [.json] arguments
    pure (.inspect (← oneSchema arguments) (values .json arguments ≠ []))
  | name :: _ => .error (.unknownCommand name)

/-- Carry out the command that arguments make. -/
def runArguments (disk : Disk) (arguments : List String) : Outcome :=
  match ofArguments arguments with
  | .ok command => command.run disk
  | .error error => ⟨2, "", "error: " ++ error.message ++ "\n"⟩

/-- The paths that a command looks at. -/
def paths : Command → List String
  | .validate schema files preloads _ =>
    schema :: files ++ preloads.filterMap fun argument =>
      (Text.cut '=' argument.toList).2.map String.ofList
  | .check schema => [schema]
  | .inspect schema _ => [schema]

end Command

end Draft6
