import KsqlBatch.Batch.Input

/-
  This file reads the arguments of the program. Arguments are
  looked at in order. The first fault counts, unless the
  version or the help is asked for before it. What is missing
  or does not go together is found at the end.

  Key definitions include:
    * `ValueOption`
    * `Given`
    * `UsageFault`
    * `Command`
    * `Arguments.readAll`
    * `Invocation`
    * `Given.check`
    * `Command.parse`
-/

------------------------------------------------------------
-- Options
------------------------------------------------------------

namespace KsqlBatch

/- The options that take a value. -/
inductive ValueOption where
| config
| endpoint
| directory
| filename
| listStreams
deriving DecidableEq, Repr, Inhabited

/- What a name of an option stands for. -/
inductive OptionKind where
| value (option : ValueOption)
| dryRun
| version
| help
deriving DecidableEq, Repr, Inhabited

/- The option with a long name. -/
def OptionKind.ofLong?
    (name : String) : Option OptionKind :=
  if name = "config" then some (.value .config)
  else if name = "endpoint" then some (.value .endpoint)
  else if name = "directory" then some (.value .directory)
  else if name = "filename" then some (.value .filename)
  else if name = "list-streams" then
    some (.value .listStreams)
  else if name = "dry-run" then some .dryRun
  else if name = "version" then some .version
  else if name = "help" then some .help
  else none

/- The option with a short name. -/
def OptionKind.ofShort?
    (name : Char) : Option OptionKind :=
  if name = 'c' then some (.value .config)
  else if name = 'd' then some (.value .directory)
  else if name = 'f' then some (.value .filename)
  else if name = 'V' then some .version
  else if name = 'h' then some .help
  else none

/- The long name of an option that takes a value. -/
def ValueOption.name : ValueOption → String
| .config => "--config"
| .endpoint => "--endpoint"
| .directory => "--directory"
| .filename => "--filename"
| .listStreams => "--list-streams"

/- The value of the option must not be empty. -/
def ValueOption.needsText : ValueOption → Bool
| .config => true
| .directory => true
| .filename => true
| .endpoint => false
| .listStreams => false

/- The listing policy with a name. -/
def ListingPolicy.ofName?
    (name : String) : Option ListingPolicy :=
  if name = "never" then some .never
  else if name = "before" then some .before
  else if name = "after" then some .after
  else if name = "both" then some .both
  else none

end KsqlBatch

------------------------------------------------------------
-- Faults
------------------------------------------------------------

namespace KsqlBatch

/- Why arguments are not accepted. -/
inductive UsageFault where
| unknown (argument : String)
| repeated (name : String)
| missingValue (name : String)
| unexpectedValue (name : String)
| badValue (name value : String)
| missing (name : String)
| conflict (first second : String)
deriving DecidableEq, Repr, Inhabited

/- The wording of a fault. -/
def UsageFault.message : UsageFault → String
| .unknown argument =>
    "unexpected argument '" ++ argument ++ "' found"
| .repeated name =>
    "the argument '" ++ name ++
      "' cannot be used multiple times"
| .missingValue name =>
    "a value is required for '" ++ name ++
      "' but none was supplied"
| .unexpectedValue name =>
    "unexpected value for '" ++ name ++ "' found"
| .badValue name value =>
    "invalid value '" ++ value ++ "' for '" ++ name ++ "'"
| .missing name =>
    "the required argument " ++ name ++ " was not provided"
| .conflict first second =>
    "the argument '" ++ first ++
      "' cannot be used with '" ++ second ++ "'"

end KsqlBatch

------------------------------------------------------------
-- Reading Arguments
------------------------------------------------------------

namespace KsqlBatch

/- The options that have been given. -/
structure Given where
  config : Option String
  endpoint : Option String
  directory : Option String
  filename : Option String
  policy : Option ListingPolicy
  dryRun : Bool
deriving DecidableEq, Repr, Inhabited

namespace Given

/- No option. -/
def none : Given where
  config := Option.none
  endpoint := Option.none
  directory := Option.none
  filename := Option.none
  policy := Option.none
  dryRun := false

/- An option has been given. -/
def has
    (given : Given) : ValueOption → Bool
| .config => given.config.isSome
| .endpoint => given.endpoint.isSome
| .directory => given.directory.isSome
| .filename => given.filename.isSome
| .listStreams => given.policy.isSome

/- Give an option a value. -/
def put
    (given : Given)
    (option : ValueOption)
    (value : String) : Except UsageFault Given :=
  if given.has option then .error (.repeated option.name)
  else if option.needsText ∧ value = "" then
    .error (.badValue option.name value)
  else
    match option with
    | .config => .ok { given with config := some value }
    | .endpoint => .ok { given with endpoint := some value }
    | .directory => .ok { given with directory := some value }
    | .filename => .ok { given with filename := some value }
    | .listStreams =>
        match ListingPolicy.ofName? value with
        | some policy =>
            .ok { given with policy := some policy }
        | Option.none =>
            .error (.badValue option.name value)

end Given

/- What arguments ask for, before it is checked. -/
inductive Reading where
| options (given : Given)
| version
| help
deriving DecidableEq, Repr, Inhabited

/- One argument, taken apart. -/
inductive Argument where
| long (name : String) (value : Option String)
| short (name : Char) (value : Option String)
| separator
| plain
deriving DecidableEq, Repr, Inhabited

namespace Argument

/-
  Take an argument apart. A long option has its value after
  an equals sign, a short one right behind its letter or
  after an equals sign.
-/
def ofText
    (text : String) : Argument :=
  match text.toList with
  | ['-'] => .plain
  | ['-', '-'] => .separator
  | '-' :: '-' :: rest =>
      let name := rest.takeWhile (· != '=')
      match rest.drop name.length with
      | [] => .long (String.ofList name) none
      | _ :: value =>
          .long (String.ofList name)
            (some (String.ofList value))
  | '-' :: name :: rest =>
      match rest with
      | [] => .short name none
      | '=' :: value =>
          .short name (some (String.ofList value))
      | value => .short name (some (String.ofList value))
  | _ => .plain

/- The option that an argument names, and its value. -/
def option? : Argument → Option (OptionKind × Option String)
| .long name value =>
    (OptionKind.ofLong? name).map fun kind => (kind, value)
| .short name value =>
    (OptionKind.ofShort? name).map fun kind => (kind, value)
| .separator => none
| .plain => none

/- The argument is an option of one letter. -/
def isShort : Argument → Bool
| .short _ _ => true
| _ => false

end Argument

end KsqlBatch

------------------------------------------------------------
-- Commands
------------------------------------------------------------

namespace KsqlBatch

namespace Reading

/- Read arguments in order. -/
def readAll
    (given : Given) :
    List String → Except UsageFault Reading
| [] => .ok (.options given)
| text :: rest =>
    let argument := Argument.ofText text
    if argument = .separator then
      match rest with
      | [] => .ok (.options given)
      | other :: _ => .error (.unknown other)
    else
      match argument.option? with
      | none => .error (.unknown text)
      | some (.version, value) =>
          if value.isSome && ! argument.isShort then
            .error (.unexpectedValue text)
          else .ok .version
      | some (.help, value) =>
          if value.isSome && ! argument.isShort then
            .error (.unexpectedValue text)
          else .ok .help
      | some (.dryRun, some _) =>
          .error (.unexpectedValue text)
      | some (.dryRun, none) =>
          if given.dryRun then .error (.repeated text)
          else readAll { given with dryRun := true } rest
      | some (.value option, some value) =>
          match given.put option value with
          | .error fault => .error fault
          | .ok given => readAll given rest
      | some (.value option, none) =>
          match rest with
          | [] => .error (.missingValue option.name)
          | value :: rest =>
              if value.toList.head? = some '-' ∧
                  value ≠ "-" then
                .error (.missingValue option.name)
              else
                match given.put option value with
                | .error fault => .error fault
                | .ok given => readAll given rest

end Reading

end KsqlBatch

------------------------------------------------------------
-- Invocations
------------------------------------------------------------

namespace KsqlBatch

/- A run that has been asked for. -/
structure Invocation where
  config : Option String
  endpoint : Option String
  input : BatchInput
  policy : ListingPolicy
  dryRun : Bool
deriving DecidableEq, Repr, Inhabited

/- What the program is asked to do. -/
inductive Command where
| run (invocation : Invocation)
| version
| help
deriving DecidableEq, Repr, Inhabited

/- The input that is given, which has to be exactly one. -/
def Given.input
    (given : Given) : Except UsageFault BatchInput :=
  match given.directory, given.filename with
  | some _, some _ =>
      .error (.conflict "--directory" "--filename")
  | some path, Option.none => .ok (.directory path)
  | Option.none, some path => .ok (.file path)
  | Option.none, Option.none =>
      .error (.missing "<--directory|--filename>")

/- Check that options are complete and go together. -/
def Given.check
    (given : Given) : Except UsageFault Invocation :=
  match given.input with
  | .error fault => .error fault
  | .ok input =>
      if given.config.isNone ∧ ¬ given.dryRun then
        .error (.missing "--config")
      else if given.config.isNone ∧
          given.endpoint.isSome then
        .error (.missing "--config")
      else
        .ok
          { config := given.config
            endpoint := given.endpoint
            input
            policy := given.policy.getD .before
            dryRun := given.dryRun }

/- What arguments ask for. -/
def Command.parse
    (arguments : List String) : Except UsageFault Command :=
  match Reading.readAll Given.none arguments with
  | .error fault => .error fault
  | .ok .version => .ok .version
  | .ok .help => .ok .help
  | .ok (.options given) =>
      match given.check with
      | .error fault => .error fault
      | .ok invocation => .ok (.run invocation)

end KsqlBatch
