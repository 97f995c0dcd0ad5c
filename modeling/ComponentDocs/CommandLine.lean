import ComponentDocs.Options

/-!
The arguments of the command.

Arguments are read from left to right. A value that has been given to an option
is looked at when the next known option or file comes, or at the end, so that
an unknown argument behind it is reported first.
-/

namespace ComponentDocs

/-- What the command is asked to do. -/
structure Command where
  files : List String := []
  config : Option String := none
  variant : Option OutputVariant := none
  heritage : Option HeritageMode := none
  valueSets : Bool := false
  out : Option String := none
  compact : Bool := false
  verbose : Bool := false
  quiet : Bool := false
  noColor : Bool := false
deriving Repr, DecidableEq

/-- Why arguments are not understood, or what else they ask for. -/
inductive UsageError where
  | missingFiles
  | invalidValue
  | conflict
  | unknownArgument
  | unneededValue
  | helpWanted
  | versionWanted
deriving Repr, DecidableEq

namespace CommandLine

/-- An argument with a name. -/
inductive Switch where
  | config
  | variant
  | heritage
  | out
  | valueSets
  | compact
  | verbose
  | quiet
  | noColor
  | help
  | version
deriving Repr, DecidableEq

/-- Whether a switch takes a value. -/
def Switch.takesValue : Switch → Bool
  | .config | .variant | .heritage | .out => true
  | _ => false

/-- The switch of a long name. -/
def Switch.ofLong? : String → Option Switch
  | "config" => some .config
  | "variant" => some .variant
  | "heritage" => some .heritage
  | "out" => some .out
  | "value-sets" => some .valueSets
  | "compact" => some .compact
  | "verbose" => some .verbose
  | "quiet" => some .quiet
  | "no-color" => some .noColor
  | "help" => some .help
  | "version" => some .version
  | _ => none

/-- The switch of a letter. -/
def Switch.ofShort? : Char → Option Switch
  | 'o' => some .out
  | 'v' => some .verbose
  | 'q' => some .quiet
  | 'h' => some .help
  | 'V' => some .version
  | _ => none

/-- What has been read and not yet looked at. -/
inductive Pending where
  | nothing
  | files (paths : List String)
  /-- A switch that takes a value, and its value if it has come. -/
  | value (switch : Switch) (text : Option String)

/-- The state of reading arguments. -/
structure State where
  command : Command
  seen : List Switch
  pending : Pending
  /-- Only files follow. -/
  filesOnly : Bool

/-- Nothing has been read. -/
def State.start : State := ⟨{}, [], .nothing, false⟩

/-- A path, which must not be empty. -/
def path? (text : String) : Except UsageError String :=
  if text.isEmpty then .error .invalidValue else .ok text

/-- A word for a choice. -/
def word? {α : Type} (choice : Option α) : Except UsageError α :=
  match choice with
  | some value => .ok value
  | none => .error .invalidValue

/-- Sets a switch that takes a value. -/
def assign (command : Command) (switch : Switch) (text : String) :
    Except UsageError Command :=
  match switch with
  | .config => do return { command with config := some (← path? text) }
  | .out => do return { command with out := some (← path? text) }
  | .variant => do
      return { command with variant := some (← word? (OutputVariant.ofWord? text)) }
  | .heritage => do
      return { command with heritage := some (← word? (HeritageMode.ofWord? text)) }
  | _ => .error .unneededValue

/-- Sets a switch without a value. -/
def turnOn (command : Command) : Switch → Except UsageError Command
  | .valueSets => .ok { command with valueSets := true }
  | .compact => .ok { command with compact := true }
  | .verbose => .ok { command with verbose := true }
  | .quiet => .ok { command with quiet := true }
  | .noColor => .ok { command with noColor := true }
  | .help => .error .helpWanted
  | .version => .error .versionWanted
  | _ => .error .invalidValue

/-- Notes that a switch is used, which may happen once. -/
def State.use (state : State) (switch : Switch) : Except UsageError State :=
  if state.seen.contains switch then .error .conflict
  else .ok { state with seen := switch :: state.seen }

/-- Looks at what is pending. -/
def State.settle (state : State) : Except UsageError State :=
  match state.pending with
  | .nothing => .ok state
  | .files paths => do
      let paths ← paths.mapM path?
      return { state with
        command := { state.command with files := state.command.files ++ paths }
        pending := .nothing }
  | .value _ none => .error .invalidValue
  | .value switch (some text) => do
      let state ← state.use switch
      let command ← assign state.command switch text
      return { state with command := command, pending := .nothing }

/-- Reads a switch without a value. -/
def State.flag (state : State) (switch : Switch) : Except UsageError State := do
  let state ← state.settle
  let state ← state.use switch
  return { state with command := ← turnOn state.command switch }

/-- Reads a switch that takes a value, which may be attached. -/
def State.option (state : State) (switch : Switch) (attached : Option String) :
    Except UsageError State := do
  let state ← state.settle
  let state := { state with pending := .value switch attached }
  match attached with
  | some _ => state.settle
  | none => return state

/-- Reads a file or the value of an option. -/
def State.plain (state : State) (text : String) : Except UsageError State :=
  match state.pending with
  | .value switch none =>
      if state.filesOnly then .error .invalidValue
      else .ok { state with pending := .value switch (some text) }
  | .files paths => .ok { state with pending := .files (paths ++ [text]) }
  | _ => do
      let state ← state.settle
      return { state with pending := .files [text] }

/-- Reads a long argument, without its dashes. -/
def State.long (state : State) (body : List Char) : Except UsageError State :=
  let name := body.takeWhile (· != '=')
  let attached := match body.drop name.length with
    | _ :: text => some (String.ofList text)
    | [] => none
  match Switch.ofLong? (String.ofList name) with
  | none => .error .unknownArgument
  | some switch =>
      if switch.takesValue then state.option switch attached
      else if attached.isSome then .error .unneededValue
      else state.flag switch

/-- Reads letters behind one dash. -/
def State.short (state : State) : List Char → Except UsageError State
  | [] => .ok state
  | c :: rest =>
      match Switch.ofShort? c with
      | none => .error .unknownArgument
      | some switch =>
          if switch.takesValue then
            state.option switch (match rest with
              | [] => none
              | '=' :: text => some (String.ofList text)
              | text => some (String.ofList text))
          else do
            let state ← state.flag switch
            state.short rest

/-- Reads one argument. -/
def State.read (state : State) (argument : String) : Except UsageError State :=
  if state.filesOnly then state.plain argument
  else
    match argument.toList with
    | ['-', '-'] => .ok { state with filesOnly := true }
    | '-' :: '-' :: body => state.long body
    | '-' :: c :: rest => state.short (c :: rest)
    | _ => state.plain argument

/-- Checks what all arguments give together. -/
def finish (command : Command) : Except UsageError Command :=
  if command.verbose && command.quiet then .error .conflict
  else if command.files.isEmpty then .error .missingFiles
  else .ok command

/-- The command that arguments stand for. -/
def parse (arguments : List String) : Except UsageError Command := do
  let state ← arguments.foldlM State.read State.start
  let state ← state.settle
  finish state.command

end CommandLine

end ComponentDocs
