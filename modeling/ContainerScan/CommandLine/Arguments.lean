import ContainerScan.CommandLine.Request
import ContainerScan.Text.Similarity

/-! Arguments sorted into flags, options with their values, and all others. -/

namespace ContainerScan.CommandLine

/-- What a command accepts. -/
structure Form where
  /-- Options that stand alone. -/
  flags : List String := ["--help"]
  /-- Options that are followed by a value. -/
  options : List String := []
  /-- Whether options may also follow other arguments. -/
  mixed : Bool := true

/-- The arguments of a command, sorted; flags and options in the order in which they were given. -/
structure Given where
  flags : List String := []
  values : List (String × String) := []
  others : List String := []
  deriving DecidableEq, Repr

namespace Given

/-- The value of an option, of which the last one counts. -/
def value? (given : Given) (option : String) : Option String :=
  (given.values.reverse.find? fun entry => entry.1 = option).map Prod.snd

/-- The value of an option that must be given. -/
def required (given : Given) (option : String) : Except Misuse String :=
  match given.value? option with
  | some value => .ok value
  | none => .error (.missingOption option)

end Given

/-- What a single argument is. -/
inductive Argument where
  /-- The mark after which there are no more options. -/
  | terminator
  | flag (name : String)
  /-- An option whose value is the next argument. -/
  | option (name : String)
  | optionWith (name value : String)
  | other
  deriving DecidableEq, Repr

/-- An argument that looks like an option, with its name and what follows a sign of equality. -/
def Form.classifyOption (form : Form) (argument : List Char) (name : String)
    (value : Option String) : Except Misuse Argument :=
  if form.options.contains name then
    .ok (match value with
      | some value => .optionWith name value
      | none => .option name)
  else if form.flags.contains name then
    match value with
    | some _ => .error (.unwantedValue name)
    | none => .ok (.flag name)
  else
    -- After a single dash each letter is an option of its own, and the first one is unknown.
    match argument with
    | '-' :: '-' :: _ =>
      .error (.unknownOption name (Text.closeWords (form.options ++ form.flags) name))
    | _ => .error (.unknownOption (String.ofList (argument.take 2)) [])

/-- What an argument is for a command. -/
def Form.classify (form : Form) (argument : String) : Except Misuse Argument :=
  match argument.toList with
  | ['-', '-'] => .ok .terminator
  | '-' :: c :: rest =>
    let text := '-' :: c :: rest
    let name := String.ofList (text.takeWhile (· ≠ '='))
    match text.dropWhile (· ≠ '=') with
    | _ :: value => form.classifyOption text name (some (String.ofList value))
    | [] => form.classifyOption text name none
  | _ => .ok .other

/-- Arguments sorted, given those before them and an option that still waits for its value. -/
def Form.sortFrom (form : Form) : Option String → Given → List String → Except Misuse Given
  | some option, _, [] => .error (.missingValue option)
  | some option, given, value :: rest =>
    form.sortFrom none { given with values := given.values ++ [(option, value)] } rest
  | none, given, [] => .ok given
  | none, given, argument :: rest =>
    match form.classify argument with
    | .error misuse => .error misuse
    -- Behind a terminator nothing is an option any more.
    | .ok .terminator => .ok { given with others := given.others ++ rest }
    | .ok (.flag name) => form.sortFrom none { given with flags := given.flags ++ [name] } rest
    | .ok (.option name) => form.sortFrom (some name) given rest
    | .ok (.optionWith name value) =>
      form.sortFrom none { given with values := given.values ++ [(name, value)] } rest
    | .ok .other =>
      -- A group leaves all that follows its command to that command.
      if form.mixed then
        form.sortFrom none { given with others := given.others ++ [argument] } rest
      else .ok { given with others := given.others ++ argument :: rest }

/-- The arguments of a command, sorted. -/
def Form.sort (form : Form) (arguments : List String) : Except Misuse Given :=
  form.sortFrom none {} arguments

end ContainerScan.CommandLine
