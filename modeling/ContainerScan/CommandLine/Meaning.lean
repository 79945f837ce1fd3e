import ContainerScan.Analyzer.RetireJs
import ContainerScan.CommandLine.Arguments

/-! The commands and groups of commands, and what a command line means. -/

namespace ContainerScan.CommandLine

namespace Meaning

/-- What a flag asks for, whatever else is given. -/
def ofFlag (flag : String) : Meaning :=
  if flag = "--version" then .version else .help

/-- The meaning of a command's arguments; a flag among them comes before everything else. -/
def ofCommand (form : Form) (finish : Given → Except Misuse Request)
    (arguments : List String) : Meaning :=
  match form.sort arguments with
  | .error wrong => .misuse wrong
  | .ok given =>
    match given.flags, finish given with
    | flag :: _, _ => ofFlag flag
    | [], .ok wanted => .request wanted
    | [], .error wrong => .misuse wrong

/-- A command and what its arguments mean. -/
abbrev Entry := String × (List String → Meaning)

/-- The meaning of a name that no command of a group has. -/
def ofUnknown (form : Form) (commands : List Entry) (name : String) (rest : List String) :
    Meaning :=
  -- What looks like an option is taken for one even where it stands for a command.
  match form.sort (name :: rest) with
  | .error wrong => .misuse wrong
  | .ok given =>
    match given.flags with
    | flag :: _ => ofFlag flag
    | [] => .misuse (.unknownCommand name (Text.closeWords (commands.map Prod.fst) name))

/-- The meaning of the arguments of a group, the first of which names a command. -/
def ofGroup (form : Form) (commands : List Entry) (arguments : List String) : Meaning :=
  if arguments.isEmpty then .misuse .nothingGiven
  else match form.sort arguments with
    | .error wrong => .misuse wrong
    | .ok given =>
      match given.flags, given.others with
      -- A flag of the group comes before its command.
      | flag :: _, _ => ofFlag flag
      | [], [] => .misuse .missingCommand
      | [], name :: rest =>
        match commands.find? fun command => command.1 = name with
        | some (_, meaning) => meaning rest
        | none => ofUnknown form commands name rest

/-- What a group of commands accepts before the name of a command. -/
def groupForm : Form := { mixed := false }

/-- A command without arguments. -/
def alone (wanted : Request) : List String → Meaning :=
  ofCommand {} fun given =>
    if given.others.isEmpty then .ok wanted else .error (.extraArguments given.others)

/-- A command with one argument. -/
def withArgument (name : String) (wanted : String → Request) : List String → Meaning :=
  ofCommand {} fun given =>
    match given.others with
    | [] => .error (.missingArgument name)
    | [argument] => .ok (wanted argument)
    | _ :: extra => .error (.extraArguments extra)

/-- What the command for a scan accepts. -/
def scanForm : Form where
  options := ["--image", "--tag", "--canonical-url", "--cmd", "--repo", "--branch", "--analyzer"]

/-- That the analyzer, if one is named, is known. -/
def checkAnalyzer (given : Given) : Except Misuse Unit :=
  let known := RetireJs.analyzer.name
  match given.value? "--analyzer" with
  | none => .ok ()
  | some name => if name = known then .ok () else .error (.unknownAnalyzer name known)

/-- The scan that arguments ask for. -/
def scanRequest (given : Given) : Except Misuse Request := do
  -- A wrong value is found before a missing option, and that before an extra argument.
  checkAnalyzer given
  let name ← given.required "--image"
  let template ← given.required "--cmd"
  let repositoryUrl ← given.required "--repo"
  let branch ← given.required "--branch"
  if !given.others.isEmpty then throw (.extraArguments given.others)
  let image : Image := {
    name := name
    tag := (given.value? "--tag").getD "latest"
    canonicalUrl := (given.value? "--canonical-url").getD "" }
  return .run ⟨image, template, ⟨repositoryUrl, branch⟩⟩

/-- The commands about images. -/
def imageCommands : List Entry :=
  [("list", alone .listImages), ("rm", withArgument "IMAGE_ID" .removeImage)]

/-- The commands about containers. -/
def containerCommands : List Entry :=
  [("stop", withArgument "CID" .stopContainer), ("rm", withArgument "CID" .removeContainer),
    ("show", withArgument "CID" .showRecord)]

/-- The commands about the database. -/
def databaseCommands : List Entry :=
  [("init", alone .prepareStore)]

/-- All commands and groups of commands. -/
def commands : List Entry :=
  [("run", ofCommand scanForm scanRequest), ("images", ofGroup groupForm imageCommands),
    ("container", ofGroup groupForm containerCommands),
    ("db", ofGroup groupForm databaseCommands), ("health", alone .health)]

/-- What a command line means. -/
def ofArguments (arguments : List String) : Meaning :=
  ofGroup { flags := ["--version", "--help"], mixed := false } commands arguments

end Meaning

end ContainerScan.CommandLine
