import ContainerScan.Scan
import ContainerScan.Text.Quoted

/-! What can be asked for on a command line, and what can be wrong with one. -/

namespace ContainerScan.CommandLine

/-- A scan that is asked for. -/
structure ScanRequest where
  image : Image
  template : String
  target : Target
  deriving DecidableEq, Repr

/-- What is asked for. -/
inductive Request where
  | run (scan : ScanRequest)
  | health
  | listImages
  | removeImage (id : String)
  | stopContainer (cid : String)
  | removeContainer (cid : String)
  | showRecord (cid : String)
  | prepareStore
  deriving DecidableEq, Repr

/-- Why a command line cannot be understood. -/
inductive Misuse where
  /-- Nothing at all was given to a group of commands. -/
  | nothingGiven
  | missingCommand
  | unknownCommand (name : String) (close : List String)
  | unknownOption (name : String) (close : List String)
  | missingValue (option : String)
  | unwantedValue (option : String)
  | unknownAnalyzer (name known : String)
  | missingOption (name : String)
  | missingArgument (name : String)
  | extraArguments (arguments : List String)
  deriving DecidableEq, Repr

namespace Misuse

/-- The question that names words which may have been meant. -/
def question : List String → String
  | [] => ""
  | [word] => " Did you mean " ++ Text.quoted word ++ "?"
  | several => " (Did you mean one of: " ++ ", ".intercalate (several.map Text.quoted) ++ "?)"

/-- What is said about a misuse; where nothing was given there is nothing to say. -/
def message : Misuse → Option String
  | nothingGiven => none
  | missingCommand => some "Missing command."
  | unknownCommand name close =>
    some ("No such command " ++ Text.quoted name ++ "." ++ question close)
  | unknownOption name close =>
    some ("No such option " ++ Text.quoted name ++ "." ++ question close)
  | missingValue option => some ("Option " ++ Text.quoted option ++ " requires an argument.")
  | unwantedValue option => some ("Option " ++ Text.quoted option ++ " does not take a value.")
  | unknownAnalyzer name known =>
    some ("Invalid value for '--analyzer': " ++ Text.quoted name ++ " is not " ++
      Text.quoted known ++ ".")
  | missingOption name => some ("Missing option " ++ Text.quoted name ++ ".")
  | missingArgument name => some ("Missing argument " ++ Text.quoted name ++ ".")
  | extraArguments arguments =>
    some ("Got unexpected extra argument" ++ (if arguments.length = 1 then "" else "s") ++ " (" ++
      " ".intercalate arguments ++ ")")

end Misuse

/-- What a command line means. -/
inductive Meaning where
  | request (request : Request)
  | help
  | version
  | misuse (misuse : Misuse)
  deriving DecidableEq, Repr

end ContainerScan.CommandLine
