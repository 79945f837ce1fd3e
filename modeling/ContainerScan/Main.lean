import ContainerScan.CommandLine.Run
import ContainerScan.Record.Location

/-! The program: settings from the environment, one command, and what it printed and logged. -/

namespace ContainerScan.CommandLine

/-- The environment variables that hold settings. -/
def environmentNames : List String :=
  ((Settings.encode .standard).members?.getD []).map fun member => member.1.toUpper

/-- The world in which a command begins: the daemon answers as usual, and no files are there. -/
def beginning (settings : Settings) : World where
  settings := settings
  store := (Location.ofUrl settings.databaseUrl).store (fun _ => false) .empty

/-- The values of environment variables that are set. -/
def environment : List String → IO Settings.Source
  | [] => return []
  | name :: rest => do
    let others ← environment rest
    match ← IO.getEnv name with
    | some value => return (name, .string value) :: others
    | none => return others

/-- One command is carried out under the settings of the environment. -/
def program (arguments : List String) : IO UInt32 := do
  let source ← environment environmentNames
  let ending := ending (fun _ => false) [source] beginning arguments
  for line in ending.printed do
    IO.println line
  for remark in ending.remarks do
    IO.eprintln remark
  return UInt32.ofNat ending.code

end ContainerScan.CommandLine

/-- The program. -/
def main (arguments : List String) : IO UInt32 :=
  ContainerScan.CommandLine.program arguments
