import ContainerScan.Record.Store

/-! Where the store of records lies, as an address says it. -/

namespace ContainerScan

/-- The place of a store. -/
inductive Location where
  /-- A store that lasts as long as one command. -/
  | memory
  | file (path : String)
  /-- A place of a kind that cannot be used. -/
  | unusable
  deriving DecidableEq, Repr

namespace Location

/-- The beginning of the addresses that can be used. -/
def scheme : List Char := "sqlite+aiosqlite://".toList

/-- The place that an address means; options at its end do not matter. -/
def ofUrl (url : String) : Location :=
  let text := url.toList
  if !scheme.isPrefixOf text then .unusable
  else match (text.drop scheme.length).takeWhile (· ≠ '?') with
    | [] => .memory
    | '/' :: path =>
      if path = [] ∨ path = ":memory:".toList then .memory else .file (String.ofList path)
    | _ => .unusable

/-- The directory of a file; a file without one lies in the current directory. -/
def directory (path : String) : String :=
  let reversed := path.toList.reverse
  match reversed.dropWhile (· ≠ '/') with
  | [] => "."
  | [_] => "/"
  | _ :: rest => String.ofList rest.reverse

/-- The store at a place, given what has been kept in files and which directories are there. -/
def store (location : Location) (present : String → Bool) (kept : Store) : Store :=
  match location with
  | memory => { reachable := true, prepared := false, rows := [] }
  | file path => { kept with reachable := present (directory path) }
  | unusable => { kept with reachable := false }

end Location

end ContainerScan
