import ContainerScan.Settings.Coercion
import ContainerScan.Text.Parts

/-! Settings from a file of lines such as `NAME=value`, with comments, quotes and references. -/

namespace ContainerScan.Settings.Dotenv

open Text

/-- A name and what is given for it; a name without a sign of equality is given nothing. -/
abbrev Binding := String × Option String

/-- Whether a character is a blank inside a line. -/
def isGap (c : Char) : Bool :=
  isBlank c && c != '\n'

/-- A text after the line that it begins with. -/
def afterLine (text : List Char) : List Char :=
  (text.dropWhile (· ≠ '\n')).tail

/-- A line without the word in front that hands its name on to other programs. -/
def withoutExport (text : List Char) : List Char :=
  match "export".toList.isPrefixOf text, text.drop "export".length with
  | true, c :: rest => if isGap c then rest.dropWhile isGap else text
  | _, _ => text

/-- The text before the mark that closes a quoted part, and what follows the mark. -/
def spanQuoted (mark : Char) : List Char → Option (List Char × List Char)
  -- A character after a backslash never closes the part.
  | [] => none
  | [c] => if c = mark then some ([], []) else none
  | c :: d :: rest =>
    if c = mark then some ([], d :: rest)
    else if c = '\\' then (spanQuoted mark rest).map fun found => (c :: d :: found.1, found.2)
    else (spanQuoted mark (d :: rest)).map fun found => (c :: found.1, found.2)

/-- What a letter after a backslash stands for between double marks. -/
def escapeOf? (c : Char) : Option Char :=
  if c = '\\' ∨ c = '\x27' ∨ c = '\x22' then some c
  else if c = 'a' then some '\x07'
  else if c = 'b' then some '\x08'
  else if c = 'f' then some '\x0c'
  else if c = 'n' then some '\n'
  else if c = 'r' then some '\r'
  else if c = 't' then some '\t'
  else if c = 'v' then some '\x0b'
  else none

/-- A quoted text with its escapes read; between single marks only those marks and backslashes are. -/
def readEscapes (all : Bool) : List Char → List Char
  | '\\' :: c :: rest =>
    let known := if all then escapeOf? c else if c = '\\' ∨ c = '\x27' then some c else none
    match known with
    | some value => value :: readEscapes all rest
    | none => '\\' :: readEscapes all (c :: rest)
  | c :: rest => c :: readEscapes all rest
  | [] => []

/-- An unquoted value without the comment after it. -/
def withoutComment : List Char → List Char
  | [] => []
  | c :: rest =>
    if isBlank c && (rest.dropWhile isBlank).head? = some '#' then [] else c :: withoutComment rest

/-- A value behind the sign of equality, and what follows it; a quoted one may lack its end. -/
def spanValue (text : List Char) : Option (String × List Char) :=
  match text.dropWhile isGap with
  | '\x27' :: rest => (spanQuoted '\x27' rest).map fun found =>
    (String.ofList (readEscapes false found.1), found.2)
  | '\x22' :: rest => (spanQuoted '\x22' rest).map fun found =>
    (String.ofList (readEscapes true found.1), found.2)
  | _ =>
    let line := text.takeWhile (· ≠ '\n')
    some (String.ofList (trim (withoutComment line)), text.drop line.length)

/-- A name, and what follows it; a comment has none. -/
def spanName : List Char → Option (Option String × List Char)
  | '#' :: rest => some (none, '#' :: rest)
  | '\x27' :: rest =>
    let name := rest.takeWhile (· ≠ '\x27')
    match rest.drop name.length with
    | _ :: after => if name.isEmpty then none else some (some (String.ofList name), after)
    | [] => none
  | text =>
    let name := text.takeWhile fun c => !(c == '=' || c == '#' || isBlank c)
    if name.isEmpty then none else some (some (String.ofList name), text.drop name.length)

/-- What follows the end of a line, before which only blanks and a comment may stand. -/
def lineEnd? (text : List Char) : Option (List Char) :=
  let afterGap := text.dropWhile isGap
  match if afterGap.head? = some '#' then afterGap.dropWhile (· ≠ '\n') else afterGap with
  | [] => some []
  | c :: after => if c = '\n' then some after else none

/-- The binding at the front of a text, if there is one, and what follows its line. -/
def spanBinding (text : List Char) : Option Binding × List Char :=
  -- A line that cannot be read is passed over from the place where reading stopped.
  match spanName (withoutExport text) with
  | none => (none, afterLine (withoutExport text))
  | some (name, afterName) =>
    let afterGap := afterName.dropWhile isGap
    let value? : Option (Option String × List Char) :=
      match afterGap with
      | '=' :: rest => (spanValue rest).map fun found => (some found.1, found.2)
      | rest => some (none, rest)
    match value? with
    | none => (none, afterLine afterGap)
    | some (value, afterValue) =>
      match lineEnd? afterValue with
      | none => (none, afterLine afterValue)
      | some rest => (name.map fun name => (name, value), rest)

/-- All bindings of a text, where each one uses up a step. -/
def bindingsFrom : Nat → List Char → List Binding
  | 0, _ => []
  | steps + 1, text =>
    match text.dropWhile isBlank with
    | [] => []
    | c :: rest =>
      let (found, after) := spanBinding (c :: rest)
      found.toList ++ bindingsFrom steps after

/-- The value of the last binding of a name. -/
def valueOf? (name : String) (bindings : List Binding) : Option (Option String) :=
  (bindings.reverse.find? fun binding => binding.1 = name).map Prod.snd

/-- The value that a reference stands for: a binding, else the default after it, else nothing. -/
def resolveReference (bindings : List Binding) (body : List Char) : List Char :=
  let name := body.takeWhile (· ≠ ':')
  match valueOf? (String.ofList name) bindings with
  | some value => (value.getD "").toList
  | none => body.drop (name.length + 2)

/-- The inside of a reference at the front of a text: a name, then perhaps `:-` and a default. -/
def referenceBody? (text : List Char) : Option (List Char) :=
  let body := text.takeWhile (· ≠ '\x7d')
  let afterName := body.dropWhile (· ≠ ':')
  let wellFormed := afterName.isEmpty || [':', '-'].isPrefixOf afterName
  if body.length < text.length ∧ wellFormed then some body else none

/-- A value with its references replaced, and a number of characters still to pass over. -/
def resolveFrom (bindings : List Binding) : Nat → List Char → List Char
  | _, [] => []
  | skip + 1, _ :: rest => resolveFrom bindings skip rest
  | 0, c :: rest =>
    match c, rest with
    | '$', '\x7b' :: inside =>
      match referenceBody? inside with
      | some body => resolveReference bindings body ++ resolveFrom bindings (body.length + 2) rest
      | none => c :: resolveFrom bindings 0 rest
    | _, _ => c :: resolveFrom bindings 0 rest

/-- Bindings with the references in their values replaced by what is bound before them. -/
def resolveAll (known : List Binding) : List Binding → List Binding
  | [] => []
  | (name, value) :: rest =>
    let resolved : Binding := (name, value.map fun text => String.ofList (resolveFrom known 0 text.toList))
    resolved :: resolveAll (known ++ [resolved]) rest

/-- A text without the mark of its byte order in front. -/
def withoutByteOrderMark : List Char → List Char
  | c :: rest => if c = '\ufeff' then rest else c :: rest
  | [] => []

/-- The bindings of a file, which may refer to an environment. -/
def read (environment : List (String × String)) (text : String) : List Binding :=
  let characters := unifiedLines (withoutByteOrderMark text.toList)
  resolveAll (environment.map fun entry => (entry.1, some entry.2))
    (bindingsFrom (characters.length + 1) characters)

/-- Bindings after one more, which takes the place of one with the same name. -/
def rebind (binding : Binding) : List Binding → List Binding
  | [] => [binding]
  | first :: rest =>
    if first.1 = binding.1 then binding :: rest else first :: rebind binding rest

/-- The source of settings that a file is: its last word on each name. -/
def source (environment : List (String × String)) (text : String) : Source :=
  -- Of names that differ in their capitals the one that came up last counts, even if it gives nothing.
  let distinct := (read environment text).foldl (fun bindings binding => rebind binding bindings) []
  let bindings := distinct.map fun binding => (settingName binding.1, binding.2)
  bindings.filterMap fun binding =>
    ((valueOf? binding.1 bindings).getD none).map fun value => (binding.1, .string value)

end ContainerScan.Settings.Dotenv
