import ContainerScan.Number.Bounds
import ContainerScan.Schema.Checked
import ContainerScan.Settings.Basic
import ContainerScan.Text.Letters

/-! Values of settings from what was given for them, which is often the text of an environment. -/

namespace ContainerScan.Settings

open Checked

/-- The most digits that a whole number may have in a text. -/
def digitLimit : Nat := 4300

/-- A whole number from a text. -/
def wholeOfText (text : String) : Checked Int :=
  match Number.plainWhole? (Text.trimOf Text.isSpace text.toList) with
  | none => breach .unreadableWhole
  | some plain =>
    let (negative, digits) := Number.splitMinus plain
    if digitLimit < (digits.takeWhile Text.isDigit).length then breach .wholeTooLong
    else if digits.isEmpty || !digits.all Text.isDigit then breach .unreadableWhole
    else .ok (Number.signed negative (Number.digitsValue digits))

/-- The whole number that a fraction is, or the breach of one that is none. -/
def wholeOfRat (value : Rat) : Checked Int :=
  -- Only numbers of sixty-four bits are taken over from double precision.
  if value.den ≠ 1 then breach .fractional
  else if value.num.natAbs < Number.wordBound then .ok value.num
  else breach .wholeTooLong

/-- A whole number; a flag counts as one or zero. -/
def coerceWhole : Json → Checked Int
  | .number (.whole value) => .ok value
  | .bool value => .ok (if value then 1 else 0)
  | .string text => wholeOfText text
  | .number (.real value) =>
    match value.toRat? with
    | some rational => wholeOfRat rational
    | none => breach .notFinite
  | _ => breach .notWhole

/-- A whole number in double precision. -/
def realOfWhole (value : Int) : Checked Binary64 :=
  match Binary64.ofInt? value with
  | some real => .ok real
  | none => breach .notReal

/-- A number in double precision; a flag counts as one or zero. -/
def coerceReal : Json → Checked Binary64
  | .number (.real value) => .ok value
  | .number (.whole value) => realOfWhole value
  | .bool value => realOfWhole (if value then 1 else 0)
  | .string text =>
    match Number.looseRealOf? text.toList with
    | some value => .ok value
    | none => breach .unreadableReal
  | _ => breach .notReal

/-- The words that turn a flag on. -/
def onWords : List String := ["1", "t", "true", "y", "yes", "on"]

/-- The words that turn a flag off. -/
def offWords : List String := ["0", "f", "false", "n", "no", "off"]

/-- A flag from a whole number, of which only one and zero are flags. -/
def flagOfWhole (value : Int) : Checked Bool :=
  if value = 1 then .ok true
  else if value = 0 then .ok false
  else if Number.fitsWord value then breach .unreadableFlag
  else breach .notFlag

/-- A flag from a word in any case of its letters. -/
def flagOfText (text : String) : Checked Bool :=
  let word := String.ofList (Text.lower text.toList)
  if word ∈ onWords then .ok true
  else if word ∈ offWords then .ok false
  else breach .unreadableFlag

/-- A flag. -/
def coerceFlag : Json → Checked Bool
  | .bool value => .ok value
  | .string text => flagOfText text
  | .number (.whole value) => flagOfWhole value
  -- A real number counts as a flag only where it is whole.
  | .number (.real value) =>
    match value.toRat? with
    | some rational =>
      if rational.den = 1 ∧ rational.num.natAbs < Number.wordBound then flagOfWhole rational.num
      else breach .notFlag
    | none => breach .notFlag
  | _ => breach .notFlag

/-- A log level. -/
def coerceLevel : Json → Checked Level
  | .string text =>
    match Level.ofCapitals? text with
    | some level => .ok level
    | none => breach .notLogLevel
  | _ => breach .notLogLevel

/-- A value that a further rule may refuse. -/
def checked {α : Type} (refusal : α → Option String) (value : Checked α) : Checked α :=
  value.bind fun found =>
    match refusal found with
    | some message => breach (.refused message)
    | none => .ok found

/-- Why a port is refused. -/
def portRefusal (port : Int) : Option String :=
  if 1 ≤ port ∧ port ≤ 65535 then none
  else some ("docker_api_port out of range: " ++ toString port)

/-- Why a time in whole seconds is refused. -/
def wholeTimeRefusal (value : Int) : Option String :=
  if value ≤ 0 then some "must be greater than zero" else none

/-- Why a time in seconds is refused; what compares with nothing is not. -/
def realTimeRefusal (value : Binary64) : Option String :=
  if value.atMostZero then some "must be greater than zero" else none

/-- Where a value for a setting comes from: the first source that gives one decides. -/
abbrev Source := List (String × Json)

/-- The name of a setting in small letters. -/
def settingName (name : String) : String :=
  String.ofList (Text.lowercase name.toList)

/-- The value that the first of several sources gives for a name in small letters. -/
def given (sources : List Source) (name : String) : Option Json :=
  sources.findSome? fun source =>
    Json.lookup name (source.map fun entry => (settingName entry.1, entry.2))

/-- One setting: what is given for its name, checked, or its standard value. -/
def setting {α : Type} (sources : List Source) (name : String) (standard : α)
    (check : Json → Checked α) : Checked α :=
  match given sources name with
  | some value => within (.member name) (check value)
  | none => .ok standard

/-- Settings from several sources, or all that is wrong with them in the order of the fields. -/
def ofSources (sources : List Source) : Checked Settings :=
  apply (apply (apply (apply (apply (apply (apply (apply (apply (apply (apply (apply (apply
    (.ok Settings.mk)
    (setting sources "database_url" standard.databaseUrl text))
    (setting sources "app_debug" standard.debug coerceFlag))
    (setting sources "log_level" standard.logLevel coerceLevel))
    (setting sources "docker_api_addr" standard.host text))
    (setting sources "docker_api_port" standard.port fun value =>
      checked portRefusal (coerceWhole value)))
    (setting sources "docker_api_cert_path" standard.certificates text))
    (setting sources "docker_api_tls_verify" standard.verifiesTls coerceFlag))
    (setting sources "docker_api_version" standard.apiVersion text))
    (setting sources "docker_api_timeout" standard.requestTimeout coerceWhole))
    (setting sources "git_private_ssh_key" standard.sshKey text))
    (setting sources "image_pull_interval" standard.pullInterval fun value =>
      checked realTimeRefusal (coerceReal value)))
    (setting sources "image_pull_timeout" standard.pullTimeout fun value =>
      checked realTimeRefusal (coerceReal value)))
    (setting sources "container_wait_timeout" standard.waitTimeout fun value =>
      checked wholeTimeRefusal (coerceWhole value))

/-- Settings as an object, under the names by which they are given. -/
def encode (settings : Settings) : Json :=
  .object [("database_url", .string settings.databaseUrl), ("app_debug", .bool settings.debug),
    ("log_level", .string settings.logLevel.capitals), ("docker_api_addr", .string settings.host),
    ("docker_api_port", .int settings.port),
    ("docker_api_cert_path", .string settings.certificates),
    ("docker_api_tls_verify", .bool settings.verifiesTls),
    ("docker_api_version", .string settings.apiVersion),
    ("docker_api_timeout", .int settings.requestTimeout),
    ("git_private_ssh_key", .string settings.sshKey),
    ("image_pull_interval", .number (.real settings.pullInterval)),
    ("image_pull_timeout", .number (.real settings.pullTimeout)),
    ("container_wait_timeout", .int settings.waitTimeout)]

end ContainerScan.Settings
