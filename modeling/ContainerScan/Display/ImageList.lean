import ContainerScan.Container.Basic
import ContainerScan.Daemon.Basic
import ContainerScan.Display.Values
import ContainerScan.Number.Bounds

/-! The images on a daemon as rows of texts. -/

namespace ContainerScan.Display

/-- An image on the daemon, as a row shows it. -/
structure ImageRow where
  id : String
  tags : String
  size : String
  created : String
  deriving DecidableEq, Repr

/-- The value of a name that is present, not null, and not empty. -/
def present (name : String) (members : List (String × Json)) : Option Json :=
  match Json.lookup name members with
  | some value => if value.isTruthy then some value else none
  | none => none

/-- The identifier of an image without the name of its digest. -/
def imageId (members : List (String × Json)) : Except Failure String :=
  match present "Id" members with
  | none => .ok ""
  | some (.string text) =>
    let digest := "sha256:".toList
    let characters := text.toList
    .ok (String.ofList (if digest.isPrefixOf characters then characters.drop digest.length
      else characters))
  | some _ => .error .lacking

/-- The moment that lies some seconds after the start of 1970, unless the calendar ends before. -/
def momentOfSeconds (seconds : Rat) : Except Failure Timestamp :=
  -- The years since 1900 must fit into half a word, in which the year itself is then counted.
  let moment := Timestamp.ofSeconds seconds
  let since := moment.date.year - 1900
  let year := Number.wrapHalf moment.date.year
  if !Number.fitsHalf since then
    .error (.system "[Errno 75] Value too large for defined data type")
  else if year < 1 ∨ 9999 < year then
    .error (.value ("year " ++ toString year ++ " is out of range"))
  else .ok moment

/-- The moment that a number of seconds means. -/
def momentOf : Json → Except Failure Timestamp
  | .number (.whole seconds) =>
    if Number.fitsWord seconds then momentOfSeconds seconds
    else .error (.overflow "timestamp out of range for platform time_t")
  -- The conversion to whole seconds complains before the range is looked at.
  | .number (.real .unordered) => .error (.value "cannot convert float NaN to integer")
  | .number (.real value) =>
    match value.toRat? with
    | some seconds =>
      if -(Number.wordBound : Rat) ≤ seconds ∧ seconds < (Number.wordBound : Rat) then momentOfSeconds seconds
      else .error (.overflow "timestamp out of range for platform time_t")
    | none => .error (.overflow "cannot convert float infinity to integer")
  | .bool value => momentOfSeconds (if value then 1 else 0)
  | _ => .error .wrongKind

/-- When an image was made. -/
def imageCreated (members : List (String × Json)) : Except Failure String :=
  match present "Created" members with
  | none => .ok absent
  | some value => (momentOf value).map fun created => created.shown

/-- The texts in a list. -/
def textsOf : List Json → Except Failure (List String)
  | [] => .ok []
  | .string text :: rest => (textsOf rest).map (text :: ·)
  | _ :: _ => .error .wrongKind

/-- What one goes through when going through a value: items, names or characters. -/
def elementsOf : Json → Except Failure (List Json)
  | .array items => .ok items
  | .object members => .ok (members.map fun member => .string member.1)
  | .string text => .ok (text.toList.map fun c => .string (String.singleton c))
  | _ => .error .wrongKind

/-- The tags of an image, with commas between them. -/
def imageTags (members : List (String × Json)) : Except Failure String := do
  let tags ← (match present "RepoTags" members with
    | none => .ok []
    | some value => (elementsOf value).bind textsOf)
  let joined := ", ".intercalate tags
  return if joined = "" then "<none>" else joined

/-- An image as a row; the first of its values that cannot be shown decides what is wrong. -/
def ImageRow.ofJson : Json → Except Failure ImageRow
  | .object members => do
    let id ← imageId members
    let created ← imageCreated members
    let tags ← imageTags members
    let shownSize ← sizeText ((Json.lookup "Size" members).getD .null)
    return ⟨shortId id, tags, shownSize, created⟩
  | _ => .error .lacking

/-- The rows of all images. -/
def rowsOf : List Json → Except Failure (List ImageRow)
  | [] => .ok []
  | image :: rest => do
    let row ← ImageRow.ofJson image
    let rows ← rowsOf rest
    return row :: rows

/-- The rows of the images that the daemon lists. -/
def imageRows : Reply → Except Failure (List ImageRow)
  | .value content => (elementsOf content).bind rowsOf
  | .bytes [] => .ok []
  | .bytes _ => .error .lacking

/-- The title over the images. -/
def imagesTitle (count : Nat) : String :=
  "Images (" ++ toString count ++ ")"

/-- The headers over the columns. -/
def imagesHeaders : List String := ["ID", "Tags", "Size", "Created"]

/-- The texts of a row in the order of the columns. -/
def ImageRow.cells (row : ImageRow) : List String :=
  [row.id, row.tags, row.size, row.created]

end ContainerScan.Display
