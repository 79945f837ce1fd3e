import ContainerScan.Json.Basic

/-! Scanner images and the references by which they are looked up and pulled. -/

namespace ContainerScan

/-- A scanner image, and where it is pulled from if that is not its own name. -/
structure Image where
  name : String
  tag : String := "latest"
  canonicalUrl : String := ""
  deriving DecidableEq, Repr

/-- What stands before and after the last mark of one kind in a text, if there is one. -/
def splitAtLast (mark : Char) (text : List Char) : Option (List Char × List Char) :=
  let after := (text.reverse.takeWhile (· ≠ mark)).reverse
  if text.contains mark then some (text.take (text.length - after.length - 1), after) else none

/-- A reference split into a repository and its tag or digest. -/
def splitReference (reference : String) : String × Option String :=
  -- A colon before the last slash belongs to the port of a registry.
  let text := reference.toList
  match splitAtLast '@' text with
  | some (repository, digest) => (String.ofList repository, some (String.ofList digest))
  | none =>
    match splitAtLast ':' text with
    | some (repository, tag) =>
      if tag.contains '/' then (reference, none)
      else (String.ofList repository, some (String.ofList tag))
    | none => (reference, none)

namespace Image

/-- The name and tag by which the daemon lists an image. -/
def reference (image : Image) : String :=
  image.name ++ ":" ++ image.tag

/-- The reference under which an image is pulled. -/
def pullReference (image : Image) : String :=
  if image.canonicalUrl = "" then image.reference else image.canonicalUrl

/-- The tag to ask for beside the pull reference, where that has none of its own. -/
def pullTag (image : Image) : Option String :=
  match (splitReference image.pullReference).2 with
  | some tag => if tag = "" then some image.tag else none
  | none => some image.tag

end Image

end ContainerScan
