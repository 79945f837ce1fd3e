import ContainerScan.Display.Screen

/-! Summaries of finished containers and of records that were kept. -/

namespace ContainerScan.Display

/-- The blocks of labelled values, without those that are missing or empty. -/
def fieldBlocks (fields : List (String × Option String)) : List Block :=
  fields.filterMap fun field =>
    match field.2 with
    | some value => if value = "" then none else some (.field field.1 value)
    | none => none

/-- What is shown of a result, which may be missing or empty. -/
def resultText (result : Option String) : String :=
  match result with
  | some text => if text = "" then "unresolved" else text
  | none => "unresolved"

/-- What is shown of a container in memory. -/
def containerFields (container : Container) : List (String × Option String) :=
  [("Container", container.cid.string?.map shortId), ("Status", container.status.map Status.text),
    ("Exit code", container.exitCode.map toString),
    ("Started", some (momentText container.startedAt)),
    ("Finished", some (momentText container.finishedAt))]

/-- The summary of a scan that has just ended. -/
def containerSummary (container : Container) (verdict : Option String) : List Block :=
  .headline ("[bold cyan]Scan — " ++ container.image.reference) ::
    fieldBlocks (containerFields container) ++ [.result (resultText verdict)]

/-- What is shown of a record. -/
def recordFields (record : Record) : List (String × Option String) :=
  [("Container", some (shortId record.cid)),
    ("Repository", some (record.repositoryUrl ++ " (" ++ record.branch ++ ")")),
    ("Analyzer", record.analyzer), ("Command", some record.command),
    ("Status", some record.status), ("Exit code", record.exitCode.map Quantity.shown),
    ("Started", some (momentText record.startedAt)),
    ("Finished", some (momentText record.finishedAt)), ("Output", record.output)]

/-- The summary of a record. -/
def recordSummary (record : Record) : List Block :=
  .headline ("[bold cyan]Record — " ++ record.imageName ++ ":" ++ record.imageTag) ::
    fieldBlocks (recordFields record) ++ [.result (resultText record.result)]

end ContainerScan.Display
