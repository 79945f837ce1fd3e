import ContainerScan.CommandLine.Meaning
import ContainerScan.Display.Summary
import ContainerScan.Health
import ContainerScan.Json.Renderer
import ContainerScan.Settings.Coercion

/-! What the commands do: each one prints what came of it and ends with an exit code. -/

namespace ContainerScan.CommandLine

/-- The exit code of a command: zero for success. -/
abbrev ExitCode := Nat

/-- An activity of a lifecycle, after which only its surroundings remain. -/
def withLifecycle {α : Type} (lifecycle : Lifecycle) (act : Step Session α) : Step World α :=
  fun world =>
    match act ⟨lifecycle, world⟩ with
    | .ok value session => .ok value session.world
    | .error failure session => .error failure session.world

/-- The lifecycle of an image under the settings of the process, given which files are present. -/
def lifecycleOf (present : String → Bool) (image : Image) (template : String) :
    Step World Lifecycle := do
  return .fresh image template (← get).settings (Connection.secured present)

/-- A failure is printed behind a label. -/
def complain (label : String) (failure : Failure) : Step World Unit :=
  World.print (.text ("[red]" ++ label ++ "[/red] " ++ failure.text))

/-- The value of an activity, or none after a failure of some kind has been printed. -/
def orComplain {α : Type} (handles : Failure → Bool) (label : String)
    (act : Step World (Option α)) : Step World (Option α) :=
  Step.handling handles act fun failure => do
    complain label failure
    return none

/-- The label of failures of the store. -/
def storeLabel : String := "Database error:"

/-- An activity on the daemon with a client that is given back whatever happens. -/
def administer {α : Type} (present : String → Bool) (act : Step Session α) :
    Step World (Option α) :=
  orComplain Failure.isOwn "Error:" do
    let lifecycle ← lifecycleOf present { name := "admin" } ""
    return some (← withLifecycle lifecycle do
      Session.connect
      Step.ensuring act Session.close)

/-- The exit code after a value, which is shown, or after a failure that has been printed. -/
def showing {α : Type} (result : Option α) (blocks : α → List Display.Block) :
    Step World ExitCode := do
  match result with
  | some value =>
    World.printAll (blocks value)
    return 0
  | none => return 1

/-- A single text with tags. -/
def line (content : String) : List Display.Block := [.text content]

/-- What is about to be scanned is printed. -/
def announce (scan : ScanRequest) : Step World Unit :=
  World.printAll
    [.text ("[bold cyan]Scanning[/bold cyan] [bold]" ++ scan.target.repositoryUrl ++ "[/bold] (" ++
      scan.target.branch ++ ")"),
    .text ("  Image:    [dim]" ++ scan.image.reference ++ "[/dim]"),
    .text ("  Analyzer: [dim]" ++ RetireJs.analyzer.name ++ "[/dim]")]

/-- The store is prepared and then one scan made. -/
def performScan (present : String → Bool) (scan : ScanRequest) : Step World ScanOutcome := do
  Keeping.prepare
  let lifecycle ← lifecycleOf present scan.image scan.template
  withLifecycle lifecycle (Scan.run RetireJs.analyzer scan.target)

/-- A scan with its summary; it succeeds only if the scan was passed. -/
def runScan (present : String → Bool) (scan : ScanRequest) : Step World ExitCode := do
  announce scan
  let outcome ← orComplain Failure.isStorage storeLabel
    (orComplain Failure.isOwn "Scan aborted:" (some <$> performScan present scan))
  match outcome with
  | none => return 1
  | some outcome =>
    World.printAll
      (Display.containerSummary outcome.container (outcome.verdict.map Verdict.text))
    return if outcome.passed then 0 else 1

/-- Whether the daemon answers. -/
def checkHealth (present : String → Bool) : Step World ExitCode := do
  let answered ← orComplain Failure.isOwn "Docker API unhealthy:" do
    Health.check (← get).settings (Connection.secured present)
    return some ()
  showing answered fun _ => line "[green]Docker API is up[/green]"

/-- The images on the daemon. -/
def listImages (present : String → Bool) : Step World ExitCode := do
  match ← administer present Session.listImages with
  | some reply =>
    let rows ← Step.ofExcept (Display.imageRows reply)
    World.print (.table (Display.imagesTable rows))
    return 0
  | none => return 1

/-- An image is removed from the daemon. -/
def removeImage (present : String → Bool) (id : String) : Step World ExitCode := do
  let removed ← administer present (Session.removeImage id)
  showing removed fun _ => line ("Removed [bold]" ++ id ++ "[/bold]")

/-- A container is stopped. -/
def stopContainer (present : String → Bool) (cid : String) : Step World ExitCode := do
  let stopped ← administer present (Session.stop (.string cid))
  showing stopped fun _ => line ("Stopped [bold]" ++ shortId cid ++ "[/bold]")

/-- A container is removed by force. -/
def removeContainer (present : String → Bool) (cid : String) : Step World ExitCode := do
  let removed ← administer present (Session.remove (.string cid) true)
  showing removed fun _ => line ("Removed [bold]" ++ shortId cid ++ "[/bold]")

/-- The record of a container. -/
def showRecord (cid : String) : Step World ExitCode := do
  match ← orComplain Failure.isStorage storeLabel (some <$> Keeping.get cid) with
  | none => return 1
  | some none =>
    World.print (.text ("[yellow]No record for container " ++ shortId cid ++ "[/yellow]"))
    return 1
  | some (some record) =>
    World.printAll (Display.recordSummary record)
    return 0

/-- The store is prepared. -/
def prepareStore : Step World ExitCode := do
  let prepared ← orComplain Failure.isStorage storeLabel (some <$> Keeping.prepare)
  showing prepared fun _ => line "[green]Database ready[/green]"

/-- What is asked for is done, given which files are present. -/
def perform (present : String → Bool) : Request → Step World ExitCode
  | .run scan => runScan present scan
  | .health => checkHealth present
  | .listImages => listImages present
  | .removeImage id => removeImage present id
  | .stopContainer cid => stopContainer present cid
  | .removeContainer cid => removeContainer present cid
  | .showRecord cid => showRecord cid
  | .prepareStore => prepareStore

/-- The name of the program and its version. -/
def versionText : String := "scangate, version 0.1.0"

/-- How the program is used. -/
def usageText : String := "Usage: scangate [OPTIONS] COMMAND [ARGS]..."

/-- What is said about a misuse. -/
def misuseText (misuse : Misuse) : String :=
  match misuse.message with
  | some message => "Error: " ++ message
  | none => usageText

/-- A command line is carried out, given which files are present. -/
def run (present : String → Bool) (arguments : List String) : Step World ExitCode := do
  match Meaning.ofArguments arguments with
  | .request request => perform present request
  | .help =>
    World.printPlain usageText
    return 0
  | .version =>
    World.printPlain versionText
    return 0
  | .misuse misuse =>
    World.printPlain (misuseText misuse)
    return 2

/-- How the program ended: its exit code, what it printed, and what it wrote beside that. -/
structure Ending where
  code : ExitCode
  printed : List String
  remarks : List String
  deriving DecidableEq, Repr

/-- The ending after a command; a failure that escaped it ends in exit code one. -/
def Ending.ofResult (warnings : List String) : EStateM.Result Failure World ExitCode → Ending
  | .ok code world => ⟨code, world.printed, warnings ++ remarksOf world⟩
  | .error failure world => ⟨1, world.printed, warnings ++ remarksOf world ++ [failure.text]⟩
where
  /-- The events of a world, each in a line. -/
  remarksOf (world : World) : List String :=
    world.events.map fun event => (Json.object event).render

/-- The ending of the program under the settings that some sources give, given which files are
present and in which world a command begins under given settings. -/
def ending (present : String → Bool) (sources : List Settings.Source) (beginning : Settings → World)
    (arguments : List String) : Ending :=
  match Settings.ofSources sources with
  | .ok settings => .ofResult settings.warnings (run present arguments (beginning settings))
  | .error violations => ⟨1, [], violations.map fun violation => violation.breach.message⟩

end ContainerScan.CommandLine
