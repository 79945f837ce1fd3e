import ContainerScan.CommandLine.Run
import ContainerScan.Proofs.Display.Summary
import ContainerScan.Proofs.Record.Keeping

/-! Showing the record of a container on the command line: the exit code is zero exactly where there
is a record whose title and values all show something, tags in them included. -/

namespace ContainerScan

namespace CommandLine

open Step Display

namespace Meaning

/-- The identifier of a container behind the mark that ends the options is taken as it is. -/
theorem ofArguments_show (cid : String) :
    ofArguments ["container", "show", "--", cid] = .request (.showRecord cid) := rfl

/-- The mark is not needed if the identifier does not begin with a dash. -/
theorem ofArguments_show_of_head {cid : String} (plain : cid.toList.head? ≠ some '-') :
    ofArguments ["container", "show", cid] = .request (.showRecord cid) := by
  -- Only what begins by a dash could be an option.
  have other : Form.classify {} cid = .ok .other := by
    unfold Form.classify
    split <;> simp_all
  have given : ofArguments ["container", "show", cid] =
      withArgument "CID" .showRecord [cid] := rfl
  rw [given, withArgument, ofCommand, Form.sort, Form.sortFrom, other]
  rfl

end Meaning

section

variable {world : World} {cid : String}

/-- The record of a container is read from a store that can be used. -/
theorem read_of_usable (usable : world.store.isUsable = true)
    (up : world.outages world.requests = none) :
    orComplain Failure.isStorage storeLabel (some <$> Keeping.get cid) world =
      .ok (some (world.store.find? cid)) { world with requests := world.requests + 1 } := by
  -- The store is up and usable, so the request is counted and answered.
  have found : Keeping.get cid world =
      .ok (world.store.find? cid) { world with requests := world.requests + 1 } := by
    rw [Keeping.get, Keeping.changeStore_of_up up, Store.get, if_pos usable]
    rfl
  exact handling_of_ok (by rw [map_apply, found]) _ _

/-- Without a record that is said, with an exit code of one, unless even that is a failure. -/
theorem showRecord_of_none (usable : world.store.isUsable = true)
    (up : world.outages world.requests = none) (absent : world.store.find? cid = none) :
    (∃ final, showRecord cid world = .ok 1 final) ∨
      ∃ failure final, showRecord cid world = .error failure final := by
  rw [showRecord, bind_of_ok (read_of_usable usable up), absent]
  -- The identifier stands in a text with tags as well, and may hold one that cannot close.
  cases said : Block.filled
      (.text ("[yellow]No record for container " ++ shortId cid ++ "[/yellow]")) with
  | ok lines => exact .inl ⟨_, bind_of_ok (World.print_of_filled said _) _⟩
  | error failure => exact .inr ⟨failure, _, bind_of_error (World.print_of_error said _) _⟩

/-- A record is shown. -/
theorem showRecord_of_some {record : Record} (usable : world.store.isUsable = true)
    (up : world.outages world.requests = none) (there : world.store.find? cid = some record) :
    showRecord cid world = (World.printAll (recordSummary record) >>= fun _ => pure 0)
      { world with requests := world.requests + 1 } := by
  rw [showRecord, bind_of_ok (read_of_usable usable up), there]

/-- A record that can be rendered is shown in full, as far as its characters stand for themselves. -/
theorem showRecord_of_renders {record : Record} (usable : world.store.isUsable = true)
    (up : world.outages world.requests = none) (there : world.store.find? cid = some record)
    (renders : Renders record) :
    ∃ final, showRecord cid world = .ok 0 final ∧ Shows record final.printed := by
  -- All blocks are printed, and that is the end of the command.
  obtain ⟨printed, done, shown⟩ :=
    printAll_recordSummary renders { world with requests := world.requests + 1 }
  have whole := showRecord_of_some usable up there
  rw [bind_of_ok done] at whole
  exact ⟨_, whole, shown.append_left _⟩

/-- Where a record cannot be rendered, showing it is a failure. -/
theorem showRecord_of_not_renders {record : Record} (usable : world.store.isUsable = true)
    (up : world.outages world.requests = none) (there : world.store.find? cid = some record)
    (unrendered : ¬ Renders record) :
    ∃ failure final, showRecord cid world = .error failure final := by
  -- One block is refused, and with it the command.
  obtain ⟨failure, final, failed⟩ :=
    World.printAll_of_error (renders_iff.not.mp unrendered)
      { world with requests := world.requests + 1 }
  have whole := showRecord_of_some usable up there
  rw [bind_of_error failed] at whole
  exact ⟨failure, final, whole⟩

end

/-- How the program ends where a record is to be shown. -/
structure EndsFor (record : Record) (ending : Ending) : Prop where
  code : ending.code = 0 ∨ ending.code = 1
  zero : ending.code = 0 ↔ Renders record
  untagged : IsUntagged record → ending.code = 0
  shown : ending.code = 0 → Shows record ending.printed

/-- A command line is as successful as what it asks for. -/
theorem ending_of_request {present : String → Bool} {sources : List Settings.Source}
    {settings : Settings} {beginning : Settings → World} {arguments : List String}
    {request : Request} (accepted : Settings.ofSources sources = .ok settings)
    (means : Meaning.ofArguments arguments = .request request) :
    ending present sources beginning arguments =
      .ofResult settings.warnings (perform present request (beginning settings)) := by
  unfold ending run
  rw [accepted, means]

/-- Showing a record on the command line, where the store can be used: for a container without one the
exit code is one. For a record it is zero exactly if its title and all values that are shown of it
can be rendered, as they can without tags, and then each value in which every character stands for
itself is printed in full; else it is one. -/
theorem ending_showRecord {sources : List Settings.Source} {settings : Settings}
    {beginning : Settings → World} {arguments : List String} {cid : String}
    (accepted : Settings.ofSources sources = .ok settings)
    (means : Meaning.ofArguments arguments = .request (.showRecord cid))
    (usable : (beginning settings).store.isUsable = true)
    (up : (beginning settings).outages (beginning settings).requests = none)
    (present : String → Bool) :
    ((beginning settings).store.find? cid = none →
      (ending present sources beginning arguments).code = 1) ∧
    ∀ record, (beginning settings).store.find? cid = some record →
      EndsFor record (ending present sources beginning arguments) := by
  rw [ending_of_request accepted means]
  constructor
  · -- Whether or not the absence can be said, the exit code is the same.
    intro absent
    rcases showRecord_of_none usable up absent with ⟨final, done⟩ | ⟨failure, final, failed⟩
    · rw [perform, done]
      rfl
    · rw [perform, failed]
      rfl
  · intro record there
    by_cases renders : Renders record
    · -- All blocks are printed, and nothing else happens after them.
      obtain ⟨final, done, shown⟩ := showRecord_of_renders usable up there renders
      rw [perform, done]
      exact ⟨.inl rfl, iff_of_true rfl renders, fun _ => rfl, fun _ => shown⟩
    · -- The first block that shows nothing is a failure that nobody handles.
      obtain ⟨failure, final, failed⟩ := showRecord_of_not_renders usable up there renders
      rw [perform, failed]
      exact ⟨.inr rfl, iff_of_false nofun renders, fun untagged => absurd untagged.renders renders,
        nofun⟩

/-- A record of several lines is shown, where only its result holds a tag. -/
theorem ending_showRecord_lines :
    let output := "\x7b\"data\": []\x7d\r\n\tNo [ISSUE]: all fine\r\n"
    let record : Record := {
      cid := "4f1c", imageName := "retirejs", imageTag := "latest", canonicalUrl := none
      command := "scan %GIT_REPO%", repositoryUrl := "https://host/repository", branch := "main"
      analyzer := some "retirejs", status := "finished", exitCode := some (.whole 0)
      output := some output, result := some "[/]", startedAt := none, finishedAt := none }
    let shown := ending (fun _ => true) [[]]
      (fun settings => { settings := settings, store := ⟨true, true, [record]⟩ })
      ["container", "show", "4f1c"]
    shown.code = 0 ∧ Prints (labelText "Output" ++ withoutControls output.toList) shown.printed := by
  -- The result could be taken for a tag, but it is not printed as markup.
  intro output record shown
  have accepted : Settings.ofSources [[]] = .ok Settings.standard := rfl
  have means : Meaning.ofArguments ["container", "show", "4f1c"] = .request (.showRecord "4f1c") :=
    Meaning.ofArguments_show_of_head (by decide)
  have ends : EndsFor record shown := (ending_showRecord accepted means rfl rfl _).2 record rfl
  have zero : shown.code = 0 := ends.untagged (by decide +kernel)
  refine ⟨zero, (ends.shown zero).field "Output" output ?_ (by decide) (by decide +kernel)⟩
  simp [record, recordFields]

/-- A tag in the command of a record that closes no open one is the end of showing the record. -/
theorem ending_showRecord_tagged :
    ¬ ∀ record : Record, (ending (fun _ => true) [[]]
      (fun settings => { settings := settings, store := ⟨true, true, [record]⟩ })
      ["container", "show", "--", record.cid]).code = 0 := by
  -- The tag in the command closes what nothing has opened.
  intro shown
  let record : Record := {
    cid := "4f1c", imageName := "retirejs", imageTag := "latest", canonicalUrl := none
    command := "echo [/x]", repositoryUrl := "repository", branch := "main"
    analyzer := some "retirejs", status := "finished", exitCode := some (.whole 0)
    output := none, result := none, startedAt := none, finishedAt := none }
  have unrendered : ¬ Renders record := fun renders => by
    have written : "echo [/x]".toList = "echo ".toList ++ '[' :: '/' :: (['x'] ++ [']']) := by
      decide
    have refused : (render "echo [/x]").isOk = false :=
      render_unopened (by decide) (by decide) written
    have command := renders.values "echo [/x]" (by simp [record, valuesOf, recordFields])
    rw [refused] at command
    cases command
  -- Such a record can be in the table, so it can be asked for.
  let world : World := { settings := .standard, store := ⟨true, true, [record]⟩ }
  have there : world.store.find? "4f1c" = some record := rfl
  obtain ⟨failure, final, failed⟩ := showRecord_of_not_renders rfl rfl there unrendered
  have accepted : Settings.ofSources [[]] = .ok Settings.standard := rfl
  have zero := shown record
  rw [ending_of_request accepted (Meaning.ofArguments_show _)] at zero
  rw [perform, failed] at zero
  cases zero

end CommandLine

end ContainerScan
