import ContainerScan.CommandLine.Run
import ContainerScan.Proofs.CommandLine.Arguments
import ContainerScan.Proofs.Scan

/-! The exit code of a scan on the command line: it is zero only after a scan that was passed. -/

namespace ContainerScan

namespace World

/-- Two worlds that differ in nothing but what was printed. -/
def OnlyPrints (before after : World) : Prop :=
  after = { before with printed := after.printed }

/-- Printing more is still only printing. -/
instance : IsPreorder World OnlyPrints where
  -- What was printed in between is printed over by what was printed last.
  refl _ := rfl
  trans first second third one two := by
    have same : { second with printed := third.printed } =
        { first with printed := third.printed } := by
      rw [one]
    exact two.trans same

/-- A block is printed, or refused before that. -/
theorem print_follows (block : Display.Block) : Step.Follows OnlyPrints (print block) := by
  refine ⟨fun world => ?_⟩
  unfold Step.after print
  cases block.lines <;> rfl

/-- Blocks are printed one after the other, up to one that is refused. -/
theorem printAll_follows (blocks : List Display.Block) :
    Step.Follows OnlyPrints (printAll blocks) := by
  induction blocks with
  | nil => exact Step.follows_pure _
  | cons block rest ih => exact (print_follows block).bind fun _ => ih

end World

namespace CommandLine

open Step

/-- What was not complained about has succeeded. -/
theorem of_orComplain_some {α : Type} {handles : Failure → Bool} {label : String}
    {act : Step World (Option α)} {world final : World} {value : α}
    (done : orComplain handles label act world = .ok (some value) final) :
    act world = .ok (some value) final := by
  rcases handling_ok done with done | ⟨failure, middle, _, handled⟩
  · exact done
  · -- After a complaint there is no value.
    obtain ⟨_, _, _, ended⟩ := bind_ok_iff.mp handled
    cases ended

/-- An activity whose value was wrapped has succeeded itself. -/
theorem of_map_some {α : Type} {act : Step World α} {world final : World} {value : α}
    (done : (some <$> act) world = .ok (some value) final) : act world = .ok value final := by
  -- Wrapping makes a success of a success and of nothing else.
  rw [map_apply] at done
  cases ended : act world with
  | ok found middle =>
    rw [ended] at done
    cases done
    rfl
  | error failure middle =>
    rw [ended] at done
    cases done

/-- Preparing the store makes its table, and no record is touched. -/
theorem prepare_ok {world ready : World} (done : Keeping.prepare world = .ok () ready) :
    ∃ requests events, ready = { world with
      requests := requests, store := { world.store with prepared := true }, events := events } := by
  -- Nothing but events comes behind the change of the store.
  obtain ⟨_, middle, changed, logged⟩ := bind_ok_iff.mp done
  obtain ⟨events, noted⟩ := World.log_apply (.named "scangate.core.database") .info
    "Database schema ready" [("tables", .array [.string "scan_containers"])] middle
  rw [logged] at noted
  cases noted
  -- The table is made unless the database fails, or the store cannot be prepared.
  cases outage : world.outages world.requests with
  | some failure =>
    rw [Keeping.changeStore_of_down _ outage] at changed
    cases changed
  | none =>
    rw [Keeping.changeStore_of_up outage, Store.prepare] at changed
    split at changed
    · rename_i result there
      split at there
      · cases there
        cases changed
        exact ⟨_, _, rfl⟩
      · cases there
    · cases changed

/-- A scan that is performed runs in a world with a table, and with the settings of that world. -/
theorem performScan_ok {present : String → Bool} {scan : ScanRequest} {world final : World}
    {outcome : ScanOutcome} (done : performScan present scan world = .ok outcome final) :
    ∃ ready session, Keeping.prepare world = .ok () ready ∧
      Scan.run RetireJs.analyzer scan.target ⟨.fresh scan.image scan.template ready.settings
        (Connection.secured present), ready⟩ = .ok outcome session ∧ session.world = final := by
  -- The lifecycle is made without a call, so the scan runs in the world that was prepared.
  obtain ⟨_, ready, prepared, onward⟩ := bind_ok_iff.mp done
  obtain ⟨lifecycle, middle, made, scanned⟩ := bind_ok_iff.mp onward
  cases made
  unfold withLifecycle at scanned
  cases ended : Scan.run RetireJs.analyzer scan.target ⟨.fresh scan.image scan.template
      ready.settings (Connection.secured present), ready⟩ with
  | ok value session =>
    simp only [ended] at scanned
    cases scanned
    exact ⟨ready, session, prepared, ended, rfl⟩
  | error failure session =>
    simp only [ended] at scanned
    cases scanned

/-- An announcement is printed. -/
theorem announce_follows (scan : ScanRequest) : Follows World.OnlyPrints (announce scan) :=
  World.printAll_follows _

/-- The exit code of a scan is zero only if the scan was performed, and passed. -/
theorem runScan_zero {present : String → Bool} {scan : ScanRequest} {world final : World}
    (done : runScan present scan world = .ok 0 final) :
    ∃ begun outcome ended, World.OnlyPrints world begun ∧
      performScan present scan begun = .ok outcome ended ∧ outcome.passed = true ∧
      World.OnlyPrints ended final := by
  obtain ⟨_, begun, announced, onward⟩ := bind_ok_iff.mp done
  have first := (announce_follows scan).leads world
  rw [after_of_ok announced] at first
  obtain ⟨outcome, ended, scanned, finished⟩ := bind_ok_iff.mp onward
  cases outcome with
  -- A scan that was complained about does not end with zero.
  | none => cases finished
  | some outcome =>
    have scanned := of_orComplain_some (of_orComplain_some scanned)
    obtain ⟨_, middle, printed, coded⟩ := bind_ok_iff.mp finished
    have last := (World.printAll_follows (Display.containerSummary outcome.container
      (outcome.verdict.map Verdict.text))).leads ended
    rw [after_of_ok printed] at last
    -- The last thing that decides about the exit code is whether the scan was passed.
    cases passed : outcome.passed with
    | false =>
      rw [passed] at coded
      cases coded
    | true =>
      rw [passed] at coded
      cases coded
      exact ⟨begun, outcome, ended, first, of_map_some scanned, passed, last⟩

/-- What happened between two worlds in which a scan was passed: the daemon was asked for a
container, answered everything, and sent a report without grave vulnerabilities; and there is a new
record. -/
structure PassedScan (world final : World) (scan : ScanRequest) (cid : String) (bytes : List UInt8)
    (findings : Findings) (record : Record) : Prop where
  named : world.nextCid = .ok (.string cid)
  started : (world.nextOutcome .start).result.isOk = true
  exited : world.nextExit.isOk = true
  read : world.nextOutput = .ok bytes
  called : ∃ command made, final.calls = world.calls ++ made ∧
    Session.pursuit scan.image.reference command (.string cid) world.settings.waitTimeout <:+:
      made.map Call.query
  unmarked : Text.contains (Text.Utf8.decode bytes) "ERROR_CLONING" = false
  parsed : RetireJs.read (Text.Utf8.decode bytes) = .ok findings
  harmless : ∀ vulnerability ∈ findings.vulnerabilities,
    vulnerability.level ≠ some .medium ∧ vulnerability.level ≠ some .high
  new : world.store.find? cid = none
  kept : final.store.rows = world.store.rows ++ [record]
  cid : record.cid = cid
  status : record.status = "finished"

/-- What is printed before and after a scan does not matter. -/
theorem PassedScan.onlyPrints {world begun ended final : World} {scan : ScanRequest} {cid : String}
    {bytes : List UInt8} {findings : Findings} {record : Record}
    (passed : PassedScan begun ended scan cid bytes findings record)
    (first : World.OnlyPrints world begun) (last : World.OnlyPrints ended final) :
    PassedScan world final scan cid bytes findings record := by
  -- Nothing that the fields speak of was printed.
  rw [first] at passed
  rw [last]
  exact ⟨passed.named, passed.started, passed.exited, passed.read, passed.called, passed.unmarked,
    passed.parsed, passed.harmless, passed.new, passed.kept, passed.cid, passed.status⟩

/-- A scan that was performed and passed was passed in every respect. -/
theorem performScan_passed {present : String → Bool} {scan : ScanRequest} {world final : World}
    {outcome : ScanOutcome} (done : performScan present scan world = .ok outcome final)
    (passed : outcome.passed = true) :
    ∃ cid bytes findings record, PassedScan world final scan cid bytes findings record := by
  obtain ⟨ready, session, prepared, scanned, rfl⟩ := performScan_ok done
  obtain ⟨requests, events, rfl⟩ := prepare_ok prepared
  obtain ⟨cid, record, output, result, command, made, finished, named, judged, new, drafted, kept,
    grown, queried⟩ := Scan.run_kept _ _ _ _ _ _ (Connection.secured_onlyConnects present) scanned
  -- What was judged is what the daemon sent, read as a text.
  obtain ⟨bytes, sent, read⟩ := finished.read
  obtain ⟨code, exits, _⟩ := finished.exited
  have verdict : (RetireJs.analyzer.judge outcome.container.output).verdict = some .passed := by
    rw [← judged]
    simpa [ScanOutcome.passed] using passed
  rw [Analyzer.judge_passed_iff, read] at verdict
  obtain ⟨unmarked, findings, parsed, harmless⟩ := verdict
  -- The record is that of the container which the daemon named.
  have first := finished.named
  rw [named] at first queried
  exact ⟨cid, bytes, findings, record.withoutOffsets.withTexts output result, {
    named := first
    started := finished.started
    exited := congrArg Except.isOk (show world.nextExit = .ok code from exits)
    read := sent
    called := ⟨command, made, grown, queried⟩
    unmarked := unmarked
    parsed := parsed
    harmless := findings.verdict_passed_iff.mp harmless
    new := new
    kept := kept
    cid := drafted.cid
    status := drafted.status_of_finished finished.status }⟩

/-- The gate is closed unless everything went well: under whatever settings, with whatever daemon
and whatever database, a scan that is asked for on the command line ends in exit code zero only if
it was performed and passed. -/
theorem ending_run_zero (present : String → Bool) (sources : List Settings.Source)
    (beginning : Settings → World) (options : List String) (plain : "--help" ∉ options)
    (zero : (ending present sources beginning ("run" :: options)).code = 0) :
    ∃ settings scan final cid bytes findings record,
      Settings.ofSources sources = .ok settings ∧
      Meaning.ofArguments ("run" :: options) = .request (.run scan) ∧
      run present ("run" :: options) (beginning settings) = .ok 0 final ∧
      PassedScan (beginning settings) final scan cid bytes findings record := by
  -- Settings that are refused, and a failure that nobody handles, end in a code of their own.
  unfold ending at zero
  cases given : Settings.ofSources sources with
  | error violations =>
    rw [given] at zero
    cases zero
  | ok settings =>
    rw [given] at zero
    cases ended : run present ("run" :: options) (beginning settings) with
    | error failure final =>
      simp [ended, Ending.ofResult] at zero
    | ok code final =>
      obtain rfl : code = 0 := by simpa [ended, Ending.ofResult] using zero
      rcases Meaning.ofArguments_run_cases plain with ⟨wrong, meant⟩ | ⟨scan, meant⟩
      · -- Arguments that mean nothing end in the code for misuse.
        have misused : run present ("run" :: options) (beginning settings) =
            (World.printPlain (misuseText wrong) >>= fun _ => pure 2) (beginning settings) := by
          unfold run
          rw [meant]
        rw [ended] at misused
        cases misused
      · have scanned : run present ("run" :: options) (beginning settings) =
            runScan present scan (beginning settings) := by
          unfold run
          rw [meant]
          rfl
        obtain ⟨begun, outcome, middle, first, done, passed, last⟩ :=
          runScan_zero (scanned.symm.trans ended)
        obtain ⟨cid, bytes, findings, record, between⟩ := performScan_passed done passed
        exact ⟨settings, scan, final, cid, bytes, findings, record, rfl, meant, ended,
          between.onlyPrints first last⟩

/-- With the usual settings, the daemon's usual answers and an empty database a scan is passed. -/
theorem ending_run_zero_usual :
    let beginning (settings : Settings) : World :=
      { settings := settings, store := ⟨true, false, []⟩ }
    ∃ settings scan final cid bytes findings record, Settings.ofSources [[]] = .ok settings ∧
      PassedScan (beginning settings) final scan cid bytes findings record := by
  intro beginning
  have zero : (ending (fun _ => true) [[]] beginning ["run", "--image", "retirejs", "--cmd",
      "scan %GIT_REPO% %GIT_BRANCH%", "--repo", "repository", "--branch", "main"]).code = 0 := by
    decide +kernel
  obtain ⟨settings, scan, final, cid, bytes, findings, record, given, _, _, passed⟩ :=
    ending_run_zero (fun _ => true) [[]] beginning ["--image", "retirejs", "--cmd",
      "scan %GIT_REPO% %GIT_BRANCH%", "--repo", "repository", "--branch", "main"] (by decide) zero
  exact ⟨settings, scan, final, cid, bytes, findings, record, given, passed⟩

end CommandLine

end ContainerScan
