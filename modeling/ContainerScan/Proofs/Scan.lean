import ContainerScan.Analyzer.RetireJs
import ContainerScan.Proofs.Analyzer
import ContainerScan.Proofs.Lifecycle.Run
import ContainerScan.Scan

/-! A whole scan: how its record and its verdict belong together, and when there is neither. -/

namespace ContainerScan

/-- The client is given back without fail, and nothing else is asked. -/
theorem Session.close_apply (session : Session) :
    ∃ closed, close session = .ok () closed ∧ World.Asks [.close] session.world closed.world := by
  have opened : close session = (if session.lifecycle.connected then
      inWorld World.closeClient >>= fun _ => setConnected false else pure ()) session := rfl
  -- Without a client there is nothing to give back.
  by_cases connected : session.lifecycle.connected = true
  · let given : Session :=
      ⟨{ session.lifecycle with connected := false }, session.world.afterCall .close [] [] 0⟩
    have closed : close session = .ok () given := by
      rw [opened, if_pos connected]
      rfl
    have asked := World.asked_afterCall session.world ⟨.close, [], []⟩ 0
    exact ⟨given, closed, asked.asks (by simp)⟩
  · have closed : close session = .ok () session := by
      rw [opened, if_neg connected]
      rfl
    exact ⟨session, closed, refl _⟩

namespace Scan

open Step

/-- Whatever is told of a scan, a record can be drafted from it. -/
theorem draft?_origin (template : String) (analyzer : Analyzer) (target : Target)
    (container : Container) (cid : String) :
    (Record.draft? cid container (origin template analyzer target)).isSome = true := rfl

/-- A record that was kept just now gets the texts of the judgement on the output, or none of them
where the database fails in between. -/
theorem judge_of_saved {template : String} {analyzer : Analyzer} {target : Target}
    {container : Container} {world kept : World} {record : Record} {old : List Record}
    (saved : Keeping.save container (origin template analyzer target) world = .ok record kept)
    (usable : kept.store.isUsable = true)
    (rows : kept.store.rows = old ++ [record.withoutOffsets])
    (others : ∀ earlier ∈ old, earlier.cid ≠ record.cid) :
    (∃ output result final, judge template analyzer target container world =
        .ok ⟨container, (analyzer.judge container.output).verdict⟩ final ∧
      final.store = { kept.store with rows :=
        old ++ [record.withoutOffsets.withTexts output result] } ∧
      ((∀ number, kept.outages number = none) →
        output = analyzer.keptOutput container.output ∧
          result = analyzer.keptResult container.output)) ∨
    (∃ failure final, judge template analyzer target container world = .error failure final ∧
      ∃ number, kept.outages number ≠ none) := by
  let verdict := (analyzer.judge container.output).verdict
  have opened : judge template analyzer target container world =
      (analyzer.evaluate Keeping.update record.cid container.output >>= fun verdict =>
        World.log (logger container.image analyzer target) .info "Scan complete"
          [("cid", .string (shortId record.cid)),
            ("exit_code", .ofOption (container.exitCode.map .int)),
            ("result", .text? (verdict.map Verdict.text))] >>= fun _ =>
          pure ⟨container, verdict⟩) kept := bind_of_ok saved _
  -- Once there is a verdict only the last event is missing, and that changes no record.
  have finishes (judged : World) := World.log_pure_apply (logger container.image analyzer target)
    .info "Scan complete" [("cid", .string (shortId record.cid)),
      ("exit_code", .ofOption (container.exitCode.map .int)),
      ("result", .text? (verdict.map Verdict.text))] (⟨container, verdict⟩ : ScanOutcome) judged
  rw [opened]
  rcases @Analyzer.evaluate_newest analyzer container.output kept _ record.withoutOffsets usable
      rows others with ⟨judged, done, stored⟩ | ⟨outage, stored, verdicts⟩
  · obtain ⟨events, finished⟩ := finishes judged
    exact Or.inl ⟨_, _, _, (bind_of_ok done _).trans finished, stored, fun _ => ⟨rfl, rfl⟩⟩
  · -- A failure of the database may have been dropped, and then the record is as it was kept.
    cases ended : analyzer.evaluate Keeping.update record.cid container.output kept with
    | error failure final => exact Or.inr ⟨failure, final, bind_of_error ended _, _, outage⟩
    | ok found judged =>
      obtain rfl : found = verdict := verdicts found judged ended
      obtain ⟨events, finished⟩ := finishes judged
      have same : judged.store = kept.store :=
        (congrArg World.store (after_of_ok ended)).symm.trans stored
      refine Or.inl ⟨none, none, _, (bind_of_ok ended _).trans finished, ?_,
        fun up => absurd (up _) outage⟩
      change judged.store = { kept.store with rows := old ++ [record.withoutOffsets] }
      rw [same, ← rows]

/-- What becomes of a container that was run: its record is kept and its output judged, or the
record is refused, or the database fails after that. -/
theorem judge_cases (template : String) (analyzer : Analyzer) (target : Target)
    (container : Container) (world : World) (made : container.cid.isNull = false) :
    (∃ cid record output result final, container.cid = .string cid ∧
      world.store.find? cid = none ∧
      Record.Drafted cid container (origin template analyzer target) record ∧
      judge template analyzer target container world =
        .ok ⟨container, (analyzer.judge container.output).verdict⟩ final ∧
      final.store = { world.store with rows :=
        world.store.rows ++ [record.withoutOffsets.withTexts output result] } ∧
      ((∀ number, world.outages number = none) →
        output = analyzer.keptOutput container.output ∧
          result = analyzer.keptResult container.output)) ∨
    (∃ failure final,
      Keeping.save container (origin template analyzer target) world = .error failure final ∧
      judge template analyzer target container world = .error failure final ∧
      final.store = world.store ∧ final.updates = world.updates ∧
      (world.outages world.requests = none → world.store.isUsable = true →
        container.exitCode.all Number.fitsWord = true →
        failure = .notKept ∧
          ∀ cid, container.cid = .string cid → (world.store.find? cid).isSome = true)) ∨
    (∃ failure final, judge template analyzer target container world = .error failure final ∧
      ∃ number, world.outages number ≠ none) := by
  rcases Keeping.save_cases container world made
      (draft?_origin template analyzer target container) with
    ⟨cid, record, events, named, usable, new, drafted, saved⟩ | ⟨failure, events, refused, why⟩
  · -- The container was new, so no earlier row is changed along with its record.
    have others : ∀ earlier ∈ world.store.rows, earlier.cid ≠ record.cid := by
      rw [drafted.cid]
      exact Store.find?_eq_none_iff.mp new
    rcases judge_of_saved saved usable rfl others with
      ⟨output, result, final, done, stored, texts⟩ | ⟨failure, final, failed, outage⟩
    · exact Or.inl ⟨cid, record, output, result, final, named, new, drafted, done, stored, texts⟩
    · exact Or.inr (Or.inr ⟨failure, final, failed, outage⟩)
  · -- A refused record ends the scan before anything is judged.
    exact Or.inr (Or.inl ⟨failure, _, refused, bind_of_error refused _, rfl, rfl, why⟩)

/-- What becomes of a container that was run is no business of the daemon. -/
theorem judge_silent (template : String) (analyzer : Analyzer) (target : Target)
    (container : Container) : Follows World.Silent (judge template analyzer target container) :=
  (Keeping.save_silent ..).bind fun _ => (analyzer.evaluate_silent ..).bind fun _ =>
    (World.log_silent ..).bind fun _ => follows_pure _

/-- A session once the beginning of a scan has been logged. -/
def begun (analyzer : Analyzer) (target : Target) (session : Session) : Session :=
  after (Session.inWorld (World.log (logger session.lifecycle.container.image analyzer target) .info
    "Scan started")) session

/-- The beginning of a scan is logged without fail. -/
theorem begun_apply (analyzer : Analyzer) (target : Target) (session : Session) :
    ∃ events, begun analyzer target session =
        { session with world := { session.world with events := events } } ∧
      Session.inWorld (World.log (logger session.lifecycle.container.image analyzer target) .info
        "Scan started") session = .ok () (begun analyzer target session) := by
  -- The event is the only thing that the beginning leaves behind.
  obtain ⟨events, logged⟩ := World.log_apply
    (logger session.lifecycle.container.image analyzer target) .info "Scan started" [] session.world
  have done : Session.inWorld (World.log (logger session.lifecycle.container.image analyzer target)
      .info "Scan started") session =
        .ok () { session with world := { session.world with events := events } } := by
    simp only [Session.inWorld, logged]
  have same : begun analyzer target session = _ := after_of_ok done
  exact ⟨events, same, same ▸ done⟩

/-- Of an analyzer the beginning of a scan only tells the name. -/
theorem begun_congr {analyzer other : Analyzer} (same : analyzer.name = other.name)
    (target : Target) (session : Session) :
    begun analyzer target session = begun other target session := by
  simp only [begun, logger, same]

/-- Of an analyzer a record only tells the name. -/
theorem origin_congr {analyzer other : Analyzer} (same : analyzer.name = other.name)
    (template : String) (target : Target) :
    origin template analyzer target = origin template other target := by
  simp only [origin, same]

/-- A scan fails as its run does, after the client has been given back. -/
theorem run_of_error {analyzer : Analyzer} {target : Target} {session broken : Session}
    {failure : Failure} (failed : Session.run target.repositoryUrl target.branch
      (begun analyzer target session) = .error failure broken) :
    ∃ final, run analyzer target session = .error failure final ∧
      World.Asks [.close] broken.world final.world := by
  -- The client is given back behind the failure, and that cannot fail.
  obtain ⟨_, _, logged⟩ := begun_apply analyzer target session
  obtain ⟨final, closed, asks⟩ := Session.close_apply broken
  have stopped : runContainer target (begun analyzer target session) = .error failure final :=
    ensuring_of_error failed closed
  refine ⟨final, ?_, asks⟩
  exact (bind_of_ok logged _).trans (bind_of_error stopped _)

/-- A scan goes on with the container of its run, after the client has been given back. -/
theorem run_of_ok {analyzer : Analyzer} {target : Target} {session ran final : Session}
    {container : Container} (done : Session.run target.repositoryUrl target.branch
      (begun analyzer target session) = .ok container ran)
    (closed : Session.close ran = .ok () final) :
    run analyzer target session =
      Session.inWorld (judge session.lifecycle.template analyzer target container) final := by
  -- Behind the run only the judgement is left.
  obtain ⟨_, _, logged⟩ := begun_apply analyzer target session
  have stopped : runContainer target (begun analyzer target session) = .ok container final :=
    ensuring_of_ok done closed
  exact (bind_of_ok logged _).trans (bind_of_ok stopped _)

/-- A scan of a fresh lifecycle fails with its run, or has a finished container to judge: the daemon
was asked for everything on the way, and no record was touched. -/
theorem run_cases (image : Image) (template : String) (settings : Settings) (world : World)
    (analyzer : Analyzer) (target : Target) {connector : Connector}
    (connecting : connector.OnlyConnects) :
    let fresh : Session := ⟨.fresh image template settings connector, world⟩
    let ran := Session.run target.repositoryUrl target.branch (begun analyzer target fresh)
    (∃ failure failed final, ran = .error failure failed ∧
      run analyzer target fresh = .error failure final ∧ final.world.store = world.store) ∨
    (∃ container session closed queries command, ran = .ok container session ∧
      Session.Finished world container ∧ World.Asked queries world closed.world ∧
      Session.pursuit image.reference command container.cid settings.waitTimeout <:+: queries ∧
      ∀ other, other.name = analyzer.name → run other target fresh =
        Session.inWorld (judge template other target container) closed) := by
  intro fresh ran
  obtain ⟨events, opened, _⟩ := begun_apply analyzer target fresh
  have same : Session.run target.repositoryUrl target.branch
      ⟨.fresh image template settings connector, { world with events := events }⟩ = ran := by
    rw [← opened]
  have ends := Session.run_cases image template settings { world with events := events } connecting
    target.repositoryUrl target.branch
  simp only [same] at ends
  rcases ends with
    ⟨failure, broken, failed, alike⟩ | ⟨container, session, earlier, done, finished, _, asked⟩
  · -- A run that fails ends the scan, and only its client is given back.
    obtain ⟨final, stopped, asks⟩ := run_of_error failed
    exact Or.inl ⟨failure, broken, final, failed, stopped, asks.alike.store.trans alike.store⟩
  · -- The container is finished before the client is given back, and judged after that.
    obtain ⟨closed, closing, later, given, _⟩ := Session.close_apply session
    have whole := (World.asked_events world events).trans (asked.trans given)
    refine Or.inr ⟨container, session, closed, _, _, done, finished.earlier fun _ _ => rfl, whole,
      ⟨earlier, later, rfl⟩, fun other named => run_of_ok ?_ closing⟩
    rw [begun_congr named]
    exact done

/-- A scan that comes to its end has a finished container, whose record is new to the table; the
daemon was asked for everything on the way. -/
theorem run_kept (image : Image) (template : String) (settings : Settings) (world : World)
    (analyzer : Analyzer) (target : Target) {connector : Connector}
    (connecting : connector.OnlyConnects) {outcome : ScanOutcome} {final : Session}
    (done : run analyzer target ⟨.fresh image template settings connector, world⟩ =
      .ok outcome final) :
    ∃ cid record output result command made, Session.Finished world outcome.container ∧
      outcome.container.cid = .string cid ∧
      outcome.verdict = (analyzer.judge outcome.container.output).verdict ∧
      world.store.find? cid = none ∧
      Record.Drafted cid outcome.container (origin template analyzer target) record ∧
      final.world.store.rows =
        world.store.rows ++ [record.withoutOffsets.withTexts output result] ∧
      final.world.calls = world.calls ++ made ∧
      Session.pursuit image.reference command outcome.container.cid settings.waitTimeout <:+:
        made.map Call.query := by
  rcases run_cases image template settings world analyzer target connecting with
    ⟨_, _, _, _, failed, _⟩ | ⟨container, _, closed, _, command, _, finished, asked, within, onward⟩
  · rw [done] at failed
    cases failed
  · have silent := (judge_silent template analyzer target container).leads closed.world
    rw [onward analyzer rfl] at done
    obtain ⟨made, grown, rfl⟩ := asked.calls
    -- A judgement that fails would have been the failure of the scan.
    have judges : ∀ failure final,
        judge template analyzer target container closed.world ≠ .error failure final := by
      intro failure final failed
      have stopped := @Session.inWorld_of_error _ _ closed _ _ failed
      rw [done] at stopped
      cases stopped
    rcases judge_cases template analyzer target container closed.world finished.made with
      ⟨cid, record, output, result, judged, named, new, drafted, ended, stored, _⟩ |
      ⟨failure, final, _, failed, _⟩ | ⟨failure, final, failed, _⟩
    · have reached := @Session.inWorld_of_ok _ _ closed _ _ ended
      rw [done] at reached
      cases reached
      rw [after_of_ok ended] at silent
      rw [asked.store] at new stored
      exact ⟨cid, record, output, result, command, made, finished, named, rfl, new, drafted,
        congrArg Store.rows stored, silent.trans grown, within⟩
    · exact absurd failed (judges failure final)
    · exact absurd failed (judges failure final)

/-- What a record keeps of an output, and the verdict on that output, agree. -/
structure Agrees (raw : String) (verdict : Option Verdict) (record : Record) : Prop where
  failed : record.result = some "failed" ↔ verdict = some .failed
  passed : record.result = some "passed" ↔
    verdict = some .passed ∧ ∃ findings, RetireJs.read raw = .ok findings ∧ findings.isEmpty = false
  without : record.result = none ↔ verdict = none ∨
    (verdict = some .passed ∧
      ∃ findings, RetireJs.read raw = .ok findings ∧ findings.isEmpty = true)
  output : record.output =
    if Text.contains raw "ERROR_CLONING" then some ("Container error: " ++ raw)
    else match RetireJs.read raw with
      | .ok findings => if findings.isEmpty then some "No issues found." else none
      | .error _ => none

/-- What is kept of a judgement agrees with its verdict. -/
theorem agrees_judge {raw : String} {record : Record}
    (output : record.output = RetireJs.analyzer.keptOutput raw)
    (result : record.result = RetireJs.analyzer.keptResult raw) :
    Agrees raw (RetireJs.analyzer.judge raw).verdict record := by
  have marker : RetireJs.analyzer.marker = "ERROR_CLONING" := rfl
  have reads : RetireJs.analyzer.read = RetireJs.read := rfl
  unfold Analyzer.keptOutput at output
  unfold Analyzer.keptResult at result
  rw [marker, reads] at output result
  unfold Analyzer.judge
  rw [marker, reads]
  -- A clone that failed, an output that cannot be read and one that can are told apart alike.
  by_cases marked : Text.contains raw "ERROR_CLONING" = true
  · rw [if_pos marked] at result ⊢
    refine ⟨?_, ?_, ?_, output⟩ <;> simp [result, Judgement.ofCloneFailure]
  · rw [if_neg marked] at result ⊢
    cases read : RetireJs.read raw with
    | error why =>
      rw [read] at result
      refine ⟨?_, ?_, ?_, output⟩ <;> simp [result, read, Judgement.ofUnreadable]
    | ok findings =>
      rw [read] at result
      -- Only findings with issues leave their verdict as the result.
      by_cases empty : findings.isEmpty = true
      · simp only [if_pos empty] at result ⊢
        refine ⟨?_, ?_, ?_, output⟩ <;> simp [result, read, empty, Judgement.ofNothing]
      · simp only [if_neg empty] at result ⊢
        refine ⟨?_, ?_, ?_, output⟩ <;>
          cases found : findings.verdict <;>
            simp [result, read, empty, found, Judgement.ofFindings, Verdict.text]

/-- What is kept of a container in the end agrees with the verdict on its output. -/
theorem agrees_of_drafted {cid : String} {container : Container} {origin : Record.Origin}
    {record : Record} (drafted : Record.Drafted cid container origin record) :
    Agrees container.output (RetireJs.analyzer.judge container.output).verdict
      (record.withoutOffsets.withTexts (RetireJs.analyzer.keptOutput container.output)
        (RetireJs.analyzer.keptResult container.output)) := by
  -- The record had no texts of its own, so it has those of the judgement and no others.
  refine agrees_judge ?_ ?_
  · change Option.or _ record.output = _
    rw [drafted.output, Option.or_none]
  · change Option.or _ record.result = _
    rw [drafted.result, Option.or_none]

/-- The record and the verdict of a scan agree, and a scan without a record leaves the table alone:
the failure of the run is passed on, and a container that is known, or has no text as its
identifier, is refused before anything is judged. -/
theorem run_agrees (image : Image) (template : String) (settings : Settings) (world : World)
    (target : Target) {connector : Connector} (connecting : connector.OnlyConnects)
    (usable : world.store.isUsable = true) (up : ∀ number, world.outages number = none)
    (fits : ∀ code, world.nextExit = .ok code → Number.fitsWord code = true) :
    let fresh : Session := ⟨.fresh image template settings connector, world⟩
    let ran := Session.run target.repositoryUrl target.branch (begun RetireJs.analyzer target fresh)
    (∀ failure failed, ran = .error failure failed →
      ∃ final, run RetireJs.analyzer target fresh = .error failure final ∧
        final.world.store = world.store) ∧
    (∀ container session, ran = .ok container session →
      (∀ cid, container.cid = .string cid → (world.store.find? cid).isSome = true) →
      ∃ final, (∀ analyzer, analyzer.name = RetireJs.analyzer.name →
          run analyzer target fresh = .error .notKept final) ∧
        final.world.store = world.store ∧ final.world.updates = world.updates) ∧
    (∀ container session cid, ran = .ok container session → container.cid = .string cid →
      world.store.find? cid = none →
      ∃ verdict record final, run RetireJs.analyzer target fresh = .ok ⟨container, verdict⟩ final ∧
        final.world.store = { world.store with rows := world.store.rows ++ [record] } ∧
        record.cid = cid ∧ record.status = "finished" ∧ record.command = template ∧
        record.exitCode = container.exitCode.map Quantity.whole ∧
        Agrees container.output verdict record) := by
  intro fresh ran
  rcases run_cases image template settings world RetireJs.analyzer target connecting with
    ⟨failure, broken, final, failed, stopped, stored⟩ |
    ⟨container, session, closed, _, _, done, finished, asked, _, onward⟩
  · have failed : ran = .error failure broken := failed
    simp only [failed]
    refine ⟨?_, by simp, by simp⟩
    rintro _ _ ⟨rfl, rfl⟩
    exact ⟨final, stopped, stored⟩
  · have done : ran = .ok container session := done
    -- Asking the daemon has brought no failure to the database.
    have reached : ∀ number, closed.world.outages number = none := by
      rw [asked.outages]
      exact up
    have sized : container.exitCode.all Number.fitsWord = true := by
      obtain ⟨code, exits, exited⟩ := finished.exited
      rw [exited]
      exact fits code exits
    have judged :=
      judge_cases template RetireJs.analyzer target container closed.world finished.made
    rw [asked.store] at judged
    simp only [done]
    refine ⟨by simp, ?_, ?_⟩
    · -- A container that is known, or has no text to be known by, gets no record.
      rintro _ _ ⟨rfl, rfl⟩ known
      rcases judged with
        ⟨cid, _, _, _, _, named, new, _⟩ | ⟨failure, final, refused, _, kept, quiet, why⟩ |
        ⟨_, _, _, number, outage⟩
      · have found := known cid named
        rw [new] at found
        cases found
      · obtain ⟨rfl, _⟩ := why (reached _) usable sized
        refine ⟨{ closed with world := final }, fun analyzer named => ?_, kept,
          quiet.trans asked.updates⟩
        rw [onward analyzer named]
        refine Session.inWorld_of_error ?_
        rw [judge, origin_congr named]
        exact bind_of_error refused _
      · exact absurd (reached number) outage
    · -- A new container gets the one record that is added.
      rintro _ _ cid ⟨rfl, rfl⟩ named new
      rcases judged with
        ⟨other, record, output, result, final, again, _, drafted, done, kept, texts⟩ |
        ⟨failure, final, refused, _, _, _, why⟩ | ⟨_, _, _, number, outage⟩
      · obtain ⟨rfl, rfl⟩ := texts reached
        obtain rfl : cid = other := by
          rw [named] at again
          cases again
          rfl
        refine ⟨(RetireJs.analyzer.judge container.output).verdict, _,
          { closed with world := final }, ?_, kept, drafted.cid,
          drafted.status_of_finished finished.status, Option.some.inj drafted.command,
          drafted.exitCode, agrees_of_drafted drafted⟩
        rw [onward RetireJs.analyzer rfl]
        exact Session.inWorld_of_ok done
      · have found := (why (reached _) usable sized).2 cid named
        rw [new] at found
        cases found
      · exact absurd (reached number) outage

/-- With a daemon that answers as usual a scan gets the only record of an empty table. -/
theorem run_agrees_usual :
    let fresh : Session :=
      ⟨.fresh { name := "retirejs" } "scan %GIT_REPO%" .standard Connection.direct,
        { settings := .standard }⟩
    ∃ container verdict record final,
      run RetireJs.analyzer ⟨"repository", "main"⟩ fresh = .ok ⟨container, verdict⟩ final ∧
      final.world.store.rows = [record] ∧ record.status = "finished" ∧
      record.command = "scan %GIT_REPO%" ∧ Agrees container.output verdict record := by
  intro fresh
  have fits : ∀ code, fresh.world.nextExit = .ok code → Number.fitsWord code = true := by
    rintro code ⟨⟩
    rfl
  obtain ⟨_, _, kept⟩ := run_agrees { name := "retirejs" } "scan %GIT_REPO%" .standard
    { settings := .standard } ⟨"repository", "main"⟩ Connection.direct_onlyConnects rfl
    (fun _ => rfl) fits
  -- The run is evaluated to know that it comes through; all the rest follows.
  have done : (match Session.run "repository" "main"
        (begun RetireJs.analyzer ⟨"repository", "main"⟩ fresh) with
      | .ok container _ => decide (container.cid = .string Script.usualCid)
      | .error _ _ => false) = true := by
    decide +kernel
  split at done
  · rename_i container session ran
    obtain ⟨verdict, record, final, scanned, stored, _, status, command, _, agrees⟩ :=
      kept container session Script.usualCid ran (by simpa using done) rfl
    exact ⟨container, verdict, record, final, scanned, congrArg Store.rows stored, status, command,
      agrees⟩
  · cases done

/-- A container whose identifier is a list is run to its end and yet gets no record, although the
table knows no container at all. -/
theorem run_unrecorded_list :
    let script : Script := fun method _ =>
      if method = .createContainer then
        some (.immediate (.object [("Id", .array [.string "a"])]))
      else none
    let fresh : Session :=
      ⟨.fresh { name := "retirejs" } "scan %GIT_REPO%" .standard Connection.direct,
        { settings := .standard, script := script }⟩
    (Session.run "repository" "main" (begun RetireJs.analyzer ⟨"repository", "main"⟩ fresh)
      matches .ok _ _) = true ∧
    fresh.world.store.rows = [] ∧
    (run RetireJs.analyzer ⟨"repository", "main"⟩ fresh matches .error .notKept _) = true := by
  -- A list of one text can be shortened for the log, but no column of the table takes it.
  decide +kernel

end Scan

end ContainerScan
