import ContainerScan.Analyzer.RetireJs
import ContainerScan.Connection
import ContainerScan.Proofs.Analyzer
import ContainerScan.Proofs.Lifecycle.Operations
import ContainerScan.Proofs.Text.Utf8

/-! A scanner that could not get the repository: its word for that comes through whatever else it
writes, and decides about the scan before anything is read. -/

namespace ContainerScan

open Step

/-- A plain token is found in what is decoded of any bytes around it. -/
theorem Text.Utf8.contains_decode {token : String} (given : token ≠ "")
    (plain : ∀ c ∈ token.toList, IsPlain c.toNat) (before behind : List UInt8) :
    Text.contains (decode (before ++ encode token.toList ++ behind)) token = true := by
  have nonempty : token.toList ≠ [] := fun empty => given (String.toList_injective empty)
  -- The token parts the decoded text, so it is a stretch of it.
  rw [Text.contains, Text.occursIn_iff, decode, String.toList_ofList,
    decodeFrom_around_plain nonempty plain]
  exact ⟨_, _, rfl⟩

namespace Analyzer

variable (analyzer : Analyzer) {raw : String}

/-- An output with the marker is judged by the marker alone. -/
theorem judge_of_marker (marked : Text.contains raw analyzer.marker = true) :
    analyzer.judge raw = .ofCloneFailure raw := by
  rw [judge, if_pos marked]

/-- Over an output with the marker two analyzers agree however they read. -/
theorem evaluate_ignores_read (marked : Text.contains raw analyzer.marker = true)
    (read : String → Except Unreadable Findings) (gateway : Gateway) (cid : String) :
    { analyzer with read := read }.evaluate gateway cid raw =
      analyzer.evaluate gateway cid raw := by
  have same : { analyzer with read := read }.judge raw = analyzer.judge raw := by
    rw [judge_of_marker analyzer marked]
    exact judge_of_marker { analyzer with read := read } marked
  -- Beside the judgement only the name of the analyzer has a part in an evaluation.
  rw [evaluate, evaluate, same]
  rfl

/-- What is asked of a record after a failed clone. -/
def cloneFailureFields (raw : String) : Fields :=
  [("output", .text ("Container error: " ++ raw)), ("result", .text "failed")]

/-- An output with the marker is noted, then asks for one change of the record, and fails. -/
theorem evaluate_of_marker (marked : Text.contains raw analyzer.marker = true) (cid : String)
    (world : World) :
    ∃ events, ∀ gateway, analyzer.evaluate gateway cid raw world =
      (persist gateway (analyzer.logger cid) cid (cloneFailureFields raw) >>= fun _ =>
        pure (some .failed)) { world with events := events } := by
  obtain ⟨events, noted⟩ :=
    logNotes_apply (analyzer.logger cid) (analyzer.judge raw).notes world
  refine ⟨events, fun gateway => ?_⟩
  -- The notes are written first, whatever gateway there is.
  have opened : analyzer.evaluate gateway cid raw world =
      (write gateway (analyzer.logger cid) cid (analyzer.judge raw).update >>= fun _ =>
        pure (analyzer.judge raw).verdict) { world with events := events } := bind_of_ok noted _
  rw [opened, judge_of_marker analyzer marked]
  rfl

/-- The verdict on an output with the marker stands whether or not the record could be changed. -/
theorem evaluate_of_marker_cases (marked : Text.contains raw analyzer.marker = true) (cid : String)
    (world : World) :
    ∃ events, ∀ gateway : Gateway,
      (∀ final, gateway cid (cloneFailureFields raw) { world with events := events } =
          .ok () final →
        analyzer.evaluate gateway cid raw world = .ok (some .failed) final) ∧
      (∀ failure middle, gateway cid (cloneFailureFields raw) { world with events := events } =
          .error failure middle → failure.isPersistence = true →
        ∃ told, analyzer.evaluate gateway cid raw world =
          .ok (some .failed) { middle with events := told }) := by
  obtain ⟨events, opened⟩ := evaluate_of_marker analyzer marked cid world
  refine ⟨events, fun gateway => ⟨fun final done => ?_, fun failure middle refused own => ?_⟩⟩
  · rw [opened gateway]
    exact bind_of_ok (handling_of_ok done _ _) _
  · -- A record that could not be changed is only told of in the log.
    obtain ⟨told, logged⟩ := World.log_apply (analyzer.logger cid) .error
      "Error updating container record" [("error", .string failure.text)] middle
    have handled := handling_of_error refused Failure.isPersistence fun failure =>
      World.log (analyzer.logger cid) .error "Error updating container record"
        [("error", .string failure.text)]
    rw [if_pos own, logged] at handled
    refine ⟨told, ?_⟩
    rw [opened gateway]
    exact bind_of_ok handled _

/-- Over an output with the marker the records of the container get the failure, and no others. -/
theorem evaluate_of_marker_kept (marked : Text.contains raw analyzer.marker = true) (cid : String)
    {world : World} (usable : world.store.isUsable = true)
    (up : world.outages world.requests = none) :
    ∃ final, analyzer.evaluate Keeping.update cid raw world = .ok (some .failed) final ∧
      final.updates = world.updates ++ [(cid, cloneFailureFields raw)] ∧
      final.store = { world.store with
        rows := Store.rowsWithTexts world.store.rows cid (some ("Container error: " ++ raw))
          (some "failed") } := by
  obtain ⟨events, cases⟩ := evaluate_of_marker_cases analyzer marked cid world
  let noted : World := { world with events := events }
  -- A change of output and result is one that the records take.
  have given : some ("Container error: " ++ raw) ≠ none ∨ some "failed" ≠ none := Or.inl (by simp)
  obtain ⟨told, done⟩ := @Keeping.update_ofTexts noted usable up cid _ _ given
  exact ⟨_, (cases Keeping.update).1 _ done, rfl, rfl⟩

end Analyzer

namespace Session

/-- Where the daemon sends the marker of a failed clone among any other bytes, the output is read,
and holds the marker. Every analyzer that keeps the usual marker then fails the scan, however it
would read the output, and asks for one change of the record: that to the failure. -/
theorem readOutput_evaluate_cloneFailure {session : Session}
    (connected : session.lifecycle.connected = true) (before behind : List UInt8)
    (sent : (session.world.nextOutcome .logs).result =
      .ok (.bytes (before ++ Text.Utf8.encode "ERROR_CLONING".toList ++ behind))) :
    ∃ text after, readOutput session = .ok text after ∧
      after.lifecycle.container.output = text ∧
      Text.contains text "ERROR_CLONING" = true ∧
      ∀ analyzer : Analyzer, analyzer.marker = "ERROR_CLONING" → ∀ cid world,
        (∀ read gateway, { analyzer with read := read }.evaluate gateway cid text =
          analyzer.evaluate gateway cid text) ∧
        (∃ events, ∀ gateway : Gateway,
          let asked := gateway cid
            [("output", .text ("Container error: " ++ text)), ("result", .text "failed")]
            { world with events := events }
          (∀ final, asked = .ok () final →
            analyzer.evaluate gateway cid text world = .ok (some .failed) final) ∧
          (∀ failure middle, asked = .error failure middle → failure.isPersistence = true →
            ∃ told, analyzer.evaluate gateway cid text world =
              .ok (some .failed) { middle with events := told })) ∧
        (world.store.isUsable = true → world.outages world.requests = none →
          ∃ final, analyzer.evaluate Keeping.update cid text world = .ok (some .failed) final ∧
            final.updates = world.updates ++
              [(cid, [("output", .text ("Container error: " ++ text)),
                ("result", .text "failed")])] ∧
            final.store.rows = world.store.rows.map fun record =>
              if record.cid = cid then { record with
                output := some ("Container error: " ++ text), result := some "failed" }
              else record) := by
  let bytes := before ++ Text.Utf8.encode "ERROR_CLONING".toList ++ behind
  have awaited : session.world.nextOutput = .ok bytes := by
    rw [World.nextOutput, sent]
    rfl
  -- The token is plain, so it stands in the text that is decoded.
  have plain : ∀ c ∈ "ERROR_CLONING".toList, Text.Utf8.IsPlain c.toNat := by
    simp [Text.Utf8.IsPlain]
  have found : Text.contains (Text.Utf8.decode bytes) "ERROR_CLONING" = true :=
    Text.Utf8.contains_decode (by decide) plain before behind
  -- Bytes have come, so the output is read and kept as the decoded text.
  rcases readOutput_cases connected with
    ⟨read, after, expected, done, _, kept⟩ | ⟨cause, failure, after, lost, _⟩
  · obtain rfl : read = bytes := by
      rw [awaited] at expected
      cases expected
      rfl
    refine ⟨_, after, done, by rw [kept], found, fun analyzer usual cid world => ?_⟩
    have marked : Text.contains (Text.Utf8.decode bytes) analyzer.marker = true := by
      rw [usual]
      exact found
    refine ⟨fun read gateway => analyzer.evaluate_ignores_read marked read gateway cid,
      analyzer.evaluate_of_marker_cases marked cid world, fun usable up => ?_⟩
    obtain ⟨final, ended, asked, stored⟩ := analyzer.evaluate_of_marker_kept marked cid usable up
    exact ⟨final, ended, asked, by rw [stored]; rfl⟩
  · rw [awaited] at lost
    cases lost

/-- The marker is found between half a character and a byte that is none, and fails the scan with
the record changed, and without where the record is refused. -/
theorem readOutput_evaluate_cloneFailure_damaged :
    let marked : List UInt8 := [0xE2, 0x82] ++ Text.Utf8.encode "ERROR_CLONING".toList ++ [0xFF]
    let script : Script := fun method _ =>
      if method = .logs then some ⟨0, .ok (.bytes marked)⟩ else none
    let lifecycle := Lifecycle.fresh { name := "retirejs" } "scan" .standard Connection.direct
    let session : Session :=
      ⟨{ lifecycle with connected := true }, { settings := .standard, script := script }⟩
    ∃ text after, readOutput session = .ok text after ∧
      Text.contains text "ERROR_CLONING" = true ∧
      (∃ final, RetireJs.analyzer.evaluate Keeping.update "4f1c" text { settings := .standard } =
          .ok (some .failed) final ∧
        final.updates = [("4f1c", [("output", .text ("Container error: " ++ text)),
          ("result", .text "failed")])]) ∧
      ∃ final, RetireJs.analyzer.evaluate (fun _ _ world => .error (.persistence "full") world)
        "4f1c" text { settings := .standard } = .ok (some .failed) final := by
  intro marked script lifecycle session
  -- The marker stands between a broken character and a byte that no character has.
  obtain ⟨text, after, done, _, found, judged⟩ :=
    @readOutput_evaluate_cloneFailure session rfl [0xE2, 0x82] [0xFF] rfl
  obtain ⟨_, ⟨events, gateways⟩, kept⟩ := judged RetireJs.analyzer rfl "4f1c"
    { settings := .standard }
  obtain ⟨final, ended, asked, _⟩ := kept rfl rfl
  obtain ⟨told, refused⟩ := (gateways fun _ _ world => .error (.persistence "full") world).2 _ _
    rfl rfl
  exact ⟨text, after, done, found, ⟨final, ended, asked⟩, _, refused⟩

end Session

end ContainerScan
