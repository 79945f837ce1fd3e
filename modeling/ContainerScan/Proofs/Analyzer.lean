import ContainerScan.Analyzer.Basic
import ContainerScan.Proofs.Record.Keeping

/-! What an evaluation keeps of an output in the record of its container, beside the verdict. -/

namespace ContainerScan

/-- A vulnerability fails a scan exactly if its severity is medium or high. -/
theorem Vulnerability.isFailing_iff (vulnerability : Vulnerability) :
    vulnerability.isFailing = true ↔
      vulnerability.level = some .medium ∨ vulnerability.level = some .high := by
  unfold isFailing
  rcases vulnerability.level with _ | (_ | _ | _) <;> decide

/-- A scan is passed exactly if no vulnerability is of medium or high severity. -/
theorem Findings.verdict_passed_iff (findings : Findings) :
    findings.verdict = .passed ↔ ∀ vulnerability ∈ findings.vulnerabilities,
      vulnerability.level ≠ some .medium ∧ vulnerability.level ≠ some .high := by
  -- The verdict looks for one failing vulnerability, so passing says that there is none.
  have failing : findings.verdict = .passed ↔
      findings.vulnerabilities.any Vulnerability.isFailing = false := by
    unfold verdict
    cases findings.vulnerabilities.any Vulnerability.isFailing <;> decide
  rw [failing, List.any_eq_false]
  simp only [Vulnerability.isFailing_iff, not_or]

/-- Findings without issues have no vulnerabilities either. -/
theorem Findings.verdict_of_isEmpty {findings : Findings} (empty : findings.isEmpty = true) :
    findings.verdict = .passed := by
  obtain ⟨issues⟩ := findings
  obtain rfl : issues = [] := by simpa [isEmpty] using empty
  rfl

namespace Analyzer

open Step

/-- The text that a record gets as its output. -/
def keptOutput (analyzer : Analyzer) (raw : String) : Option String :=
  if Text.contains raw analyzer.marker then some ("Container error: " ++ raw)
  else match analyzer.read raw with
    | .ok findings => if findings.isEmpty then some "No issues found." else none
    | .error _ => none

/-- The text that a record gets as its result. -/
def keptResult (analyzer : Analyzer) (raw : String) : Option String :=
  if Text.contains raw analyzer.marker then some "failed"
  else match analyzer.read raw with
    | .ok findings => if findings.isEmpty then none else some findings.verdict.text
    | .error _ => none

/-- What a judgement changes of a record are those two texts, as far as there are any. -/
theorem judge_update (analyzer : Analyzer) (raw : String) :
    ((analyzer.judge raw).update = none ∧
      analyzer.keptOutput raw = none ∧ analyzer.keptResult raw = none) ∨
    ((analyzer.judge raw).update =
        some (.ofTexts (analyzer.keptOutput raw) (analyzer.keptResult raw)) ∧
      (analyzer.keptOutput raw ≠ none ∨ analyzer.keptResult raw ≠ none)) := by
  -- The three definitions ask the same questions in the same order.
  unfold judge keptOutput keptResult
  by_cases marked : Text.contains raw analyzer.marker = true
  · simp only [if_pos marked]
    exact Or.inr ⟨rfl, Or.inl (by simp)⟩
  · simp only [if_neg marked]
    cases analyzer.read raw with
    | error why => exact Or.inl ⟨rfl, rfl, rfl⟩
    | ok findings =>
      -- A report without issues gets an output alone, one with issues a result alone.
      by_cases empty : findings.isEmpty = true
      · simp only [if_pos empty]
        exact Or.inr ⟨rfl, Or.inl (by simp)⟩
      · simp only [if_neg empty]
        exact Or.inr ⟨rfl, Or.inr (by simp)⟩

/-- An output is passed exactly if it lacks the marker, can be read, and its findings pass. -/
theorem judge_passed_iff (analyzer : Analyzer) (raw : String) :
    (analyzer.judge raw).verdict = some .passed ↔
      Text.contains raw analyzer.marker = false ∧
        ∃ findings, analyzer.read raw = .ok findings ∧ findings.verdict = .passed := by
  -- Findings without issues are passed like others that hold nothing grave.
  unfold judge
  cases marked : Text.contains raw analyzer.marker with
  | true => simp [Judgement.ofCloneFailure]
  | false =>
    cases read : analyzer.read raw with
    | error why => simp [Judgement.ofUnreadable]
    | ok findings =>
      by_cases empty : findings.isEmpty = true
      · simp [empty, Judgement.ofNothing, Findings.verdict_of_isEmpty empty]
      · simp [empty, Judgement.ofFindings]

/-- Notes are logged without fail. -/
theorem logNotes_apply (logger : Logger) (notes : List (Level × String × Event)) (world : World) :
    ∃ events, logNotes logger notes world = .ok () { world with events := events } := by
  -- Each note is written into a world that differs from the one before in its events.
  induction notes generalizing world with
  | nil => exact ⟨world.events, rfl⟩
  | cons note rest ih =>
    obtain ⟨level, message, fields⟩ := note
    obtain ⟨events, logged⟩ := World.log_apply logger level message fields world
    obtain ⟨more, followed⟩ := ih { world with events := events }
    exact ⟨more, (bind_of_ok logged _).trans followed⟩

/-- An update of the newest record is made, or is dropped, or the failure of the database passes. -/
theorem persist_newest (logger : Logger) {world : World} {old : List Record} {newest : Record}
    (usable : world.store.isUsable = true) (rows : world.store.rows = old ++ [newest])
    (new : ∀ record ∈ old, record.cid ≠ newest.cid) {output result : Option String}
    (given : output ≠ none ∨ result ≠ none) :
    (∃ final, persist Keeping.update logger newest.cid (.ofTexts output result) world =
        .ok () final ∧
      final.store = { world.store with rows := old ++ [newest.withTexts output result] }) ∨
    (world.outages world.requests ≠ none ∧
      (after (persist Keeping.update logger newest.cid (.ofTexts output result)) world).store =
        world.store) := by
  rcases Keeping.update_newest usable rows new given with
    ⟨final, done, stored⟩ | ⟨cause, failure, middle, outage, failed, stored⟩
  · exact Or.inl ⟨final, handling_of_ok done _ _, stored⟩
  · refine Or.inr ⟨by simp [outage], ?_⟩
    -- Logging a refusal leaves the store as the failed update left it.
    have handled := handling_of_error failed Failure.isPersistence fun failure =>
      World.log logger .error "Error updating container record" [("error", .string failure.text)]
    by_cases persistence : failure.isPersistence = true
    · obtain ⟨events, logged⟩ := World.log_apply logger .error "Error updating container record"
        [("error", .string failure.text)] middle
      rw [if_pos persistence, logged] at handled
      have ended := after_of_ok handled
      rw [persist, ended]
      exact stored
    · rw [if_neg persistence] at handled
      have ended := after_of_error handled
      rw [persist, ended]
      exact stored

/-- The record of a container that was kept just now gets the texts of the judgement on its output,
or none of them where the database fails. -/
theorem evaluate_newest (analyzer : Analyzer) (raw : String) {world : World} {old : List Record}
    {newest : Record} (usable : world.store.isUsable = true)
    (rows : world.store.rows = old ++ [newest]) (new : ∀ record ∈ old, record.cid ≠ newest.cid) :
    (∃ final, analyzer.evaluate Keeping.update newest.cid raw world =
        .ok (analyzer.judge raw).verdict final ∧
      final.store = { world.store with rows :=
        old ++ [newest.withTexts (analyzer.keptOutput raw) (analyzer.keptResult raw)] }) ∨
    (world.outages world.requests ≠ none ∧
      (after (analyzer.evaluate Keeping.update newest.cid raw) world).store = world.store ∧
      ∀ verdict final, analyzer.evaluate Keeping.update newest.cid raw world = .ok verdict final →
        verdict = (analyzer.judge raw).verdict) := by
  let logger := analyzer.logger newest.cid
  obtain ⟨events, noted⟩ := logNotes_apply logger (analyzer.judge raw).notes world
  let begun : World := { world with events := events }
  have opened : analyzer.evaluate Keeping.update newest.cid raw world =
      (write Keeping.update logger newest.cid (analyzer.judge raw).update >>= fun _ =>
        pure (analyzer.judge raw).verdict) begun :=
    bind_of_ok noted _
  rw [after, opened, ← after]
  -- Where the judgement changes nothing, the record is the one with no texts of it.
  rcases judge_update analyzer raw with ⟨unchanged, noOutput, noResult⟩ | ⟨changed, given⟩
  · rw [unchanged, noOutput, noResult]
    refine Or.inl ⟨begun, rfl, ?_⟩
    change world.store = { world.store with rows := old ++ [newest] }
    rw [← rows]
  · rw [changed]
    rcases @persist_newest logger begun old newest usable rows new _ _ given with
      ⟨final, done, stored⟩ | ⟨outage, stored⟩
    · exact Or.inl ⟨final, bind_of_ok done _, stored⟩
    · -- An outage takes the change away, but the verdict is what is returned behind it.
      refine Or.inr ⟨outage, ?_, fun verdict final done => ?_⟩
      · rw [after_bind_pure]
        exact stored
      · obtain ⟨_, _, _, ended⟩ := bind_ok_iff.mp done
        cases ended
        rfl

/-- Notes are logged in silence. -/
theorem logNotes_silent (logger : Logger) (notes : List (Level × String × Event)) :
    Follows World.Silent (logNotes logger notes) := by
  induction notes with
  | nil => exact follows_pure _
  | cons note rest ih => exact (World.log_silent ..).bind fun _ => ih

/-- An evaluation asks the daemon nothing. -/
theorem evaluate_silent (analyzer : Analyzer) (cid raw : String) :
    Follows World.Silent (analyzer.evaluate Keeping.update cid raw) := by
  -- Notes are silent, and at most one change of a record comes behind them.
  refine (logNotes_silent ..).bind fun _ => Follows.bind ?_ fun _ => follows_pure _
  cases (analyzer.judge raw).update with
  | some fields => exact (Keeping.update_silent ..).handling _ fun _ => World.log_silent ..
  | none => exact follows_pure _

end Analyzer

end ContainerScan
