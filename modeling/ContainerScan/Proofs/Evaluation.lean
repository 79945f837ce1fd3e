import ContainerScan.Analyzer.RetireJs
import ContainerScan.Json.Renderer
import ContainerScan.Proofs.Analyzer

/-! What an evaluation comes to: a verdict, and at most one change of a record, whatever becomes of that
change. Neither depends on whether the change could be made. -/

namespace ContainerScan

open Step

/-- A gateway that makes every change or refuses it, where each attempt leaves its trace. -/
def Gateway.Answers (gateway : Gateway) : Prop :=
  ∀ cid fields world, ∃ final, final.updates = world.updates ++ [(cid, fields)] ∧
    (gateway cid fields world = .ok () final ∨
      ∃ failure, failure.isPersistence = true ∧ gateway cid fields world = .error failure final)

/-- Whether a change of a record sets its result. -/
def Fields.SetsResult (fields : Fields) : Prop :=
  ∃ value, ("result", value) ∈ fields

/-- What an evaluation comes to: its verdict, and the changes that it attempts. -/
structure Conclusion where
  verdict : Option Verdict
  attempts : List (String × Fields)

namespace Judgement

/-- What a judgement on the output of a container comes to. -/
def conclusion (judgement : Judgement) (cid : String) : Conclusion where
  verdict := judgement.verdict
  attempts := (judgement.update.map fun fields => (cid, fields)).toList

end Judgement

namespace Analyzer

/-- An evaluation never fails, and comes to the same whichever gateway takes its change. -/
def Concludes (analyzer : Analyzer) (cid raw : String) (conclusion : Conclusion) : Prop :=
  ∀ gateway : Gateway, gateway.Answers → ∀ world, ∃ final,
    analyzer.evaluate gateway cid raw world = .ok conclusion.verdict final ∧
      final.updates = world.updates ++ conclusion.attempts

section Attempts

variable {gateway : Gateway} (answers : gateway.Answers) (logger : Logger) (cid : String)
  (world : World)

include answers

/-- A change is attempted once, and a refusal goes no further than the log. -/
theorem persist_attempts (fields : Fields) :
    ∃ final, persist gateway logger cid fields world = .ok () final ∧
      final.updates = world.updates ++ [(cid, fields)] := by
  obtain ⟨final, traced, done | ⟨failure, own, refused⟩⟩ := answers cid fields world
  · exact ⟨final, handling_of_ok done _ _, traced⟩
  · -- The event about the refusal leaves the trace of the attempt as it is.
    obtain ⟨events, logged⟩ := World.log_apply logger .error "Error updating container record"
      [("error", .string failure.text)] final
    have handled := handling_of_error refused Failure.isPersistence fun failure =>
      World.log logger .error "Error updating container record" [("error", .string failure.text)]
    rw [if_pos own, logged] at handled
    exact ⟨_, handled, traced⟩

/-- What a judgement has to change is attempted, and nothing else. -/
theorem write_attempts (update : Option Fields) :
    ∃ final, write gateway logger cid update world = .ok () final ∧
      final.updates = world.updates ++ (update.map fun fields => (cid, fields)).toList := by
  cases update with
  | none => exact ⟨world, rfl, (List.append_nil _).symm⟩
  | some fields => exact persist_attempts answers logger cid world fields

end Attempts

/-- An evaluation comes to what the judgement on the output does. -/
theorem concludes_judge (analyzer : Analyzer) (cid raw : String) :
    analyzer.Concludes cid raw ((analyzer.judge raw).conclusion cid) := by
  intro gateway answers world
  -- The notes come first, and leave no trace but in the log.
  obtain ⟨events, noted⟩ := logNotes_apply (analyzer.logger cid) (analyzer.judge raw).notes world
  obtain ⟨final, written, traced⟩ := write_attempts answers (analyzer.logger cid) cid
    { world with events := events } (analyzer.judge raw).update
  exact ⟨final, (bind_of_ok noted _).trans (bind_of_ok written _), traced⟩

/-- The four judgements, and when each of them is made. -/
theorem judge_cases (analyzer : Analyzer) (raw : String) :
    (Text.contains raw analyzer.marker = true ∧ analyzer.judge raw = .ofCloneFailure raw) ∨
    (Text.contains raw analyzer.marker = false ∧
      ((∃ why, analyzer.read raw = .error why ∧ analyzer.judge raw = .ofUnreadable raw why) ∨
      ∃ findings, analyzer.read raw = .ok findings ∧
        ((findings.issues = [] ∧ analyzer.judge raw = .ofNothing) ∨
          (findings.issues ≠ [] ∧ analyzer.judge raw = .ofFindings findings)))) := by
  -- The marker is looked for first, and only without it is the text read.
  unfold judge
  cases marked : Text.contains raw analyzer.marker with
  | true => exact Or.inl ⟨rfl, rfl⟩
  | false =>
    refine Or.inr ⟨rfl, ?_⟩
    cases read : analyzer.read raw with
    | error why => exact Or.inl ⟨why, rfl, rfl⟩
    | ok findings =>
      refine Or.inr ⟨findings, rfl, ?_⟩
      by_cases empty : findings.issues = []
      · exact Or.inl ⟨empty, by simp [Findings.isEmpty, empty]⟩
      · exact Or.inr ⟨empty, by simp [Findings.isEmpty, empty]⟩

/-- Outputs without the marker that are read alike come to the same. -/
theorem concludes_alike (analyzer : Analyzer) {first second : String}
    (unmarked : Text.contains first analyzer.marker = false)
    (noMarker : Text.contains second analyzer.marker = false)
    (alike : ∀ findings, analyzer.read first = .ok findings ↔ analyzer.read second = .ok findings)
    (cid : String) :
    ∃ conclusion, analyzer.Concludes cid first conclusion ∧
      analyzer.Concludes cid second conclusion := by
  have same : (analyzer.judge first).conclusion cid = (analyzer.judge second).conclusion cid := by
    cases read : analyzer.read first with
    | ok findings => simp [judge, unmarked, noMarker, read, (alike findings).mp read]
    | error why =>
      cases other : analyzer.read second with
      | ok findings =>
        rw [(alike findings).mpr other] at read
        cases read
      | error reason =>
        -- Whatever is wrong with either output, there is neither a verdict nor a change.
        simp [judge, unmarked, noMarker, read, other, Judgement.conclusion, Judgement.ofUnreadable]
  exact ⟨_, concludes_judge analyzer cid first, same ▸ concludes_judge analyzer cid second⟩

/-- What an output and the analyzer for it warrant of a conclusion. -/
structure Warrants (analyzer : Analyzer) (cid raw : String) (conclusion : Conclusion) : Prop where
  once : conclusion.attempts.length ≤ 1
  own : ∀ attempt ∈ conclusion.attempts, attempt.1 = cid
  undecided_iff : conclusion.verdict = none ↔
    Text.contains raw analyzer.marker = false ∧ ∃ why, analyzer.read raw = .error why
  idle_iff : conclusion.attempts = [] ↔ conclusion.verdict = none
  result : ∀ attempt ∈ conclusion.attempts, ∀ value, ("result", value) ∈ attempt.2 →
    ∃ verdict, conclusion.verdict = some verdict ∧ value = .text verdict.text
  withoutResult_iff : (∃ attempt ∈ conclusion.attempts, ¬Fields.SetsResult attempt.2) ↔
    Text.contains raw analyzer.marker = false ∧
      ∃ findings, analyzer.read raw = .ok findings ∧ findings.issues = []
  withoutResult : (∃ attempt ∈ conclusion.attempts, ¬Fields.SetsResult attempt.2) →
    conclusion.verdict = some .passed
  marked : Text.contains raw analyzer.marker = true →
    ∀ read, { analyzer with read := read }.Concludes cid raw conclusion

section Judgements

variable {analyzer : Analyzer} {raw : String} (cid : String)

/-- The marker warrants a failure, with the output and the result in one change. -/
theorem warrants_cloneFailure (marked : Text.contains raw analyzer.marker = true) :
    analyzer.Warrants cid raw ((Judgement.ofCloneFailure raw).conclusion cid) where
  once := Nat.le_refl 1
  own := by simp [Judgement.conclusion, Judgement.ofCloneFailure]
  undecided_iff := by simp [Judgement.conclusion, Judgement.ofCloneFailure, marked]
  idle_iff := by simp [Judgement.conclusion, Judgement.ofCloneFailure]
  result := by simp [Judgement.conclusion, Judgement.ofCloneFailure, Verdict.text]
  withoutResult_iff := by
    simp [Judgement.conclusion, Judgement.ofCloneFailure, Fields.SetsResult, marked]
  withoutResult := by simp [Judgement.conclusion, Judgement.ofCloneFailure, Fields.SetsResult]
  marked := fun _ read => by
    -- Whatever it reads, an analyzer with this marker makes the same judgement.
    have concludes := concludes_judge { analyzer with read := read } cid raw
    rwa [judge, if_pos marked] at concludes

/-- An output that cannot be read warrants neither a verdict nor a change. -/
theorem warrants_unreadable (unmarked : Text.contains raw analyzer.marker = false)
    {why : Unreadable} (unread : analyzer.read raw = .error why) :
    analyzer.Warrants cid raw ((Judgement.ofUnreadable raw why).conclusion cid) where
  -- Nothing is attempted, so most of the promises are about nothing.
  once := Nat.zero_le 1
  own := nofun
  undecided_iff := by simp [Judgement.conclusion, Judgement.ofUnreadable, unmarked, unread]
  idle_iff := by simp [Judgement.conclusion, Judgement.ofUnreadable]
  result := nofun
  withoutResult_iff := by simp [Judgement.conclusion, Judgement.ofUnreadable, unread]
  withoutResult := by simp [Judgement.conclusion, Judgement.ofUnreadable]
  marked := by simp [unmarked]

/-- A report without issues warrants that it passes, with the output changed alone. -/
theorem warrants_nothing (unmarked : Text.contains raw analyzer.marker = false)
    {findings : Findings} (read : analyzer.read raw = .ok findings)
    (empty : findings.issues = []) :
    analyzer.Warrants cid raw (Judgement.ofNothing.conclusion cid) where
  -- The one attempt sets the output and leaves the result alone.
  once := Nat.le_refl 1
  own := by simp [Judgement.conclusion, Judgement.ofNothing]
  undecided_iff := by simp [Judgement.conclusion, Judgement.ofNothing, read]
  idle_iff := by simp [Judgement.conclusion, Judgement.ofNothing]
  result := by simp [Judgement.conclusion, Judgement.ofNothing]
  withoutResult_iff := by
    simp [Judgement.conclusion, Judgement.ofNothing, Fields.SetsResult, unmarked, read, empty]
  withoutResult := fun _ => rfl
  marked := by simp [unmarked]

/-- A report with issues warrants the verdict on them, with the result changed alone. -/
theorem warrants_findings (unmarked : Text.contains raw analyzer.marker = false)
    {findings : Findings} (read : analyzer.read raw = .ok findings)
    (some : findings.issues ≠ []) :
    analyzer.Warrants cid raw ((Judgement.ofFindings findings).conclusion cid) where
  -- The one attempt sets the result, and with it the verdict.
  once := Nat.le_refl 1
  own := by simp [Judgement.conclusion, Judgement.ofFindings]
  undecided_iff := by simp [Judgement.conclusion, Judgement.ofFindings, read]
  idle_iff := by simp [Judgement.conclusion, Judgement.ofFindings]
  result := by simp [Judgement.conclusion, Judgement.ofFindings]
  withoutResult_iff := by
    simp [Judgement.conclusion, Judgement.ofFindings, Fields.SetsResult, read, some]
  withoutResult := by simp [Judgement.conclusion, Judgement.ofFindings, Fields.SetsResult]
  marked := by simp [unmarked]

end Judgements

/-- Every evaluation, with any way of reading and any marker, comes to one conclusion for all
gateways: a change with a result carries the verdict, one without is about a report without issues,
and where there is no verdict there is no change. -/
theorem evaluate_concludes (analyzer : Analyzer) (cid raw : String) :
    ∃ conclusion, analyzer.Concludes cid raw conclusion ∧
      analyzer.Warrants cid raw conclusion := by
  refine ⟨_, concludes_judge analyzer cid raw, ?_⟩
  rcases judge_cases analyzer raw with
    ⟨marked, judged⟩ | ⟨unmarked, ⟨why, unread, judged⟩ | ⟨findings, read, outcome⟩⟩
  · rw [judged]
    exact warrants_cloneFailure cid marked
  · rw [judged]
    exact warrants_unreadable cid unmarked unread
  · -- Whether there are issues decides what is changed.
    rcases outcome with ⟨empty, judged⟩ | ⟨some, judged⟩
    · rw [judged]
      exact warrants_nothing cid unmarked read empty
    · rw [judged]
      exact warrants_findings cid unmarked read some

/-- One report under a gateway that makes changes and under one that refuses them: the verdict and
the one change that is attempted are the same. -/
theorem evaluate_concludes_refused :
    let making : Gateway := World.noteUpdate
    let refusing : Gateway := fun cid fields => do
      World.noteUpdate cid fields
      throw (.persistence "no space left")
    let world : World := { settings := .standard }
    let report : Json := .object [("data", .array [.object [("file", .string "a.js")]])]
    making.Answers ∧ refusing.Answers ∧ ∃ verdict attempts made refused,
      RetireJs.analyzer.evaluate making "4f1c" report.render world = .ok (some verdict) made ∧
      RetireJs.analyzer.evaluate refusing "4f1c" report.render world = .ok (some verdict) refused ∧
      made.updates = [("4f1c", attempts)] ∧ refused.updates = [("4f1c", attempts)] := by
  intro making refusing world report
  have makes : making.Answers := fun cid fields world => ⟨_, rfl, Or.inl rfl⟩
  have refuses : refusing.Answers := fun cid fields world => ⟨_, rfl, Or.inr ⟨_, rfl, rfl⟩⟩
  refine ⟨makes, refuses, ?_⟩
  -- One conclusion holds for both gateways, which is why their attempts are the same.
  obtain ⟨⟨verdict, attempts⟩, concludes, warrants⟩ :=
    evaluate_concludes RetireJs.analyzer "4f1c" report.render
  obtain ⟨made, madeEnd, madeTrace⟩ := concludes making makes world
  obtain ⟨refused, refusedEnd, refusedTrace⟩ := concludes refusing refuses world
  -- The report is read, so there is a verdict, and with it an attempt.
  have decided : verdict ≠ none := fun undecided => by
    obtain ⟨-, why, unread⟩ := warrants.undecided_iff.mp undecided
    have read : (RetireJs.analyzer.read report.render).isOk = true := by decide +kernel
    rw [unread] at read
    cases read
  obtain ⟨verdict, rfl⟩ := Option.ne_none_iff_exists'.mp decided
  obtain ⟨⟨cid, fields⟩, rfl⟩ : ∃ attempt, attempts = [attempt] := by
    have some : attempts ≠ [] := fun none => decided (warrants.idle_iff.mp none)
    have once := warrants.once
    exact List.length_eq_one_iff.mp (Nat.le_antisymm once (List.length_pos_iff.mpr some))
  obtain rfl : cid = "4f1c" := warrants.own _ (List.mem_singleton_self _)
  exact ⟨verdict, fields, made, refused, madeEnd, refusedEnd, madeTrace, refusedTrace⟩

end Analyzer

end ContainerScan
