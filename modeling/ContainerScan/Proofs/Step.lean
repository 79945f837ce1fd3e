import ContainerScan.World
import Mathlib.Order.Defs.Unbundled

/-! Activities taken apart: how a sequence of them ends, and what every ending keeps. -/

namespace ContainerScan.Step

variable {σ α β : Type}

/-- The state that an activity leaves behind, whether or not it fails. -/
def after (act : Step σ α) (state : σ) : σ :=
  match act state with
  | .ok _ final => final
  | .error _ final => final

/-- What comes of an activity: its value, or the failure that stopped it. -/
def result (act : Step σ α) (state : σ) : Except Failure α :=
  match act state with
  | .ok value _ => .ok value
  | .error failure _ => .error failure

/-- A successful activity leaves its final state. -/
theorem after_of_ok {act : Step σ α} {state final : σ} {value : α}
    (done : act state = .ok value final) : after act state = final := by
  simp [after, done]

/-- A failed activity leaves the state in which it failed. -/
theorem after_of_error {act : Step σ α} {state final : σ} {failure : Failure}
    (failed : act state = .error failure final) : after act state = final := by
  simp [after, failed]

/-- What comes of a success is its value. -/
theorem result_of_ok {act : Step σ α} {state final : σ} {value : α}
    (done : act state = .ok value final) : result act state = .ok value := by
  simp [result, done]

/-- What comes of a failure is that failure. -/
theorem result_of_error {act : Step σ α} {state final : σ} {failure : Failure}
    (failed : act state = .error failure final) : result act state = .error failure := by
  simp [result, failed]

/-- An activity of which a value comes has succeeded with it, and left its final state. -/
theorem ok_of_result {act : Step σ α} {state : σ} {value : α} (found : result act state = .ok value) :
    act state = .ok value (after act state) := by
  -- A failure has no value.
  cases ended : act state with
  | ok other final =>
    rw [result_of_ok ended] at found
    rw [after_of_ok ended, Except.ok.inj found]
  | error failure final =>
    rw [result_of_error ended] at found
    cases found

/-- Activities that end alike leave the same state. -/
theorem after_of_eq {act other : Step σ α} {state middle : σ} (same : act state = other middle) :
    after act state = after other middle := by
  rw [after, same, ← after]

/-- Activities that end alike have the same result. -/
theorem result_of_eq {act other : Step σ α} {state middle : σ} (same : act state = other middle) :
    result act state = result other middle := by
  rw [result, same, ← result]

/-- A sequence goes on from the end of its first activity, unless that fails. -/
theorem bind_apply (act : Step σ α) (next : α → Step σ β) (state : σ) :
    (act >>= next) state =
      match act state with
      | .ok value middle => next value middle
      | .error failure middle => .error failure middle := by
  change EStateM.bind act next state = _
  unfold EStateM.bind
  cases act state <;> rfl

/-- After a success the sequence is what follows. -/
theorem bind_of_ok {act : Step σ α} {state middle : σ} {value : α}
    (done : act state = .ok value middle) (next : α → Step σ β) :
    (act >>= next) state = next value middle := by
  rw [bind_apply, done]

/-- After a failure nothing follows. -/
theorem bind_of_error {act : Step σ α} {state middle : σ} {failure : Failure}
    (failed : act state = .error failure middle) (next : α → Step σ β) :
    (act >>= next) state = .error failure middle := by
  rw [bind_apply, failed]

/-- A value in the end changes nothing. -/
theorem after_bind_pure (act : Step σ α) (value : β) (state : σ) :
    after (act >>= fun _ => pure value) state = after act state := by
  -- A success ends where it was, and a failure keeps its state anyway.
  rw [after, bind_apply]
  cases ended : act state with
  | ok first final =>
    simp only [after, ended]
    rfl
  | error failure final => simp only [after, ended]

/-- A sequence succeeds exactly when both of its parts do. -/
theorem bind_ok_iff {act : Step σ α} {next : α → Step σ β} {state final : σ} {value : β} :
    (act >>= next) state = .ok value final ↔
      ∃ first middle, act state = .ok first middle ∧ next first middle = .ok value final := by
  -- The first part fails, and then so does the sequence, or the rest goes on from it.
  rw [bind_apply]
  cases act state with
  | ok first middle => exact ⟨fun done => ⟨first, middle, rfl, done⟩,
      fun ⟨_, _, same, done⟩ => by cases same; exact done⟩
  | error failure middle => simp

/-- A changed value leaves the ending of an activity as it is. -/
theorem map_apply (change : α → β) (act : Step σ α) (state : σ) :
    (change <$> act) state =
      match act state with
      | .ok value final => .ok (change value) final
      | .error failure final => .error failure final := by
  change EStateM.map change act state = _
  unfold EStateM.map
  cases act state <;> rfl

/-- A success with its value changed is a success. -/
theorem map_of_ok {act : Step σ α} {state final : σ} {value : α} (done : act state = .ok value final)
    (change : α → β) : (change <$> act) state = .ok (change value) final := by
  rw [map_apply, done]

/-- A failure has no value to change. -/
theorem map_of_error {act : Step σ α} {state final : σ} {failure : Failure}
    (failed : act state = .error failure final) (change : α → β) :
    (change <$> act) state = .error failure final := by
  rw [map_apply, failed]

/-- A discarded value leaves the ending of an activity as it is. -/
theorem discard_apply (act : Step σ α) (state : σ) :
    (discard act : Step σ Unit) state =
      match act state with
      | .ok _ final => .ok () final
      | .error failure final => .error failure final :=
  map_apply _ act state

/-- Without its value a success is still one. -/
theorem discard_of_ok {act : Step σ α} {state final : σ} {value : α}
    (done : act state = .ok value final) : (discard act : Step σ Unit) state = .ok () final :=
  map_of_ok done _

/-- Where there is no value, none is discarded. -/
theorem discard_of_error {act : Step σ α} {state final : σ} {failure : Failure}
    (failed : act state = .error failure final) :
    (discard act : Step σ Unit) state = .error failure final :=
  map_of_error failed _

/-- What succeeds without its value has one. -/
theorem ok_of_discard {act : Step σ α} {state final : σ}
    (done : (discard act : Step σ Unit) state = .ok () final) :
    ∃ value, act state = .ok value final := by
  -- A failure stays one without its value.
  rw [discard_apply] at done
  cases ended : act state with
  | ok value middle =>
    rw [ended] at done
    cases done
    exact ⟨value, rfl⟩
  | error failure middle =>
    rw [ended] at done
    cases done

/-- Without its value an activity leaves the same state. -/
theorem after_discard (act : Step σ α) (state : σ) :
    after (discard act : Step σ Unit) state = after act state := by
  rw [after, discard_apply]
  cases ended : act state <;> simp only [after, ended]

/-- A closing activity runs from wherever the first one ended. -/
theorem after_ensuring (act : Step σ α) (last : Step σ Unit) (state : σ) :
    after (ensuring act last) state = after last (after act state) := by
  -- Both endings of the first activity hand their state to the closing one.
  cases ended : act state with
  | ok value middle =>
    cases closed : last middle <;> simp [after, ensuring, ended, closed]
  | error failure middle =>
    cases closed : last middle <;> simp [after, ensuring, ended, closed]

/-- A closing activity that succeeds leaves the first one its success. -/
theorem ensuring_of_ok {act : Step σ α} {last : Step σ Unit} {state middle final : σ} {value : α}
    (done : act state = .ok value middle) (closed : last middle = .ok () final) :
    ensuring act last state = .ok value final := by
  simp [ensuring, done, closed]

/-- A closing activity that succeeds leaves the first one its failure. -/
theorem ensuring_of_error {act : Step σ α} {last : Step σ Unit} {state middle final : σ}
    {failure : Failure} (failed : act state = .error failure middle)
    (closed : last middle = .ok () final) : ensuring act last state = .error failure final := by
  simp [ensuring, failed, closed]

/-- What is closed properly succeeds exactly when both activities do. -/
theorem ensuring_ok_iff {act : Step σ α} {last : Step σ Unit} {state final : σ} {value : α} :
    ensuring act last state = .ok value final ↔
      ∃ middle, act state = .ok value middle ∧ last middle = .ok () final := by
  constructor
  · intro done
    -- Of the four ways in which the two may end, only one is a success.
    cases ended : act state with
    | error failure middle =>
      cases closed : last middle <;> simp [ensuring, ended, closed] at done
    | ok found middle =>
      cases closed : last middle with
      | error failure there => simp [ensuring, ended, closed] at done
      | ok nothing there =>
        obtain ⟨rfl, rfl⟩ : found = value ∧ there = final := by
          simpa [ensuring, ended, closed] using done
        exact ⟨middle, rfl, closed⟩
  · rintro ⟨middle, done, closed⟩
    exact ensuring_of_ok done closed

/-- A success needs no handler. -/
theorem handling_of_ok {act : Step σ α} {state final : σ} {value : α}
    (done : act state = .ok value final) (handles : Failure → Bool)
    (handler : Failure → Step σ α) : handling handles act handler state = .ok value final := by
  simp [handling, done]

/-- A failure is left to its handler if that is meant for it. -/
theorem handling_of_error {act : Step σ α} {state middle : σ} {failure : Failure}
    (failed : act state = .error failure middle) (handles : Failure → Bool)
    (handler : Failure → Step σ α) :
    handling handles act handler state =
      if handles failure then handler failure middle else .error failure middle := by
  simp [handling, failed]

/-- A success under a handler is one of the activity itself or one of its handler. -/
theorem handling_ok {handles : Failure → Bool} {act : Step σ α} {handler : Failure → Step σ α}
    {state final : σ} {value : α} (done : handling handles act handler state = .ok value final) :
    act state = .ok value final ∨
      ∃ failure middle, act state = .error failure middle ∧
        handler failure middle = .ok value final := by
  -- The activity succeeds by itself, or its failure is one for the handler.
  simp only [handling] at done
  cases ended : act state with
  | ok found middle => simp_all
  | error failure middle =>
    rw [ended] at done
    by_cases handled : handles failure = true
    · exact Or.inr ⟨failure, middle, rfl, by simpa [handled] using done⟩
    · simp [handled] at done

/-- Failures that are dropped leave the state in which they happened. -/
theorem after_handling_pure (handles : Failure → Bool) (act : Step σ α) (value : α) (state : σ) :
    after (handling handles act fun _ => pure value) state = after act state := by
  -- Dropped or passed on, the failure has left the same state.
  cases ended : act state with
  | ok found middle => simp [after, handling, ended]
  | error failure middle =>
    by_cases handled : handles failure = true
    · simp only [after, handling, ended, handled, if_true]
      rfl
    · simp [after, handling, ended, handled]

/-- A success needs no handler of the daemon's failures. -/
theorem onDaemonFailure_of_ok {act : Step σ α} {state final : σ} {value : α}
    (done : act state = .ok value final) (handler : DaemonFault → String → Step σ α) :
    onDaemonFailure act handler state = .ok value final := by
  simp [onDaemonFailure, done]

/-- A failure of the daemon is left to its handler. -/
theorem onDaemonFailure_of_daemon {act : Step σ α} {state middle : σ} {fault : DaemonFault}
    {text : String} (failed : act state = .error (.daemon fault text) middle)
    (handler : DaemonFault → String → Step σ α) :
    onDaemonFailure act handler state = handler fault text middle := by
  simp only [onDaemonFailure, failed]

/-- A failure that is not the daemon's is passed on. -/
theorem onDaemonFailure_of_other {act : Step σ α} {state middle : σ} {failure : Failure}
    (failed : act state = .error failure middle)
    (other : ∀ fault text, failure ≠ .daemon fault text)
    (handler : DaemonFault → String → Step σ α) :
    onDaemonFailure act handler state = .error failure middle := by
  cases failure with
  | daemon fault text => exact absurd rfl (other fault text)
  | _ => simp only [onDaemonFailure, failed]

/-- A failure stays one under a handler that fails too, and keeps what both endings have. -/
theorem onDaemonFailure_error {act : Step σ α} {handler : DaemonFault → String → Step σ α}
    {kept : σ → Prop} {state middle : σ} {failure : Failure}
    (failed : act state = .error failure middle) (reached : kept middle)
    (handled : ∀ fault text, ∃ other final,
      handler fault text middle = .error other final ∧ kept final) :
    ∃ other final, onDaemonFailure act handler state = .error other final ∧ kept final := by
  -- What is not the daemon's failure is passed on from where it happened.
  simp only [onDaemonFailure, failed]
  cases failure with
  | daemon fault text => exact handled fault text
  | _ => exact ⟨_, middle, rfl, reached⟩

/-! What an activity keeps whatever comes of it. -/

/-- An activity that leads from every state to one that is in a relation to it. -/
structure Follows (relation : σ → σ → Prop) (act : Step σ α) : Prop where
  leads : ∀ state, relation state (after act state)

section Follows

variable {relation : σ → σ → Prop} [IsPreorder σ relation]

/-- A value alone changes nothing. -/
theorem follows_pure (value : α) : Follows relation (pure value : Step σ α) :=
  ⟨fun state => refl state⟩

/-- A failure alone changes nothing. -/
theorem follows_throw (failure : Failure) : Follows relation (throw failure : Step σ α) :=
  ⟨fun state => refl state⟩

/-- A computation changes nothing. -/
theorem follows_ofExcept (computed : Except Failure α) :
    Follows relation (ofExcept computed : Step σ α) := by
  cases computed with
  | ok value => exact follows_pure value
  | error failure => exact follows_throw failure

/-- Looking at the state changes nothing. -/
theorem follows_get : Follows relation (get : Step σ σ) :=
  ⟨fun state => refl state⟩

omit [IsPreorder σ relation] in
/-- An activity that keeps something keeps whatever is implied by it. -/
theorem Follows.mono {wider : σ → σ → Prop} {act : Step σ α} (first : Follows relation act)
    (implied : ∀ before after, relation before after → wider before after) : Follows wider act :=
  ⟨fun state => implied _ _ (first.leads state)⟩

/-- A sequence leads on from where its first part ends, unless that fails. -/
theorem leads_bind {act : Step σ α} {next : α → Step σ β} {state : σ}
    (first : relation state (after act state))
    (second : ∀ value middle, act state = .ok value middle →
      relation middle (after (next value) middle)) :
    relation state (after (act >>= next) state) := by
  -- The second part starts in the state that the first one left, or not at all.
  simp only [after, bind_apply] at first ⊢
  cases ended : act state with
  | error failure middle => simpa [ended] using first
  | ok value middle =>
    simp only [ended] at first ⊢
    exact IsTrans.trans _ _ _ first (second value middle ended)

/-- A sequence keeps what both of its parts keep. -/
theorem Follows.bind {act : Step σ α} {next : α → Step σ β} (first : Follows relation act)
    (second : ∀ value, Follows relation (next value)) : Follows relation (act >>= next) :=
  ⟨fun state => leads_bind (first.leads state) fun value middle _ => (second value).leads middle⟩

omit [IsPreorder σ relation] in
/-- Changing a value keeps what the activity keeps. -/
theorem Follows.map {act : Step σ α} (first : Follows relation act) (change : α → β) :
    Follows relation (change <$> act : Step σ β) := by
  -- A changed value leaves the state alone.
  refine ⟨fun state => ?_⟩
  have led := first.leads state
  simp only [after, map_apply] at led ⊢
  cases ended : act state <;> simpa [ended] using led

omit [IsPreorder σ relation] in
/-- Discarding a value keeps what the activity keeps. -/
theorem Follows.discard {act : Step σ α} (first : Follows relation act) :
    Follows relation (discard act : Step σ Unit) :=
  first.map _

/-- A closing activity keeps what both activities keep. -/
theorem Follows.ensuring {act : Step σ α} {last : Step σ Unit} (first : Follows relation act)
    (closing : Follows relation last) : Follows relation (ensuring act last) := by
  refine ⟨fun state => ?_⟩
  rw [after_ensuring]
  exact IsTrans.trans _ _ _ (first.leads state) (closing.leads _)

/-- A handler keeps what it and the handled activity keep. -/
theorem Follows.handling {act : Step σ α} {handler : Failure → Step σ α}
    (first : Follows relation act) (handles : Failure → Bool)
    (second : ∀ failure, Follows relation (handler failure)) :
    Follows relation (handling handles act handler) := by
  -- The handler goes on from the state in which the activity failed.
  refine ⟨fun state => ?_⟩
  have led := first.leads state
  cases ended : act state with
  | ok value middle => simpa [after, Step.handling, ended] using led
  | error failure middle =>
    rw [after_of_error ended] at led
    by_cases handled : handles failure = true
    · have onward := IsTrans.trans _ _ _ led ((second failure).leads middle)
      simpa [after, Step.handling, ended, handled] using onward
    · simpa [after, Step.handling, ended, handled] using led

/-- A handler of the daemon's failures keeps what it and the handled activity keep. -/
theorem Follows.onDaemonFailure {act : Step σ α} {handler : DaemonFault → String → Step σ α}
    (first : Follows relation act) (second : ∀ fault text, Follows relation (handler fault text)) :
    Follows relation (onDaemonFailure act handler) := by
  -- Only failures of the daemon have a handler, and all others stay as they are.
  refine ⟨fun state => ?_⟩
  have led := first.leads state
  cases ended : act state with
  | ok value middle => simpa [after, Step.onDaemonFailure, ended] using led
  | error failure middle =>
    rw [after_of_error ended] at led
    cases failure with
    | daemon fault text =>
      have onward := IsTrans.trans _ _ _ led ((second fault text).leads middle)
      simpa [after, Step.onDaemonFailure, ended] using onward
    | _ => simpa [after, Step.onDaemonFailure, ended] using led

end Follows

end ContainerScan.Step
