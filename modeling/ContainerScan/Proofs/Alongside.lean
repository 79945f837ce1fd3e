import ContainerScan.Proofs.Step

/-! Two activities alongside each other: from states that go together they end in states that go
together, and in values that agree or in one and the same failure. -/

namespace ContainerScan.Step

variable {σ α β γ δ : Type}

/-- Two endings that go together: values that agree, or one failure. -/
inductive Ends (together : σ → σ → Prop) (values : α → β → Prop) :
    EStateM.Result Failure σ α → EStateM.Result Failure σ β → Prop where
  | ok {first : α} {second : β} {left right : σ} (agree : values first second)
      (states : together left right) : Ends together values (.ok first left) (.ok second right)
  | error (failure : Failure) {left right : σ} (states : together left right) :
      Ends together values (.error failure left) (.error failure right)

/-- Two activities that end together whenever they begin together. -/
structure Alongside (together : σ → σ → Prop) (values : α → β → Prop) (first : Step σ α)
    (second : Step σ β) : Prop where
  ends : ∀ left right, together left right → Ends together values (first left) (second right)

section Alongside

variable {together : σ → σ → Prop} {values : α → β → Prop} {others : γ → δ → Prop}

/-- Endings that go together leave states that do. -/
theorem Ends.after {act : Step σ α} {other : Step σ β} {left right : σ}
    (ends : Ends together values (act left) (other right)) :
    together (after act left) (after other right) := by
  unfold Step.after
  -- The endings are made variables, so that they can be told apart together.
  generalize act left = one at ends
  generalize other right = two at ends
  cases ends with
  | ok _ states => exact states
  | error _ states => exact states

/-- Endings go together in any way that is implied by theirs. -/
theorem Ends.mono {wider : σ → σ → Prop} {one : EStateM.Result Failure σ α}
    {two : EStateM.Result Failure σ β} (ends : Ends together values one two)
    (implied : ∀ left right, together left right → wider left right) :
    Ends wider values one two := by
  cases ends with
  | ok agree states => exact .ok agree (implied _ _ states)
  | error failure states => exact .error failure (implied _ _ states)

/-- Values that agree go together. -/
theorem alongside_pure {first : α} {second : β} (agree : values first second) :
    Alongside together values (pure first) (pure second) :=
  ⟨fun _ _ states => .ok agree states⟩

/-- One failure goes together with itself. -/
theorem alongside_throw (failure : Failure) :
    Alongside together values (throw failure) (throw failure) :=
  ⟨fun _ _ states => .error failure states⟩

/-- Looking at states that go together gives states that do. -/
theorem alongside_get : Alongside together together get get :=
  ⟨fun _ _ states => .ok states states⟩

/-- One computation goes together with itself. -/
theorem alongside_ofExcept (computed : Except Failure α) :
    Alongside together Eq (ofExcept computed) (ofExcept computed) := by
  cases computed with
  | ok value => exact alongside_pure rfl
  | error failure => exact alongside_throw failure

/-- Endings that go together do so with whatever else goes together in their states. -/
theorem Ends.and {more : σ → σ → Prop} {act : Step σ α} {other : Step σ β} {left right : σ}
    (ends : Ends together values (act left) (other right))
    (also : more (Step.after act left) (Step.after other right)) :
    Ends (fun left right => together left right ∧ more left right) values (act left)
      (other right) := by
  -- Both endings are of one kind, and the states that they leave are those of the further relation.
  unfold Step.after at also
  generalize act left = one at ends also ⊢
  generalize other right = two at ends also ⊢
  cases ends with
  | ok agree states => exact .ok agree ⟨states, also⟩
  | error failure states => exact .error failure ⟨states, also⟩

/-- Sequences end together, in a wider sense perhaps, if their first parts do and what follows. -/
theorem Ends.bind {wider : σ → σ → Prop} {act : Step σ α} {other : Step σ β} {next : α → Step σ γ}
    {onward : β → Step σ δ} {left right : σ}
    (begin : Ends together values (act left) (other right))
    (implied : ∀ left right, together left right → wider left right)
    (following : ∀ first second left right, values first second → together left right →
      Ends wider others (next first left) (onward second right)) :
    Ends wider others ((act >>= next) left) ((other >>= onward) right) := by
  -- Both first parts succeed or both fail, so both sequences go on or neither does.
  rw [bind_apply, bind_apply]
  generalize act left = one at begin
  generalize other right = two at begin
  cases begin with
  | ok agree states => exact following _ _ _ _ agree states
  | error failure states => exact .error failure (implied _ _ states)

/-- Activities end together, in a wider sense perhaps, if what is always done behind them does. -/
theorem Ends.ensuring {wider : σ → σ → Prop} {act : Step σ α} {other : Step σ β}
    {last final : Step σ Unit} {left right : σ}
    (begin : Ends together values (act left) (other right))
    (closing : ∀ left right, together left right → Ends wider Eq (last left) (final right)) :
    Ends wider values (ensuring act last left) (ensuring other final right) := by
  unfold Step.ensuring
  generalize act left = one at begin
  generalize other right = two at begin
  -- The failure of the closing part wins, and it is the same one on both sides.
  cases begin with
  | ok agree states =>
    have closed := closing _ _ states
    dsimp only
    generalize last _ = one at closed ⊢
    generalize final _ = two at closed ⊢
    cases closed with
    | ok _ states => exact .ok agree states
    | error failure states => exact .error failure states
  | error failure states =>
    have closed := closing _ _ states
    dsimp only
    generalize last _ = one at closed ⊢
    generalize final _ = two at closed ⊢
    cases closed with
    | ok _ states => exact .error failure states
    | error other states => exact .error other states

/-- Sequences go together if their first parts do, and what follows values that agree. -/
theorem Alongside.bind {act : Step σ α} {other : Step σ β} {next : α → Step σ γ}
    {onward : β → Step σ δ} (begin : Alongside together values act other)
    (following : ∀ first second, values first second →
      Alongside together others (next first) (onward second)) :
    Alongside together others (act >>= next) (other >>= onward) :=
  ⟨fun left right states => (begin.ends left right states).bind (fun _ _ same => same)
    fun first second _ _ agree => (following first second agree).ends _ _⟩

/-- Sequences go together if their first parts give the same value. -/
theorem Alongside.andThen {act other : Step σ α} {next : α → Step σ γ} {onward : α → Step σ δ}
    (begin : Alongside together Eq act other)
    (following : ∀ value, Alongside together others (next value) (onward value)) :
    Alongside together others (act >>= next) (other >>= onward) :=
  begin.bind fun value _ same => same ▸ following value

/-- Activities go together after a change of their values under which these still agree. -/
theorem Alongside.map {act : Step σ α} {other : Step σ β} {change : α → γ} {change' : β → δ}
    (begin : Alongside together values act other)
    (agree : ∀ first second, values first second → others (change first) (change' second)) :
    Alongside together others (change <$> act) (change' <$> other) := by
  -- A change of the value leaves the kind of the ending as it is.
  refine ⟨fun left right states => ?_⟩
  have ends := begin.ends left right states
  rw [map_apply, map_apply]
  generalize act left = one at ends
  generalize other right = two at ends
  cases ends with
  | ok same states => exact .ok (agree _ _ same) states
  | error failure states => exact .error failure states

/-- Activities go together without their values. -/
theorem Alongside.discard {act : Step σ α} {other : Step σ β}
    (begin : Alongside together values act other) :
    Alongside together Eq (discard act : Step σ Unit) (discard other : Step σ Unit) :=
  begin.map fun _ _ _ => rfl

/-- Activities go together with what is done behind them in any case. -/
theorem Alongside.ensuring {act : Step σ α} {other : Step σ β} {last final : Step σ Unit}
    (begin : Alongside together values act other) (closing : Alongside together Eq last final) :
    Alongside together values (ensuring act last) (ensuring other final) :=
  ⟨fun left right states => (begin.ends left right states).ensuring closing.ends⟩

/-- Activities go together under handlers that do. -/
theorem Alongside.handling {act : Step σ α} {other : Step σ β} {handler : Failure → Step σ α}
    {second : Failure → Step σ β} (begin : Alongside together values act other)
    (handles : Failure → Bool)
    (handled : ∀ failure, Alongside together values (handler failure) (second failure)) :
    Alongside together values (handling handles act handler) (handling handles other second) := by
  refine ⟨fun left right states => ?_⟩
  have ends := begin.ends left right states
  unfold Step.handling
  -- It is one failure on both sides, so it is handled on both or on neither.
  generalize act left = one at ends
  generalize other right = two at ends
  cases ends with
  | ok agree states => exact .ok agree states
  | error failure states =>
    dsimp only
    split
    · exact (handled failure).ends _ _ states
    · exact .error failure states

/-- Activities go together under handlers of the daemon's failures that do. -/
theorem Alongside.onDaemonFailure {act : Step σ α} {other : Step σ β}
    {handler : DaemonFault → String → Step σ α} {second : DaemonFault → String → Step σ β}
    (begin : Alongside together values act other)
    (handled : ∀ fault text, Alongside together values (handler fault text) (second fault text)) :
    Alongside together values (onDaemonFailure act handler) (onDaemonFailure other second) := by
  refine ⟨fun left right states => ?_⟩
  have ends := begin.ends left right states
  unfold Step.onDaemonFailure
  -- It is one failure on both sides: the daemon's with one wording, or one that is passed on.
  generalize act left = one at ends
  generalize other right = two at ends
  cases ends with
  | ok agree states => exact .ok agree states
  | error failure states =>
    cases failure with
    | daemon fault text => exact (handled fault text).ends _ _ states
    | _ => exact .error _ states

/-- An activity that keeps something goes together with itself in a state that comes of another one
by what is kept. -/
theorem alongside_of_follows {relation : σ → σ → Prop} [IsPreorder σ relation] {act : Step σ α}
    (keeps : Follows relation act) (start : σ) :
    Alongside (fun left right => left = right ∧ relation start left) Eq act act := by
  -- An activity ends alike with itself, so only the relation to the beginning is to be carried on.
  refine ⟨fun left right states => ?_⟩
  obtain ⟨rfl, reached⟩ := states
  have onward := IsTrans.trans _ _ _ reached (keeps.leads left)
  unfold Step.after at onward
  generalize act left = ended at onward ⊢
  cases ended with
  | ok value final => exact .ok rfl ⟨rfl, onward⟩
  | error failure final => exact .error failure ⟨rfl, onward⟩

end Alongside

end ContainerScan.Step
