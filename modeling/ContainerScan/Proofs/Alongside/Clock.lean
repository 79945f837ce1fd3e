import ContainerScan.Proofs.Alongside.Lifecycle
import ContainerScan.Proofs.Command
import ContainerScan.Proofs.Time.Clock

/-! Clocks that never go back: nothing that activities are made of turns one back. -/

namespace ContainerScan

open Step

namespace World

/-- A clock that never goes back in one world still does not in the other. -/
def Steady (before after : World) : Prop :=
  before.clock.NeverGoesBack → after.clock.NeverGoesBack

/-- A clock that never goes back does not over any number of worlds. -/
instance : IsPreorder World Steady where
  refl _ := id
  trans _ _ _ one two := two ∘ one

/-- An activity keeps a clock steady if it leaves it alone or lets some time pass. -/
theorem steady_of_clock {α : Type} {act : Step World α}
    (passes : ∀ world, (after act world).clock = world.clock ∨
      ∃ seconds, (after act world).clock = world.clock.after seconds) : Follows Steady act := by
  -- Time that does not pass is kept, and time that passes goes forward.
  refine ⟨fun world forward => ?_⟩
  rcases passes world with same | ⟨seconds, later⟩
  · exact same ▸ forward
  · exact later ▸ forward.after seconds

/-- Writing an event leaves the clock alone. -/
theorem log_steady (logger : Logger) (level : Level) (message : String) (fields : Event) :
    Follows Steady (log logger level message fields) :=
  steady_of_clock fun world => Or.inl (by rw [after_of_ok (log_written ..)])

/-- A call takes some time. -/
theorem call_steady (method : Method) (positional : List Json) (named : List (String × Json)) :
    Follows Steady (call method positional named) := by
  refine steady_of_clock fun world => Or.inr ⟨(world.nextOutcome method).delay, ?_⟩
  cases answered : (world.nextOutcome method).result <;> simp only [after, call, answered] <;> rfl

/-- A call that may be given up takes some time. -/
theorem callWithin_steady (limit : Rat) (method : Method) (positional : List Json)
    (named : List (String × Json)) : Follows Steady (callWithin limit method positional named) := by
  refine steady_of_clock fun world => Or.inr ?_
  obtain ⟨seconds, ended⟩ := after_callWithin limit method positional named world
  exact ⟨seconds, by rw [ended]; rfl⟩

/-- A client is opened by a call, or in no time. -/
theorem openClient_steady : Follows Steady openClient := by
  -- Without a word in the script no call is made, and with one it is the call that takes time.
  refine ⟨fun world => ?_⟩
  cases named : world.script .connect (world.callCount .connect) with
  | none => simpa [after, openClient, named] using refl world
  | some outcome =>
    have steady := (call_steady .connect [] []).discard.leads world
    simpa [after, openClient, named] using steady

/-- A request to the store takes no time. -/
theorem changeStore_steady {α : Type} (change : Store → Except Failure (Store × α)) :
    Follows Steady (Keeping.changeStore change) := by
  -- Whether the store is down, refuses or changes, the clock is not touched.
  refine steady_of_clock fun world => Or.inl ?_
  unfold after Keeping.changeStore
  cases world.outages world.requests with
  | some failure => rfl
  | none => cases change world.store <;> rfl

/-- A block is printed in no time. -/
theorem print_steady (block : Display.Block) : Follows Steady (print block) := by
  refine steady_of_clock fun world => Or.inl ?_
  unfold after print
  cases block.lines <;> rfl

/-- A template is resolved in no time. -/
theorem resolveLogged_steady (repository branch template : String) (key : Option String) :
    Follows Steady (Command.resolveLogged repository branch template key) := by
  refine steady_of_clock fun world => Or.inl ?_
  obtain ⟨events, resolved⟩ := Command.resolveLogged_apply repository branch template key world
  rw [after_of_ok resolved]

/-- A world and itself stay together as long as no clock that never goes back is turned back. -/
def steadyLink (start : World) : Link where
  together left right := left = right ∧ Steady start left
  settings := Eq
  commands := Eq
  process states := congrArg World.settings states.1
  sameButKey := @Settings.sameButKey_of_eq
  clock states := congrArg World.clock states.1
  log _ _ _ _ := alongside_of_follows (log_steady ..) start
  ask _ _ _ := alongside_of_follows (call_steady ..) start
  askWithin _ _ _ _ := alongside_of_follows (callWithin_steady ..) start
  -- Sleeping moves the clock on, and so do the calls; nothing else touches it.
  sleep _ := alongside_of_follows (steady_of_clock fun _ => Or.inr ⟨_, rfl⟩) start
  openClient := alongside_of_follows openClient_steady start
  closeClient := alongside_of_follows (steady_of_clock fun _ => Or.inr ⟨0, rfl⟩) start
  noteUpdate _ _ := alongside_of_follows (steady_of_clock fun _ => Or.inl rfl) start
  changeStore change := alongside_of_follows (changeStore_steady change) start
  print block := alongside_of_follows (print_steady block) start
  printPlain _ := alongside_of_follows (steady_of_clock fun _ => Or.inl rfl) start
  resolve _ _ _ := alongside_of_follows (resolveLogged_steady ..) start
  given := @given_of_eq
  creation _ _ _ same := by
    rw [same]
    exact alongside_of_follows (call_steady ..) start

end World

/-- A connector that turns no clock back. -/
def Connector.Steady (connector : Connector) : Prop :=
  ∀ settings, Follows World.Steady (connector settings)

/-- A connector that turns no clock back goes together with itself. -/
theorem Connector.Steady.connects {connector : Connector} (steady : connector.Steady)
    (start : World) : (World.steadyLink start).Connects connector := by
  rintro settings _ rfl
  exact alongside_of_follows (steady settings) start

namespace Connection

/-- The direct connector turns no clock back. -/
theorem direct_steady : Connector.Steady direct :=
  fun _ => World.openClient_steady

/-- The connector with certificates turns no clock back. -/
theorem secured_steady (present : String → Bool) : Connector.Steady (secured present) :=
  fun _ => ⟨fun world =>
    have together : (World.steadyLink world).together world world := ⟨rfl, refl world⟩
    (((World.steadyLink world).connects_secured present rfl).ends world world together).after.2⟩

end Connection

/-- An activity of a session that goes together with itself from every start turns no clock back. -/
theorem Session.steady_of_tied {α : Type} {act : Step Session α}
    (tied : ∀ start, (World.steadyLink start).Tied act) {session : Session}
    (connecting : session.lifecycle.connector.Steady) :
    World.Steady session.world (after act session).world := by
  -- A session runs alongside itself, and the tie between the worlds is that time goes forward.
  let link := World.steadyLink session.world
  have together : link.Sessions session session :=
    ⟨⟨rfl, refl _⟩, rfl, rfl, rfl, .refl _, rfl, rfl, connecting.connects _⟩
  exact ((tied session.world).ends session session together).after.world.2

end ContainerScan
