import ContainerScan.Lifecycle.Session
import ContainerScan.Proofs.World

/-! What the steps of a session ask of the daemon, and what they leave of the lifecycle. -/

namespace ContainerScan

namespace Container

/-- Whether a container has not got past its creation. -/
def isUnbegun (container : Container) : Bool :=
  container.status.all fun status => status = .created

/-- A container that has not got past its creation can be one that is created. -/
theorem advance_created {container : Container} (unbegun : container.isUnbegun = true) :
    container.advance .created = .ok { container with status := some .created } := by
  -- Only what has not begun may be created, or be created once more.
  unfold isUnbegun at unbegun
  unfold advance
  cases same : container.status with
  | none => rfl
  | some status =>
    obtain rfl : status = .created := by simpa [same] using unbegun
    rfl

/-- A container that has got past its creation cannot go back to it. -/
theorem advance_created_of_begun {container : Container} (begun : container.isUnbegun = false) :
    ∃ current, container.advance .created =
      .error (.value ("cannot move container from " ++ Status.text current ++ " to created")) := by
  unfold isUnbegun at begun
  unfold advance
  cases same : container.status with
  | none => simp [same] at begun
  | some status =>
    -- Of the three statuses the two later ones are left, and both stand behind the first.
    cases status with
    | created => simp [same] at begun
    | running => exact ⟨.running, rfl⟩
    | finished => exact ⟨.finished, rfl⟩

end Container

namespace Session

open Step

/-- One session comes of another by exactly some queries, with the same client and configuration. -/
structure Asked (queries : List Query) (before after : Session) : Prop where
  world : World.Asked queries before.world after.world
  connected : after.lifecycle.connected = before.lifecycle.connected
  settings : after.lifecycle.settings = before.lifecycle.settings
  template : after.lifecycle.template = before.lifecycle.template
  image : after.lifecycle.container.image = before.lifecycle.container.image

/-- One session comes of another by exactly some queries, and is about the same container. -/
structure Tended (queries : List Query) (before after : Session) : Prop
    extends Asked queries before after where
  cid : after.lifecycle.container.cid = before.lifecycle.container.cid
  command : after.lifecycle.container.command = before.lifecycle.container.command

/-- A session has asked nothing of itself. -/
theorem Asked.refl (session : Session) : Asked [] session session :=
  ⟨World.Asked.refl _, rfl, rfl, rfl, rfl⟩

/-- Queries of a session are asked one after the other. -/
theorem Asked.trans {earlier later : List Query} {first second third : Session}
    (one : Asked earlier first second) (two : Asked later second third) :
    Asked (earlier ++ later) first third :=
  ⟨one.world.trans two.world, two.connected.trans one.connected, two.settings.trans one.settings,
    two.template.trans one.template, two.image.trans one.image⟩

/-- A session is about its own container. -/
theorem Tended.refl (session : Session) : Tended [] session session :=
  ⟨Asked.refl session, rfl, rfl⟩

/-- A container is tended in one step after the other. -/
theorem Tended.trans {earlier later : List Query} {first second third : Session}
    (one : Tended earlier first second) (two : Tended later second third) :
    Tended (earlier ++ later) first third :=
  ⟨one.toAsked.trans two.toAsked, two.cid.trans one.cid, two.command.trans one.command⟩

/-- An activity of the surroundings succeeds as it does by itself. -/
theorem inWorld_of_ok {α : Type} {act : Step World α} {session : Session} {world : World}
    {value : α} (done : act session.world = .ok value world) :
    inWorld act session = .ok value { session with world := world } := by
  simp only [inWorld, done]

/-- An activity of the surroundings fails as it does by itself. -/
theorem inWorld_of_error {α : Type} {act : Step World α} {session : Session} {world : World}
    {failure : Failure} (failed : act session.world = .error failure world) :
    inWorld act session = .error failure { session with world := world } := by
  simp only [inWorld, failed]

/-- An activity of the surroundings leaves the lifecycle as it is. -/
theorem after_inWorld {α : Type} (act : Step World α) (session : Session) :
    after (inWorld act) session = { session with world := after act session.world } := by
  -- However the activity ends, only the world in which it ended is new.
  cases ended : act session.world <;> simp [after, inWorld, ended]

/-- An event is written without fail, and the lifecycle stays as it is. -/
theorem log_apply (level : Level) (message : String) (fields : Event) (session : Session) :
    ∃ after, log level message fields session = .ok () after ∧ Tended [] session after ∧
      after.lifecycle = session.lifecycle := by
  -- The event goes into the world, and the lifecycle stays as it is.
  obtain ⟨events, logged⟩ :=
    World.log_apply session.lifecycle.logger level message fields session.world
  refine ⟨{ session with world := { session.world with events := events } }, ?_, ?_, rfl⟩
  · have opened : log level message fields session =
        inWorld (World.log session.lifecycle.logger level message fields) session := rfl
    rw [opened, inWorld, logged]
  · exact ⟨⟨World.asked_events .., rfl, rfl, rfl, rfl⟩, rfl, rfl⟩

/-- The container of a session in a later state of it. -/
def withContainer (session : Session) (container : Container) : Session :=
  { session with lifecycle := { session.lifecycle with container := container } }

/-- A change of the container asks nothing. -/
theorem tended_withContainer {session : Session} {container : Container}
    (image : container.image = session.lifecycle.container.image)
    (cid : container.cid = session.lifecycle.container.cid)
    (command : container.command = session.lifecycle.container.command) :
    Tended [] session (session.withContainer container) :=
  ⟨⟨World.Asked.refl _, rfl, rfl, rfl, image⟩, cid, command⟩

/-- Every status comes before the last one. -/
theorem advance_finished (container : Container) :
    container.advance .finished = .ok { container with status := some .finished } := by
  -- Going back is refused, and nothing can go back to the last status.
  unfold Container.advance
  cases container.status with
  | none => rfl
  | some status => cases status <;> rfl

/-- The end of a container's life can be noted at any time. -/
theorem advance_finished_apply (session : Session) :
    advance .finished session = .ok () (session.withContainer
      { session.lifecycle.container with status := some .finished }) := by
  -- No status is behind the last one.
  have opened : advance .finished session =
      (ofExcept (session.lifecycle.container.advance .finished) >>= setContainer) session := rfl
  rw [opened, advance_finished]
  rfl

/-- A session after a query that the daemon has answered in whatever way. -/
def afterQuery (session : Session) (query : Query) : Session :=
  { session with world := session.world.afterQuery query }

/-- A query is all that is asked by it. -/
theorem tended_afterQuery (session : Session) (query : Query) :
    Tended [query] session (session.afterQuery query) :=
  ⟨⟨World.asked_afterCall .., rfl, rfl, rfl, rfl⟩, rfl, rfl⟩

/-- A call over an open client ends as the daemon has it. -/
theorem call_apply {session : Session} (connected : session.lifecycle.connected = true)
    (query : Query) :
    call query.method query.positional query.named session =
      match (session.world.nextOutcome query.method).result with
      | .ok reply => .ok reply (session.afterQuery query)
      | .error failure => .error failure (session.afterQuery query) := by
  have opened : call query.method query.positional query.named session =
      (if session.lifecycle.connected then
        inWorld (World.call query.method query.positional query.named)
      else throw (.connectionSetup "not connected; call connect() first")) session := rfl
  -- The client is open, so the call gets through to the daemon.
  rw [opened, if_pos connected, inWorld, World.call_apply]
  cases (session.world.nextOutcome query.method).result <;> rfl

end Session

end ContainerScan
