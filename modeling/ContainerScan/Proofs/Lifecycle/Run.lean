import ContainerScan.Lifecycle.Run
import ContainerScan.Proofs.Availability
import ContainerScan.Proofs.Lifecycle.Operations

/-! What a whole run asks of the daemon, wherever it breaks off. -/

namespace ContainerScan

namespace Query

/-- The queries that are put one after the other, each one only if all before it were completed. -/
def untilFailure : List (Query × Bool) → List Query
  | [] => []
  | (query, completed) :: rest => query :: if completed then untilFailure rest else []

/-- The queries that are put are the first ones of those that there are. -/
theorem untilFailure_prefix (stages : List (Query × Bool)) :
    untilFailure stages <+: stages.map Prod.fst := by
  -- Each query that comes to its end lengthens the beginning by itself.
  induction stages with
  | nil => exact List.prefix_refl _
  | cons stage rest ih =>
    obtain ⟨query, completed⟩ := stage
    cases completed with
    | true => exact (List.prefix_cons_inj query).mpr ih
    | false => exact ⟨rest.map Prod.fst, rfl⟩

end Query

/-- The queries about a container that is there, and which of them come to their end. -/
def World.attendance (world : World) (cid : Json) (bound : Int) : List (Query × Bool) :=
  [(.starting cid, (world.nextOutcome .start).result.isOk),
    (.waiting cid bound, world.nextExit.isOk), (.reading cid, world.nextOutput.isOk)]

/-- What can be asked about a container stays open while a container is only created. -/
theorem World.Asked.attendance {queries : List Query} {before after : World}
    (asked : Asked queries before after)
    (others : ∀ query ∈ queries, query.method = .createContainer) (cid : Json) (bound : Int) :
    after.attendance cid bound = before.attendance cid bound := by
  -- To create a container is none of what the answers to come depend on.
  unfold World.attendance
  rw [asked.nextOutcome fun query member => by simp [others query member],
    asked.nextExit fun query member => by simp [others query member],
    asked.nextOutput fun query member => by simp [others query member]]

/-- Each container that a daemon creates is named by a text. -/
def Script.NamesContainers (script : Script) : Prop :=
  ∀ index reply, (script.outcome .createContainer index).result = .ok reply →
    ∃ cid, reply.newCid = .ok (.string cid)

namespace Session

open Step

/-- What a container is like that was attended to without failure, as the daemon was to answer. -/
structure Attended (world : World) (container : Container) : Prop where
  started : (world.nextOutcome .start).result.isOk
  exited : ∃ code, world.nextExit = .ok code ∧ container.exitCode = some code
  read : ∃ bytes, world.nextOutput = .ok bytes ∧ container.output = Text.Utf8.decode bytes
  status : container.status = some .finished

/-- The queries by which a container is attended to until the first failure. -/
def pursued (session : Session) : List Query :=
  Query.untilFailure (session.world.attendance session.lifecycle.container.cid
    session.lifecycle.settings.waitTimeout)

/-- A container that runs is waited for, and its output read unless the wait fails. -/
theorem conclude_cases {session : Session} (connected : session.lifecycle.connected = true) :
    let conclude : Step Session Unit := discard wait >>= fun _ => discard readOutput
    let concluded := Query.untilFailure
      [(.waiting session.lifecycle.container.cid session.lifecycle.settings.waitTimeout,
        session.world.nextExit.isOk),
        (.reading session.lifecycle.container.cid, session.world.nextOutput.isOk)]
    (∃ final, conclude session = .ok () final ∧ Tended concluded session final ∧
      (∃ code, session.world.nextExit = .ok code ∧
        final.lifecycle.container.exitCode = some code) ∧
      (∃ bytes, session.world.nextOutput = .ok bytes ∧
        final.lifecycle.container.output = Text.Utf8.decode bytes) ∧
      final.lifecycle.container.status = some .finished) ∨
    (∃ failure final, conclude session = .error failure final ∧
      Tended concluded session final) := by
  intro conclude concluded
  rcases wait_cases connected with
    ⟨code, stopped, exits, exited, waited, noted⟩ | ⟨cause, failure, final, lost, failed, waited⟩
  · -- Waiting leaves open what the output will be.
    have outputs := waited.world.nextOutput (by simp [Query.waiting])
    simp only [concluded, exits, conclude]
    rw [bind_of_ok (discard_of_ok exited)]
    rcases readOutput_cases (waited.connected.trans connected) with
      ⟨bytes, final, sent, read, shown, kept⟩ | ⟨cause, failure, final, unsent, failed, shown⟩
    · rw [outputs] at sent
      rw [waited.cid] at shown
      rw [sent]
      refine Or.inl ⟨final, discard_of_ok read, waited.trans shown, ⟨code, rfl, ?_⟩,
        ⟨bytes, rfl, ?_⟩, ?_⟩ <;> rw [kept]
      rw [noted]
    · rw [outputs] at unsent
      rw [waited.cid] at shown
      rw [unsent]
      exact Or.inr ⟨failure, final, discard_of_error failed, waited.trans shown⟩
  · -- A wait that fails is the last thing asked for.
    simp only [concluded, lost, conclude]
    exact Or.inr ⟨failure, final, bind_of_error (discard_of_error failed) _, waited⟩

/-- A container is attended to until the first failure, and without one it is finished. -/
theorem execute_cases {session : Session} (connected : session.lifecycle.connected = true)
    (created : session.lifecycle.container.status = some .created) :
    (∃ final, execute session = .ok () final ∧ Tended session.pursued session final ∧
      Attended session.world final.lifecycle.container) ∨
    (∃ failure final, execute session = .error failure final ∧
      Tended session.pursued session final) := by
  have opened : execute session =
      (start >>= fun _ => discard wait >>= fun _ => discard readOutput) session := rfl
  rw [opened, pursued, World.attendance]
  -- A stage that fails is the last one; otherwise the next one begins where it ended.
  rcases start_cases connected created with
    ⟨reply, running, started, done, begun, _⟩ | ⟨cause, failure, final, refused, failed, begun⟩
  · have exits := begun.world.nextExit (by simp [Query.starting])
    have outputs := begun.world.nextOutput (by simp [Query.starting])
    have concluded := conclude_cases (begun.connected.trans connected)
    rw [begun.cid, begun.settings, exits, outputs] at concluded
    rw [bind_of_ok done, started]
    rcases concluded with
      ⟨final, ended, tended, exited, read, status⟩ | ⟨failure, final, failed, tended⟩
    · -- What was noted of the start is not touched by the wait or the reading.
      have attended : Attended session.world final.lifecycle.container :=
        ⟨by rw [started]; rfl, exited, read, status⟩
      exact Or.inl ⟨final, ended, begun.trans tended, attended⟩
    · exact Or.inr ⟨failure, final, failed, begun.trans tended⟩
  · rw [refused]
    exact Or.inr ⟨failure, final, bind_of_error failed _, begun⟩

/-- A container that was attended to is removed, whatever happened to it. -/
theorem execute_cleanup_leads {session : Session} (connected : session.lifecycle.connected = true)
    (created : session.lifecycle.container.status = some .created) :
    Tended (session.pursued ++ [.removal session.lifecycle.container.cid]) session
      (after (ensuring execute cleanup) session) := by
  -- Clearing up begins where the attendance ended, with the same container.
  have executed : Tended session.pursued session (after execute session) := by
    rcases execute_cases connected created with
      ⟨final, done, tended, _⟩ | ⟨_, final, failed, tended⟩
    · rwa [after_of_ok done]
    · rwa [after_of_error failed]
  have removed := (cleanup_leads (executed.connected.trans connected)).1
  rw [executed.cid] at removed
  rw [after_ensuring]
  exact executed.trans removed

/-- What a container is like after a whole run, as the daemon was to answer. -/
structure Finished (world : World) (container : Container) : Prop extends
    Attended world container where
  named : world.nextCid = .ok container.cid
  shortened : (shortened? container.cid).isSome = true

/-- An identifier that can be shortened is not missing. -/
theorem Finished.made {world : World} {container : Container}
    (finished : Finished world container) : container.cid.isNull = false := by
  -- What is missing has no length, and so nothing to be shortened.
  have shortened := finished.shortened
  revert shortened
  cases container.cid <;> simp [shortened?, Json.isNull]

/-- What the daemon was to answer it was to answer before, as long as nothing of it was asked. -/
theorem Attended.earlier {before after : World} {container : Container}
    (attended : Attended after container)
    (same : ∀ method ∈ [Method.start, .wait, .logs],
      after.nextOutcome method = before.nextOutcome method) : Attended before container := by
  -- Each field is about the next answer to one method.
  obtain ⟨started, ⟨code, exits, exited⟩, ⟨bytes, sent, read⟩, status⟩ := attended
  refine ⟨?_, ⟨code, ?_, exited⟩, ⟨bytes, ?_, read⟩, status⟩
  · rwa [← same .start (by simp)]
  · rwa [World.nextExit, ← same .wait (by simp)]
  · rwa [World.nextOutput, ← same .logs (by simp)]

/-- Where nothing fails a container is attended to until its output has been read. -/
theorem Attended.attendance {world : World} {container : Container}
    (attended : Attended world container) (cid : Json) (bound : Int) :
    Query.untilFailure (world.attendance cid bound) =
      [.starting cid, .waiting cid bound, .reading cid] := by
  -- Every one of the three came to its end, so none cuts off the next.
  obtain ⟨started, ⟨code, exits, _⟩, ⟨bytes, sent, _⟩, _⟩ := attended
  rw [World.attendance, started, exits, sent]
  rfl

/-- What the daemon was to answer to a run it was to answer before the run came to ask it. -/
theorem Finished.earlier {before after : World} {container : Container}
    (finished : Finished after container)
    (same : ∀ method ∈ [Method.createContainer, .start, .wait, .logs],
      after.nextOutcome method = before.nextOutcome method) : Finished before container := by
  -- Each field is about the next answer to one method.
  refine ⟨finished.toAttended.earlier fun method member => same method (by simp_all), ?_,
    finished.shortened⟩
  rw [World.nextCid, ← same .createContainer (by simp)]
  exact finished.named

/-- A container that was attended to without failure keeps its identifier and is finished. -/
theorem execute_cleanup_attended {session final : Session}
    (connected : session.lifecycle.connected = true)
    (created : session.lifecycle.container.status = some .created)
    (done : ensuring execute cleanup session = .ok () final) :
    Attended session.world final.lifecycle.container ∧
      final.lifecycle.container.cid = session.lifecycle.container.cid := by
  obtain ⟨middle, executed, removed⟩ := ensuring_ok_iff.mp done
  rcases execute_cases connected created with
    ⟨ended, finished, tended, attended⟩ | ⟨failure, ended, failed, _⟩
  · obtain rfl : ended = middle := by
      rw [executed] at finished
      cases finished
      rfl
    -- The removal comes after everything that is noted of the container.
    have still := (cleanup_leads (tended.connected.trans connected)).2
    rw [after_of_ok removed] at still
    rw [still]
    exact ⟨attended, tended.cid⟩
  · rw [executed] at failed
    cases failed

/-- Looking at the container changes nothing. -/
theorem after_bind_container (act : Step Session Unit) (session : Session) :
    after (act >>= fun _ => container) session = after act session := by
  rw [after, bind_apply]
  cases ended : act session <;> simp [after, ended, container]

/-- The part of a run that follows once the image is there. -/
def runLoaded (repository branch : String) : Step Session Container := do
  discard (create repository branch)
  Step.ensuring execute cleanup
  container

/-- Where no container is created, nothing more happens. -/
theorem runLoaded_of_error {repository branch : String} {session final : Session}
    {failure : Failure} (failed : create repository branch session = .error failure final) :
    runLoaded repository branch session = .error failure final :=
  bind_of_error (discard_of_error failed) _

/-- A container that was created is attended to and removed, and finished if nothing fails. -/
theorem runLoaded_of_ok {repository branch : String} {session made : Session} {cid : Json}
    (done : create repository branch session = .ok cid made)
    (connected : made.lifecycle.connected = true)
    (created : made.lifecycle.container.status = some .created) :
    Tended (made.pursued ++ [.removal made.lifecycle.container.cid]) made
      (after (runLoaded repository branch) session) ∧
    ∀ container final, runLoaded repository branch session = .ok container final →
      Attended made.world container ∧ container.cid = made.lifecycle.container.cid := by
  -- Behind the creation a run is what is executed and then cleaned up.
  have opened : runLoaded repository branch session =
      (ensuring execute cleanup >>= fun _ => container) made := bind_of_ok (discard_of_ok done) _
  constructor
  · rw [after, opened, ← after, after_bind_container]
    exact execute_cleanup_leads connected created
  · intro container final finished
    rw [opened] at finished
    obtain ⟨⟨⟩, ended, attended, shown⟩ := bind_ok_iff.mp finished
    cases shown
    exact execute_cleanup_attended connected created attended

/-- Once the image is there a container is created, attended to and removed. -/
theorem runLoaded_cases (repository branch : String) {session : Session}
    (connected : session.lifecycle.connected = true) :
    (session.commandFor repository branch = "" ∧ ∃ failure final,
      runLoaded repository branch session = .error failure final ∧ Asked [] session final) ∨
    (session.commandFor repository branch ≠ "" ∧ ∃ failure final,
      (∀ cid, session.world.nextCid = .ok cid →
        session.lifecycle.container.isUnbegun = true → shortened? cid = none) ∧
      runLoaded repository branch session = .error failure final ∧
      Asked [.creation session.lifecycle.container.image.reference
        (session.commandFor repository branch)] session final) ∨
    (session.commandFor repository branch ≠ "" ∧ ∃ cid, session.world.nextCid = .ok cid ∧
      session.lifecycle.container.isUnbegun = true ∧
      Asked (.creation session.lifecycle.container.image.reference
          (session.commandFor repository branch) ::
        (Query.untilFailure (session.world.attendance cid session.lifecycle.settings.waitTimeout) ++
          [.removal cid])) session (after (runLoaded repository branch) session) ∧
      ∀ container final, runLoaded repository branch session = .ok container final →
        Finished session.world container) := by
  rcases create_cases repository branch connected with
    ⟨empty, failure, final, failed, asked⟩ |
    ⟨given, cid, made, named, unbegun, short, done, asked, same⟩ |
    ⟨given, failure, final, unnamed, failed, asked⟩
  · exact Or.inl ⟨empty, failure, final, runLoaded_of_error failed, asked⟩
  · have adopted : made.lifecycle.container.cid = cid := by rw [same]
    -- Creating a container asks for nothing else, so the daemon's other answers are still to come.
    have creating : ∀ query ∈ [Query.creation session.lifecycle.container.image.reference
        (session.commandFor repository branch)], query.method = .createContainer := by
      simp [Query.creation]
    obtain ⟨tended, finishes⟩ :=
      runLoaded_of_ok done (asked.connected.trans connected) (by rw [same])
    rw [pursued, adopted, asked.settings, asked.world.attendance creating] at tended
    refine Or.inr (Or.inr ⟨given, cid, named, unbegun, asked.trans tended.toAsked, ?_⟩)
    -- A run that is finished still carries the identifier that it adopted.
    intro container final finished
    obtain ⟨attended, kept⟩ := finishes container final finished
    refine ⟨attended.earlier fun method member => asked.world.nextOutcome ?_, ?_, ?_⟩
    · intro query asking
      rw [creating query asking]
      rintro rfl
      simp at member
    · rw [named, kept, adopted]
    · rwa [kept, adopted]
  · exact Or.inr (Or.inl ⟨given, failure, final, unnamed, runLoaded_of_error failed, asked⟩)

/-- A client is opened by the connector; if that fails the failure is passed on. -/
theorem connect_cases {session : Session} (closed : session.lifecycle.connected = false) :
    (∃ world, session.lifecycle.connector session.lifecycle.settings session.world = .ok () world ∧
      connect session = .ok () ⟨{ session.lifecycle with connected := true }, world⟩) ∨
    (∃ failure world final,
      session.lifecycle.connector session.lifecycle.settings session.world =
        .error failure world ∧
      connect session = .error failure final ∧ World.Asked [] world final.world ∧
      final.lifecycle = session.lifecycle) := by
  let opening := inWorld (session.lifecycle.connector session.lifecycle.settings)
  let report (failure : Failure) : Step Session Unit := do
    log .error "Docker connection setup failed" [("error", .string failure.text)]
    throw failure
  have unfolded : connect session = (if !session.lifecycle.connected then
      handling Failure.isConnectionSetup opening report >>= fun _ => setConnected true
    else pure ()) session := rfl
  -- There is no client yet, so the connector is asked for one.
  rw [unfolded, closed, Bool.not_false, if_pos rfl]
  cases ended : session.lifecycle.connector session.lifecycle.settings session.world with
  | ok nothing world =>
    have done : opening session = .ok () { session with world := world } := by
      simp only [opening, inWorld, ended]
    exact Or.inl ⟨world, rfl, bind_of_ok (handling_of_ok done _ _) _⟩
  | error failure world =>
    have failed : opening session = .error failure { session with world := world } := by
      simp only [opening, inWorld, ended]
    obtain ⟨final, logged, tended, same⟩ := log_apply .error "Docker connection setup failed"
      [("error", .string failure.text)] { session with world := world }
    have reported : report failure { session with world := world } = .error failure final :=
      bind_of_ok logged _
    -- Only a failure of the connection itself is logged, but each one is passed on.
    have handled := handling_of_error failed Failure.isConnectionSetup report
    split at handled
    · exact Or.inr ⟨failure, world, final, rfl, bind_of_error (handled.trans reported) _,
        tended.world, same⟩
    · exact Or.inr ⟨failure, world, { session with world := world }, rfl,
        bind_of_error handled _, World.Asked.refl world, rfl⟩

/-- Waiting for the image asks for images and pulls alone, and leaves the lifecycle as it is. -/
theorem ensureImage_leads (session : Session) :
    World.Asks Availability.methods session.world (after ensureImage session).world ∧
      (after ensureImage session).lifecycle = session.lifecycle := by
  -- It is an activity of the surroundings, and those do not touch the lifecycle.
  have opened : ensureImage session = inWorld (Availability.of session.lifecycle.container.image
    session.lifecycle.settings session.lifecycle.logger).ensure session := rfl
  rw [after, opened, ← after, after_inWorld]
  exact ⟨(Availability.ensure_follows _).leads session.world, rfl⟩

/-- What a run asks from the moment on at which the image is there. -/
inductive Conversation (repository branch : String) (ready : Session) : List Query → Prop where
  /-- Nothing is asked where there is no command. -/
  | unasked (empty : ready.commandFor repository branch = "") :
    Conversation repository branch ready []
  /-- Nothing more is asked where no container is created. -/
  | refused (given : ready.commandFor repository branch ≠ "") (cause : Failure)
    (failed : (ready.world.nextOutcome .createContainer).result = .error cause) :
    Conversation repository branch ready
      [.creation ready.lifecycle.container.image.reference (ready.commandFor repository branch)]
  /-- A container that is created is attended to until the first failure, and then removed. -/
  | attended (given : ready.commandFor repository branch ≠ "") (reply : Reply) (cid : String)
    (created : (ready.world.nextOutcome .createContainer).result = .ok reply)
    (named : reply.newCid = .ok (.string cid)) :
    Conversation repository branch ready
      (.creation ready.lifecycle.container.image.reference (ready.commandFor repository branch) ::
        (Query.untilFailure (ready.world.attendance (.string cid)
          ready.lifecycle.settings.waitTimeout) ++ [.removal (.string cid)]))

/-- A conversation is the beginning of one creation, start, wait and reading, with at most one
removal in the end: that of the container that was created. -/
theorem Conversation.shape {repository branch : String} {ready : Session} {queries : List Query}
    (conversation : Conversation repository branch ready queries) :
    ∃ stages removals, queries = stages ++ removals ∧
      stages.map Query.method <+: [.createContainer, .start, .wait, .logs] ∧
      (removals = [] ∨ ∃ reply cid,
        (ready.world.nextOutcome .createContainer).result = .ok reply ∧
        reply.newCid = .ok (.string cid) ∧ removals = [.removal (.string cid)]) := by
  -- The stages that follow a creation are the first ones of start, wait and reading.
  cases conversation with
  | unasked _ => exact ⟨[], [], rfl, List.nil_prefix, Or.inl rfl⟩
  | refused _ _ _ => exact ⟨[_], [], rfl, ⟨[.start, .wait, .logs], rfl⟩, Or.inl rfl⟩
  | attended _ reply cid created named =>
    have first := Query.untilFailure_prefix (ready.world.attendance (.string cid)
      ready.lifecycle.settings.waitTimeout)
    exact ⟨_ :: Query.untilFailure _, [.removal (.string cid)], rfl,
      (List.prefix_cons_inj _).mpr (first.map Query.method),
      Or.inr ⟨reply, cid, created, named, rfl⟩⟩

/-- Once the image is there a run asks for a container, attends to it and removes it. -/
theorem runLoaded_conversation (repository branch : String) {ready : Session}
    (connected : ready.lifecycle.connected = true)
    (new : ready.lifecycle.container.status = none) (names : ready.world.script.NamesContainers) :
    ∃ queries, Conversation repository branch ready queries ∧
      World.Asked queries ready.world (after (runLoaded repository branch) ready).world := by
  -- The daemon answers a creation with a text, or not at all.
  have known : ∀ reply, (ready.world.nextOutcome .createContainer).result = .ok reply →
      ∃ cid, reply.newCid = .ok (.string cid) ∧ ready.world.nextCid = .ok (.string cid) := by
    intro reply created
    obtain ⟨cid, named⟩ := names _ reply created
    refine ⟨cid, named, ?_⟩
    rw [World.nextCid, created]
    exact named
  have unbegun : ready.lifecycle.container.isUnbegun = true := by
    rw [Container.isUnbegun, new]
    rfl
  rcases runLoaded_cases repository branch connected with
    ⟨empty, failure, final, failed, asked⟩ | ⟨given, failure, final, unnamed, failed, asked⟩ |
    ⟨given, cid, named, _, asked, _⟩
  · rw [after_of_error failed]
    exact ⟨[], .unasked empty, asked.world⟩
  · rw [after_of_error failed]
    cases created : (ready.world.nextOutcome .createContainer).result with
    | error cause => exact ⟨_, .refused given cause created, asked.world⟩
    | ok reply =>
      -- A text can always be shortened, so the identifier would have been adopted.
      obtain ⟨cid, _, named⟩ := known reply created
      exact absurd (unnamed _ named unbegun) (by simp [shortened?])
  · cases created : (ready.world.nextOutcome .createContainer).result with
    | error cause =>
      rw [World.nextCid, created] at named
      cases named
    | ok reply =>
      obtain ⟨text, replied, same⟩ := known reply created
      obtain rfl : cid = .string text := by
        rw [named] at same
        cases same
        rfl
      exact ⟨_, .attended given reply text created replied, asked.world⟩

/-- A run connects, makes the image available, and goes on as far as neither of the two fails. -/
theorem run_stages (repository branch : String) {fresh : Session}
    (closed : fresh.lifecycle.connected = false) :
    (∃ failure failed, connect fresh = .error failure failed ∧
      run repository branch fresh = .error failure failed) ∨
    ∃ connected, connect fresh = .ok () connected ∧
      ((∃ failure failed, ensureImage connected = .error failure failed ∧
          run repository branch fresh = .error failure failed ∧
          World.Asks Availability.methods connected.world failed.world) ∨
        ∃ ready, ensureImage connected = .ok () ready ∧
          World.Asks Availability.methods connected.world ready.world ∧
          ready.lifecycle = { fresh.lifecycle with connected := true } ∧
          run repository branch fresh = runLoaded repository branch ready) := by
  have opened : run repository branch fresh =
      (connect >>= fun _ => ensureImage >>= fun _ => runLoaded repository branch) fresh := rfl
  rw [opened]
  -- The first stage that fails decides how the run ends.
  rcases connect_cases closed with ⟨opening, _, done⟩ | ⟨failure, _, failed, _, broken, _⟩
  · let connected : Session := ⟨{ fresh.lifecycle with connected := true }, opening⟩
    obtain ⟨asks, kept⟩ := ensureImage_leads connected
    refine Or.inr ⟨connected, done, ?_⟩
    rw [bind_of_ok done]
    cases awaited : ensureImage connected with
    | error failure failed =>
      rw [after_of_error awaited] at asks
      exact Or.inl ⟨failure, failed, rfl, bind_of_error awaited _, asks⟩
    | ok nothing ready =>
      rw [after_of_ok awaited] at asks kept
      exact Or.inr ⟨ready, rfl, asks, kept, bind_of_ok awaited _⟩
  · exact Or.inl ⟨failure, failed, broken, bind_of_error broken _⟩

/-- A run of a fresh lifecycle ends with the failure to connect or to get the image, and asks for no
container then; otherwise it has the conversation that there is to have about a container. -/
theorem run_conversation (image : Image) (template : String) (settings : Settings)
    (connector : Connector) (world : World) (repository branch : String)
    (names : ∀ connected, connect ⟨.fresh image template settings connector, world⟩ =
      .ok () connected → connected.world.script.NamesContainers) :
    let fresh : Session := ⟨.fresh image template settings connector, world⟩
    (∃ failure failed, connect fresh = .error failure failed ∧
      run repository branch fresh = .error failure failed) ∨
    ∃ connected, connect fresh = .ok () connected ∧
      ((∃ failure failed, ensureImage connected = .error failure failed ∧
          run repository branch fresh = .error failure failed ∧
          World.Asks Availability.methods connected.world failed.world) ∨
        ∃ ready queries, ensureImage connected = .ok () ready ∧
          World.Asks Availability.methods connected.world ready.world ∧
          Conversation repository branch ready queries ∧
          World.Asked queries ready.world (after (run repository branch) fresh).world) := by
  intro fresh
  rcases @run_stages repository branch fresh rfl with broken | ⟨connected, done, missing | found⟩
  · exact Or.inl broken
  · exact Or.inr ⟨connected, done, Or.inl missing⟩
  · obtain ⟨ready, loaded, asks, kept, same⟩ := found
    -- The daemon is still the same when the image is there.
    have names : ready.world.script.NamesContainers := by
      rw [asks.alike.script]
      exact names connected done
    obtain ⟨queries, conversation, asked⟩ :=
      runLoaded_conversation repository branch (by rw [kept]) (by rw [kept]; rfl) names
    refine Or.inr ⟨connected, done, Or.inr ⟨ready, queries, loaded, asks, conversation, ?_⟩⟩
    rwa [after, same, ← after]

/-- With a daemon that answers as usual there is such a conversation. -/
theorem run_conversation_usual :
    let fresh : Session :=
      ⟨.fresh { name := "retirejs" } "scan %GIT_REPO%" .standard Connection.direct,
        { settings := .standard }⟩
    ∃ ready queries, Conversation "repository" "main" ready queries ∧
      World.Asked queries ready.world (after (run "repository" "main") fresh).world := by
  intro fresh
  let connected : Session :=
    { fresh with lifecycle := { fresh.lifecycle with connected := true } }
  have done : connect fresh = .ok () connected := rfl
  have loaded : (ensureImage connected matches .ok _ _) = true := by decide +kernel
  have names : ∀ session, connect fresh = .ok () session →
      session.world.script.NamesContainers := by
    rintro session ⟨⟩ index reply ⟨⟩
    exact ⟨Script.usualCid, rfl⟩
  -- The two ways in which it comes to no conversation are ruled out by this daemon.
  rcases run_conversation { name := "retirejs" } "scan %GIT_REPO%" .standard Connection.direct
    { settings := .standard } "repository" "main" names with
    ⟨failure, failed, broken, _⟩ | ⟨session, opened, found⟩
  · cases done.symm.trans broken
  · obtain rfl : connected = session := by
      cases done.symm.trans opened
      rfl
    rcases found with ⟨failure, failed, missing, _⟩ | ⟨ready, queries, _, _, conversation, asked⟩
    · simp [missing] at loaded
    · exact ⟨ready, queries, conversation, asked⟩

/-- The queries about a container that is created, attended to and removed. -/
def pursuit (reference command : String) (cid : Json) (bound : Int) : List Query :=
  [.creation reference command, .starting cid, .waiting cid bound, .reading cid, .removal cid]

/-- What connecting does to the world is what the connector does, with an event at most. -/
theorem connect_leads {fresh : Session} (closed : fresh.lifecycle.connected = false)
    (connecting : fresh.lifecycle.connector.OnlyConnects) :
    World.Asks [.connect] fresh.world (after connect fresh).world := by
  -- A failure is logged behind the connector, and an event is no query.
  have opens := (connecting fresh.lifecycle.settings).leads fresh.world
  rcases connect_cases closed with
    ⟨world, connects, done⟩ | ⟨failure, world, final, refused, failed, asked, _⟩
  · rw [after_of_ok connects] at opens
    rwa [after_of_ok done]
  · rw [after_of_error refused] at opens
    rw [after_of_error failed]
    exact IsTrans.trans _ _ _ opens (asked.asks (by simp))

/-- Once the image is there a run fails and leaves all records alone, or it ends with a container
that went through everything. -/
theorem runLoaded_finishes (repository branch : String) {ready : Session}
    (connected : ready.lifecycle.connected = true) :
    (∃ failure final, runLoaded repository branch ready = .error failure final ∧
      World.Alike ready.world final.world) ∨
    (∃ container final, runLoaded repository branch ready = .ok container final ∧
      Finished ready.world container ∧
      World.Asked (pursuit ready.lifecycle.container.image.reference
        (ready.commandFor repository branch) container.cid ready.lifecycle.settings.waitTimeout)
          ready.world final.world) := by
  -- Both kinds of refusal leave the records alone, and a success has come through to its end.
  rcases runLoaded_cases repository branch connected with
    ⟨_, failure, final, failed, asked⟩ | ⟨_, failure, final, _, failed, asked⟩ |
    ⟨_, cid, named, _, pursued, finishes⟩
  · exact Or.inl ⟨failure, final, failed, asked.world.toAlike⟩
  · exact Or.inl ⟨failure, final, failed, asked.world.toAlike⟩
  · cases ended : runLoaded repository branch ready with
    | error failure final =>
      rw [after_of_error ended] at pursued
      exact Or.inl ⟨failure, final, rfl, pursued.world.toAlike⟩
    | ok container final =>
      rw [after_of_ok ended] at pursued
      have finished := finishes container final ended
      -- The container that was created is the one that is returned.
      obtain rfl : cid = container.cid := by
        have both := finished.named
        rw [named] at both
        cases both
        rfl
      rw [finished.attendance] at pursued
      exact Or.inr ⟨container, final, rfl, finished, pursued.world⟩

/-- A run fails and leaves all records alone, or it ends with a container that went through
everything, as the daemon was to answer from the beginning. -/
theorem run_cases (image : Image) (template : String) (settings : Settings) (world : World)
    {connector : Connector} (connecting : connector.OnlyConnects) (repository branch : String) :
    let fresh : Session := ⟨.fresh image template settings connector, world⟩
    (∃ failure final, run repository branch fresh = .error failure final ∧
      World.Alike world final.world) ∨
    (∃ container final earlier, run repository branch fresh = .ok container final ∧
      Finished world container ∧
      (∀ query ∈ earlier, query.method ∈ .connect :: Availability.methods) ∧
      World.Asked (earlier ++ pursuit image.reference (fresh.commandFor repository branch)
        container.cid settings.waitTimeout) world final.world) := by
  intro fresh
  have opens := @connect_leads fresh rfl connecting
  rcases @run_stages repository branch fresh rfl with
    ⟨failure, final, broken, failed⟩ |
    ⟨connected, done, ⟨failure, final, missing, failed, asks⟩ | found⟩
  · -- A run that breaks before the image is there has asked nothing about a container.
    rw [after_of_error broken] at opens
    exact Or.inl ⟨failure, final, failed, opens.alike⟩
  · rw [after_of_ok done] at opens
    exact Or.inl ⟨failure, final, failed, opens.alike.trans asks.alike⟩
  · obtain ⟨ready, loaded, asks, kept, same⟩ := found
    rw [after_of_ok done] at opens
    have before : World.Asks (.connect :: Availability.methods) world ready.world :=
      IsTrans.trans _ _ _ (opens.mono (by simp)) (asks.mono (by simp))
    have command : ready.commandFor repository branch = fresh.commandFor repository branch := by
      rw [commandFor, kept, before.alike.settings]
      rfl
    -- Nothing that comes before the container settles what the daemon says about one.
    have answers : ∀ method ∈ [Method.createContainer, .start, .wait, .logs],
        ready.world.nextOutcome method = world.nextOutcome method := fun method member =>
      before.nextOutcome (by revert method; decide)
    obtain ⟨earlier, asked, within⟩ := before
    rw [same]
    rcases runLoaded_finishes repository branch (by rw [kept]) with
      ⟨failure, final, failed, alike⟩ | ⟨container, final, ended, finished, pursued⟩
    · exact Or.inl ⟨failure, final, failed, asked.toAlike.trans alike⟩
    · rw [kept, command] at pursued
      exact Or.inr ⟨container, final, earlier, ended, finished.earlier answers, within,
        asked.trans pursued⟩

end Session

end ContainerScan
