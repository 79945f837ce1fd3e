import ContainerScan.Proofs.Lifecycle.Reuse
import Mathlib.Logic.Relation

/-! Whatever is done with a lifecycle leads on: its container only gets further, and the daemon is
only asked over a client that is there. -/

namespace ContainerScan

namespace Container

/-- How far a container has come; without a status it has not come anywhere. -/
def progress (container : Container) : Nat :=
  container.status.elim 0 fun status => status.rank + 1

/-- A status is noted if the container has not come any further, and is refused otherwise. -/
theorem advance_cases (container : Container) (status : Status) :
    (container.advance status = .ok { container with status := some status } ∧
      container.progress ≤ status.rank + 1) ∨
    ∃ failure, container.advance status = .error failure := by
  -- A status may follow any one that is not behind it.
  unfold advance progress
  cases same : container.status with
  | none => exact Or.inl ⟨rfl, Nat.zero_le _⟩
  | some current =>
    by_cases back : status.rank < current.rank
    · exact Or.inr ⟨_, if_pos back⟩
    · exact Or.inl ⟨if_neg back, Nat.succ_le_succ (Nat.not_lt.mp back)⟩

end Container

/-- Whether a method asks over a client, and neither opens one nor gives it back. -/
def Method.needsClient : Method → Bool
  | .connect | .close => false
  | _ => true

namespace World

/-- What was created between two worlds was created between any two that lie around them. -/
theorem Created.widen {first second third fourth : World} {cid : Json}
    (created : Created second third cid) (script : second.script = first.script)
    (earlier : first.calls <+: second.calls) (later : third.calls <+: fourth.calls) :
    Created first fourth cid := by
  -- Calls are only ever added, so there are fewer before and more behind.
  obtain ⟨number, reply, from_, before, answered, named⟩ := created
  refine ⟨number, reply, ?_, ?_, by rwa [← script], named⟩
  · exact Nat.le_trans earlier.sublist.countP_le from_
  · exact Nat.lt_of_lt_of_le before later.sublist.countP_le

end World

namespace Session

open Step

/-- What is done to open a client. -/
def connecting (session : Session) : Step World Unit :=
  session.lifecycle.connector session.lifecycle.settings

/-- One thing that happens to a client, where one may be opened or not. -/
inductive Turn (opening : Bool) (before after : Session) : Prop where
  /-- The daemon is asked nothing, and the client is there or not as before. -/
  | quiet (calls : after.world.calls = before.world.calls)
      (connected : after.lifecycle.connected = before.lifecycle.connected)
  /-- The daemon is asked over a client that is there and stays. -/
  | asked (there : before.lifecycle.connected = true) (stays : after.lifecycle.connected = true)
      (grown : ∃ made, after.world.calls = before.world.calls ++ made ∧
        ∀ call ∈ made, call.method.needsClient = true)
  /-- A client is looked for where there is none, with the calls to connect that the connector
  makes, and is there afterwards exactly if the connector succeeds. -/
  | sought (may : opening = true) (absent : before.lifecycle.connected = false)
      (grown : ∃ made, after.world.calls = before.world.calls ++ made ∧
        ∀ call ∈ made, call.method = .connect)
      (calls : after.world.calls = (Step.after before.connecting before.world).calls)
      (found : after.lifecycle.connected = (result before.connecting before.world).isOk)
  /-- A client that is there is given back, with one call. -/
  | closed (there : before.lifecycle.connected = true) (gone : after.lifecycle.connected = false)
      (grown : ∃ call, call.method = .close ∧ after.world.calls = before.world.calls ++ [call])

/-- One thing happens to a client, and the daemon and the way to connect to it stay the same. -/
structure Move (opening : Bool) (before after : Session) : Prop where
  connector : after.lifecycle.connector = before.lifecycle.connector
  settings : after.lifecycle.settings = before.lifecycle.settings
  script : after.world.script = before.world.script
  turn : Turn opening before after

/-- Things happen to a client one after the other. -/
def Moves (opening : Bool) : Session → Session → Prop :=
  Relation.ReflTransGen (Move opening)

variable {opening : Bool}

/-- Calls are only ever added. -/
theorem Turn.grown {before after : Session} (turn : Turn opening before after) :
    before.world.calls <+: after.world.calls := by
  -- Whatever a turn asks is added to the calls.
  cases turn with
  | quiet calls _ => exact calls ▸ List.prefix_rfl
  | asked _ _ grown =>
    obtain ⟨made, grown, _⟩ := grown
    exact ⟨made, grown.symm⟩
  | sought _ _ grown =>
    obtain ⟨made, grown, _⟩ := grown
    exact ⟨made, grown.symm⟩
  | closed _ _ grown =>
    obtain ⟨call, _, grown⟩ := grown
    exact ⟨[call], grown.symm⟩

/-- Calls are only ever added, whatever happens to the client. -/
theorem Moves.grown {before after : Session} (moves : Moves opening before after) :
    before.world.calls <+: after.world.calls := by
  induction moves with
  | refl => exact List.prefix_rfl
  | tail _ move ih => exact ih.trans move.turn.grown

/-- The daemon stays the same, whatever happens to the client. -/
theorem Moves.script {before after : Session} (moves : Moves opening before after) :
    after.world.script = before.world.script := by
  induction moves with
  | refl => rfl
  | tail _ move ih => exact move.script.trans ih

/-- The connector stays the same, whatever happens to the client. -/
theorem Moves.connector {before after : Session} (moves : Moves opening before after) :
    after.lifecycle.connector = before.lifecycle.connector := by
  induction moves with
  | refl => rfl
  | tail _ move ih => exact move.connector.trans ih

/-- While no client is opened, a client that is not there stays away, and nothing is asked. -/
theorem Moves.idle {before after : Session} (moves : Moves false before after)
    (absent : before.lifecycle.connected = false) :
    after.lifecycle.connected = false ∧ after.world.calls = before.world.calls := by
  induction moves with
  | refl => exact ⟨absent, rfl⟩
  | tail _ move ih =>
    obtain ⟨away, same⟩ := ih
    -- Of the four turns only a quiet one is left.
    cases move.turn with
    | quiet calls connected => exact ⟨connected.trans away, calls.trans same⟩
    | asked there _ _ => exact absurd (away.symm.trans there) (by decide)
    | sought may _ _ _ _ => cases may
    | closed there _ _ => exact absurd (away.symm.trans there) (by decide)

/-- Where no client may be opened, nothing happens but what may happen where one may. -/
theorem Turn.unrestricted {before after : Session} (turn : Turn opening before after) :
    Turn true before after := by
  -- A turn that may open a client is the only one that asks for more.
  cases turn with
  | quiet calls connected => exact .quiet calls connected
  | asked there stays grown => exact .asked there stays grown
  | sought _ absent grown calls found => exact .sought rfl absent grown calls found
  | closed there gone grown => exact .closed there gone grown

/-- Any number of moves is one where a client may be opened. -/
theorem Moves.unrestricted {before after : Session} (moves : Moves opening before after) :
    Moves true before after :=
  Relation.ReflTransGen.mono (fun _ _ move => { move with turn := move.turn.unrestricted })
    _ _ moves

/-- One session leads on to another: by moves of the client, with a container that has not gone back
and has another identifier only if that was created. -/
structure Onward (opening : Bool) (before after : Session) : Prop where
  moves : Moves opening before after
  progress : before.lifecycle.container.progress ≤ after.lifecycle.container.progress
  cid : after.lifecycle.container.cid = before.lifecycle.container.cid ∨
    World.Created before.world after.world after.lifecycle.container.cid

/-- Sessions lead on from one to the next. -/
instance : IsPreorder Session (Onward opening) where
  refl session := ⟨.refl, Nat.le_refl _, Or.inl rfl⟩
  trans first second third one two := by
    refine ⟨one.moves.trans two.moves, Nat.le_trans one.progress two.progress, ?_⟩
    -- The last identifier that was created is the one that stays.
    rcases two.cid with same | created
    · rw [same]
      rcases one.cid with same | created
      · exact Or.inl same
      · exact Or.inr (created.widen rfl List.prefix_rfl two.moves.grown)
    · exact Or.inr (created.widen one.moves.script one.moves.grown List.prefix_rfl)

/-- What leads on while no client is opened leads on where one may be. -/
theorem Onward.unrestricted {before after : Session} (onward : Onward opening before after) :
    Onward true before after :=
  ⟨onward.moves.unrestricted, onward.progress, onward.cid⟩

/-! What each part of an operation leads to. -/

/-- Whatever asks nothing and leaves client, identifier and status as they are leads on. -/
theorem onward_of_quiet {before after : Session}
    (connector : after.lifecycle.connector = before.lifecycle.connector)
    (settings : after.lifecycle.settings = before.lifecycle.settings)
    (connected : after.lifecycle.connected = before.lifecycle.connected)
    (script : after.world.script = before.world.script)
    (calls : after.world.calls = before.world.calls)
    (progress : before.lifecycle.container.progress ≤ after.lifecycle.container.progress)
    (cid : after.lifecycle.container.cid = before.lifecycle.container.cid) :
    Onward opening before after :=
  ⟨.single ⟨connector, settings, script, .quiet calls connected⟩, progress, Or.inl cid⟩

/-- An activity of the surroundings that asks nothing leads on. -/
theorem inWorld_onward {α : Type} {act : Step World α} (asks : Follows (World.Asks []) act) :
    Follows (Onward opening) (inWorld act) := by
  -- Nothing is asked, and the container is left alone.
  refine ⟨fun session => ?_⟩
  have led := asks.leads session.world
  rw [after_inWorld]
  exact onward_of_quiet rfl rfl rfl led.alike.script led.silent (Nat.le_refl _) rfl

/-- Writing an event leads on. -/
theorem log_onward (level : Level) (message : String) (fields : Event) :
    Follows (Onward opening) (log level message fields) :=
  follows_get.bind fun session =>
    inWorld_onward (World.log_follows [] session.lifecycle.logger level message fields)

/-- Without a client no call is made. -/
theorem call_of_disconnected {session : Session} (absent : session.lifecycle.connected = false)
    (method : Method) (positional : List Json) (named : List (String × Json)) :
    call method positional named session =
      .error (.connectionSetup "not connected; call connect() first") session := by
  change (if session.lifecycle.connected then _ else _ : Step Session Reply) session = _
  rw [absent]
  rfl

/-- With a client a call is one of the surroundings. -/
theorem call_of_connected {session : Session} (there : session.lifecycle.connected = true)
    (method : Method) (positional : List Json) (named : List (String × Json)) :
    call method positional named session =
      inWorld (World.call method positional named) session := by
  change (if session.lifecycle.connected then _ else _ : Step Session Reply) session = _
  rw [there]
  rfl

/-- Calls of the surroundings over a client that is there lead on. -/
theorem inWorld_onward_of_connected {α : Type} {methods : List Method} {act : Step World α}
    (asks : Follows (World.Asks methods) act)
    (needs : ∀ method ∈ methods, method.needsClient = true) {session : Session}
    (there : session.lifecycle.connected = true) :
    Onward opening session (after (inWorld act) session) := by
  -- What is asked needs the client, which is there and stays.
  obtain ⟨made, grown, within⟩ := (asks.leads session.world).made
  rw [after_inWorld]
  have move : Move opening session { session with world := after act session.world } :=
    ⟨rfl, rfl, (asks.leads session.world).alike.script,
      .asked there there ⟨made, grown, fun call member => needs _ (within call member)⟩⟩
  exact ⟨.single move, Nat.le_refl _, Or.inl rfl⟩

/-- A call leads on: without a client it is not made. -/
theorem call_onward {method : Method} (needs : method.needsClient = true) (positional : List Json)
    (named : List (String × Json)) : Follows (Onward opening) (call method positional named) := by
  -- Without a client nothing is asked, and with one it is asked over that.
  refine ⟨fun session => ?_⟩
  cases connected : session.lifecycle.connected with
  | false =>
    rw [after_of_error (call_of_disconnected connected ..)]
    exact refl session
  | true =>
    have asks : Follows (World.Asks [method]) (World.call method positional named) :=
      World.call_follows (by simp) ..
    rw [after_of_eq (call_of_connected connected ..)]
    exact inWorld_onward_of_connected asks (by simpa using needs) connected

/-- Looking at the container leads on. -/
theorem container_onward : Follows (Onward opening) container :=
  ⟨fun session => refl session⟩

/-- A status that is noted is a later one, and one that is refused changes nothing. -/
theorem advance_onward (status : Status) : Follows (Onward opening) (advance status) := by
  -- A status that may follow is later, and any other one is refused.
  refine ⟨fun session => ?_⟩
  rcases session.lifecycle.container.advance_cases status with ⟨next, later⟩ | ⟨failure, back⟩
  · rw [after_of_ok (advance_apply next)]
    exact onward_of_quiet rfl rfl rfl rfl rfl later rfl
  · rw [after_of_error (advance_of_error back)]
    exact refl session

/-- A change of the container that leaves its identifier and status leads on, with what follows. -/
theorem amend_onward {α : Type} {change : Container → Container}
    {next : Container → Step Session α}
    (same : ∀ container, (change container).cid = container.cid ∧
      (change container).status = container.status)
    (following : ∀ container, Follows (Onward opening) (next container)) :
    Follows (Onward opening) (do
      let before ← container
      setContainer (change before)
      next before) := by
  -- Neither the id nor the status changes, so the container is where it was.
  refine ⟨fun session => ?_⟩
  obtain ⟨cid, status⟩ := same session.lifecycle.container
  have changed : Onward opening session
      (session.withContainer (change session.lifecycle.container)) :=
    onward_of_quiet rfl rfl rfl rfl rfl
      (by simp only [withContainer, Container.progress, status, Nat.le_refl]) cid
  exact IsTrans.trans _ _ _ changed ((following _).leads _)

/-- Whoever writes about the lifecycle may get further values. -/
theorem bindLogger_onward (fields : Event) : Follows (Onward opening) (bindLogger fields) :=
  ⟨fun _ => onward_of_quiet rfl rfl rfl rfl rfl (Nat.le_refl _) rfl⟩

/-- A failure that is named after an operation leads on. -/
theorem failAs_onward {α : Type} (message name : String) (fields : Event) (cid : Json)
    (text : String) :
    Follows (Onward opening) (failAs message name fields cid text : Step Session α) :=
  (log_onward ..).bind fun _ => follows_throw _

/-- A failure that ends the container's life leads on. -/
theorem endAs_onward {α : Type} (message name text : String) :
    Follows (Onward opening) (endAs message name text : Step Session α) :=
  (advance_onward .finished).bind fun _ => container_onward.bind fun _ => failAs_onward ..

/-- A wait that is cut off leads on. -/
theorem cutOff_onward {α : Type} (bound : Int) :
    Follows (Onward opening) (cutOff bound : Step Session α) :=
  (advance_onward .finished).bind fun _ => (log_onward ..).bind fun _ =>
    container_onward.bind fun _ => follows_throw _

/-! What each operation leads to. -/

/-- The moment that the clock shows leads on. -/
theorem now_onward : Follows (Onward opening) now :=
  inWorld_onward ⟨fun world => refl world⟩

/-- Resolving a command leads on. -/
theorem resolveCommand_onward (repository branch : String) :
    Follows (Onward opening) (resolveCommand repository branch) := by
  refine follows_get.bind fun session => Follows.bind (inWorld_onward ⟨fun world => ?_⟩) ?_
  · -- A command is resolved with a warning at most.
    obtain ⟨events, resolved⟩ :=
      Command.resolveLogged_apply repository branch session.lifecycle.template none world
    rw [after_of_ok resolved]
    exact (World.asked_events world events).asks (by simp)
  · intro command
    split
    · exact (log_onward ..).bind fun _ => follows_throw _
    · exact follows_pure _

/-- A request for a container leads on. -/
theorem requestContainer_onward (command : String) :
    Follows (Onward opening) (requestContainer command) :=
  container_onward.bind fun _ => (call_onward rfl ..).onDaemonFailure fun _ _ => failAs_onward ..

/-- Introducing a container leads on. -/
theorem introduce_onward (cid : Json) : Follows (Onward opening) (introduce cid) := by
  -- An id that cannot be shortened is refused before anything is written.
  unfold introduce
  split
  · exact follows_throw _
  · exact (bindLogger_onward _).bind fun _ => (log_onward ..).bind fun _ => follows_pure _

/-- A container was created between the question for it and an answer that names it. -/
theorem created_afterQuery {session : Session} {reference command : String} {reply : Reply}
    {cid : Json}
    (answered : (session.world.nextOutcome .createContainer).result = .ok reply)
    (named : reply.newCid = .ok cid) :
    World.Created session.world (session.afterQuery (.creation reference command)).world cid := by
  refine ⟨session.world.callCount .createContainer, reply, Nat.le_refl _, ?_, answered, named⟩
  rw [(tended_afterQuery session (.creation reference command)).world.callCount]
  simp [Query.creation]

/-- To adopt an identifier that came back for a created container leads on. -/
theorem adopt_onward {before session : Session} (onward : Onward opening before session)
    {cid : Json} (created : World.Created before.world session.world cid) :
    Onward opening before (after (adopt cid) session) := by
  -- The id is set because the daemon has just created that container.
  let noted := session.withContainer { session.lifecycle.container with cid := cid }
  have adopted : Onward opening before noted :=
    ⟨onward.moves.tail ⟨rfl, rfl, rfl, .quiet rfl rfl⟩, onward.progress, Or.inr created⟩
  have introduced : Follows (Onward opening) (advance .created >>= fun _ => introduce cid) :=
    (advance_onward .created).bind fun _ => introduce_onward cid
  exact IsTrans.trans _ _ _ adopted (introduced.leads noted)

/-- Without a client no container is asked for. -/
theorem requestContainer_of_disconnected {session : Session}
    (absent : session.lifecycle.connected = false) (command : String) :
    requestContainer command session =
      .error (.connectionSetup "not connected; call connect() first") session := by
  unfold requestContainer
  rw [bind_apply]
  simp only [container, onDaemonFailure, call_of_disconnected absent]

/-- A reply to the request for a container is the daemon's answer. -/
theorem answered_of_requestContainer {command : String} {session final : Session} {reply : Reply}
    (done : requestContainer command session = .ok reply final) :
    (session.world.nextOutcome .createContainer).result = .ok reply ∧
      final = session.afterQuery
        (.creation session.lifecycle.container.image.reference command) := by
  -- A success has asked the daemon, which it can do over a client only.
  cases connected : session.lifecycle.connected with
  | false =>
    rw [requestContainer_of_disconnected connected] at done
    cases done
  | true =>
    rcases requestContainer_cases command connected with
      ⟨_, answered, asked⟩ | ⟨_, _, _, _, failed, _⟩
    · rw [asked] at done
      cases done
      exact ⟨answered, rfl⟩
    · rw [failed] at done
      cases done

/-- A container that the daemon has created is adopted under the identifier that came back. -/
theorem requestContainer_adopt_onward (command : String) :
    Follows (Onward opening) (requestContainer command >>= fun reply =>
      Step.ofExcept reply.newCid >>= adopt) := by
  -- Between the reply and the id that is taken from it nothing else is asked.
  refine ⟨fun session => ?_⟩
  have requested : Onward opening session (after (requestContainer command) session) :=
    (requestContainer_onward command).leads session
  cases ended : requestContainer command session with
  | error failure final =>
    rw [after_of_error ended] at requested
    rwa [after_of_error (bind_of_error ended _)]
  | ok reply final =>
    rw [after_of_ok ended] at requested
    rw [after_of_eq (bind_of_ok ended _)]
    obtain ⟨answered, rfl⟩ := answered_of_requestContainer ended
    cases named : reply.newCid with
    | error failure => exact requested
    | ok cid => exact adopt_onward requested (created_afterQuery answered named)

/-- Creating a container leads on. -/
theorem create_onward (repository branch : String) :
    Follows (Onward opening) (create repository branch) :=
  (resolveCommand_onward repository branch).bind fun command =>
    amend_onward (fun _ => ⟨rfl, rfl⟩) fun _ => requestContainer_adopt_onward command

/-- Starting a container leads on. -/
theorem start_onward : Follows (Onward opening) start := by
  -- The moment is noted first, then the call made, and the status changed behind it.
  refine now_onward.bind fun moment => amend_onward (fun _ => ⟨rfl, rfl⟩) fun _ => ?_
  refine container_onward.bind fun _ => Follows.bind ?_ fun _ =>
    (advance_onward .running).bind fun _ => log_onward ..
  exact (call_onward rfl ..).discard.onDaemonFailure fun _ _ => endAs_onward ..

/-- Noting an exit leads on. -/
theorem noteExit_onward (members : List (String × Json)) :
    Follows (Onward opening) (noteExit members) := by
  -- With and without an exit code neither the id nor the status is touched.
  refine (follows_ofExcept _).bind fun code => amend_onward (fun _ => ⟨rfl, rfl⟩) fun _ => ?_
  dsimp only
  split
  · exact (follows_ofExcept _).bind fun _ => (log_onward ..).bind fun _ => follows_pure _
  · exact follows_pure _

/-- Waiting for a container leads on. -/
theorem wait_onward : Follows (Onward opening) wait := by
  -- A wait that is cut off ends the container, and so does one that fails.
  refine Follows.bind ?_ fun reply => (follows_ofExcept _).bind fun members => noteExit_onward _
  refine follows_get.bind fun session => container_onward.bind fun _ => ?_
  refine (call_onward rfl ..).onDaemonFailure fun fault text => ?_
  split
  · exact cutOff_onward _
  · exact endAs_onward ..

/-- Reading a container's output leads on. -/
theorem readOutput_onward : Follows (Onward opening) readOutput := by
  -- The status is advanced in any case, whatever became of the call.
  refine now_onward.bind fun moment => amend_onward (fun _ => ⟨rfl, rfl⟩) fun _ => ?_
  refine Follows.bind ?_ fun reply => (follows_ofExcept _).bind fun bytes =>
    amend_onward (fun _ => ⟨rfl, rfl⟩) fun _ => container_onward.bind fun _ =>
      (log_onward ..).bind fun _ => follows_pure _
  exact (container_onward.bind fun _ =>
    (call_onward rfl ..).onDaemonFailure fun _ _ => failAs_onward ..).ensuring (advance_onward _)

/-- Finding out which container an operation is about leads on. -/
theorem target_onward (cid : Json) : Follows (Onward opening) (target cid) := by
  -- An id is looked for in the lifecycle alone.
  unfold target
  split
  · exact follows_pure _
  · exact container_onward.bind fun _ => follows_pure _

/-- Stopping a container leads on. -/
theorem stop_onward (cid : Json) : Follows (Onward opening) (stop cid) :=
  (target_onward cid).bind fun _ =>
    ((call_onward rfl ..).discard.onDaemonFailure fun _ _ => failAs_onward ..).bind fun _ =>
      log_onward ..

/-- Removing a container leads on. -/
theorem remove_onward (cid : Json) (force : Bool) : Follows (Onward opening) (remove cid force) :=
  (target_onward cid).bind fun _ =>
    ((call_onward rfl ..).discard.onDaemonFailure fun _ _ => failAs_onward ..).bind fun _ =>
      log_onward ..

/-- Clearing up leads on. -/
theorem cleanup_onward : Follows (Onward opening) cleanup :=
  (remove_onward .null true).handling _ fun _ => follows_pure _

/-- Listing images leads on. -/
theorem listImages_onward : Follows (Onward opening) listImages :=
  (call_onward rfl ..).onDaemonFailure fun _ _ => failAs_onward ..

/-- Removing an image leads on. -/
theorem removeImage_onward (id : String) : Follows (Onward opening) (removeImage id) :=
  ((call_onward rfl ..).discard.onDaemonFailure fun _ _ => failAs_onward ..).bind fun _ =>
    log_onward ..

/-- Asking for a client leads on. -/
theorem requireClient_onward : Follows (Onward opening) requireClient := by
  -- Nothing is asked to find out whether there is a client.
  refine follows_get.bind fun session => ?_
  split
  · exact follows_throw _
  · exact follows_pure _

/-- Where there is no client, one is there afterwards exactly if the connector succeeds; behind the
calls of the connector there may be an event, and otherwise the lifecycle stays as it is. -/
theorem after_connect {session : Session} (absent : session.lifecycle.connected = false) :
    World.Asked [] (after session.connecting session.world) (after connect session).world ∧
      (after connect session).lifecycle = { session.lifecycle with
        connected := (result session.connecting session.world).isOk } := by
  -- Whatever the connector has done stays, and a failure adds an event to it.
  unfold connecting
  rcases connect_cases absent with
    ⟨world, opened, done⟩ | ⟨failure, world, final, refused, failed, logged, same⟩
  · rw [after_of_ok opened, result_of_ok opened, after_of_ok done]
    exact ⟨World.Asked.refl world, rfl⟩
  · rw [after_of_error refused, result_of_error refused, after_of_error failed]
    refine ⟨logged, same.trans ?_⟩
    rw [Except.isOk, Except.toBool, ← absent]

/-- Opening a client leads on, if the connector does nothing but connect. -/
theorem connect_onward {session : Session}
    (connects : session.lifecycle.connector.OnlyConnects) :
    Onward true session (after connect session) := by
  -- A client that is there is kept; otherwise what is asked for is to connect, and nothing else.
  cases connected : session.lifecycle.connected with
  | true =>
    rw [after_of_ok (connect_of_connected connected)]
    exact refl session
  | false =>
    obtain ⟨logged, same⟩ := after_connect connected
    have asks : World.Asks [.connect] session.world (after session.connecting session.world) :=
      (connects session.lifecycle.settings).leads session.world
    obtain ⟨made, grown, within⟩ := asks.made
    have calls : (after connect session).world.calls = _ := (logged.asks (by simp)).silent
    -- This is the one turn that a session takes without a client.
    have turn : Turn true session (after connect session) :=
      .sought rfl connected
        ⟨made, calls.trans grown, fun call member => List.mem_singleton.mp (within call member)⟩
        calls (by rw [same])
    have script := logged.script.trans asks.alike.script
    have still : (after connect session).lifecycle.container = session.lifecycle.container := by
      rw [same]
    exact ⟨.single ⟨by rw [same], by rw [same], script, turn⟩, Nat.le_of_eq (by rw [still]),
      Or.inl (by rw [still])⟩

/-- Giving a client back leads on. -/
theorem close_onward : Follows (Onward opening) close := by
  -- Closing is the last call over a client, and the client is gone behind it.
  refine ⟨fun session => ?_⟩
  have opened : close session = (if session.lifecycle.connected then
      inWorld World.closeClient >>= fun _ => setConnected false else pure ()) session := rfl
  rw [after_of_eq opened]
  cases connected : session.lifecycle.connected with
  | false => exact refl session
  | true =>
    exact ⟨.single ⟨rfl, rfl, rfl, .closed connected rfl ⟨_, rfl, rfl⟩⟩, Nat.le_refl _, Or.inl rfl⟩

/-- After a client was opened there is one. -/
theorem connected_of_connect {session final : Session} (done : connect session = .ok () final) :
    final.lifecycle.connected = true := by
  -- A client was there before, or the connector has opened one.
  cases connected : session.lifecycle.connected with
  | true =>
    rw [connect_of_connected connected] at done
    cases done
    exact connected
  | false =>
    rcases connect_cases connected with ⟨world, _, opened⟩ | ⟨_, _, _, _, failed, _⟩
    · rw [opened] at done
      cases done
      rfl
    · rw [failed] at done
      cases done

/-- A run leads on, if the connector does nothing but connect. -/
theorem run_onward (repository branch : String) {session : Session}
    (connecting : session.lifecycle.connector.OnlyConnects) :
    Onward true session (after (run repository branch) session) := by
  have later : Follows (Onward true) (do
      discard (create repository branch)
      Step.ensuring execute cleanup
      container) := by
    refine (create_onward repository branch).discard.bind fun _ => ?_
    refine (Follows.ensuring ?_ cleanup_onward).bind fun _ => container_onward
    exact start_onward.bind fun _ => wait_onward.discard.bind fun _ => readOutput_onward.discard
  -- The image is waited for over the client that was opened before.
  refine leads_bind (connect_onward connecting) fun _ middle done => ?_
  refine leads_bind ?_ fun _ ready _ => later.leads ready
  exact inWorld_onward_of_connected (Availability.ensure_follows _) (by decide)
    (connected_of_connect done)

end Session

end ContainerScan
