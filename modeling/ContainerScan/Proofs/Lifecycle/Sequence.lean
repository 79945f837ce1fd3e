import ContainerScan.Proofs.Lifecycle.Order

/-! Operations of a lifecycle in any number and order, of which any may fail. -/

namespace ContainerScan.Session

open Step

/-- Something that is done with a lifecycle. -/
inductive Action where
  | connect
  | requireClient
  | create (repository branch : String)
  | start
  | wait
  | readOutput
  | run (repository branch : String)
  | cleanup
  | stop (cid : Json)
  | remove (cid : Json) (force : Bool)
  | listImages
  | removeImage (id : String)
  | close
  | advance (status : Status)

namespace Action

/-- What is done, where the value that comes of it does not matter. -/
def act : Action → Step Session Unit
  | connect => Session.connect
  | requireClient => Session.requireClient
  | create repository branch => discard (Session.create repository branch)
  | start => Session.start
  | wait => discard Session.wait
  | readOutput => discard Session.readOutput
  | run repository branch => discard (Session.run repository branch)
  | cleanup => Session.cleanup
  | stop cid => Session.stop cid
  | remove cid force => Session.remove cid force
  | listImages => discard Session.listImages
  | removeImage id => Session.removeImage id
  | close => Session.close
  | advance status => Session.advance status

/-- Whether an action begins by opening a client. -/
def opens : Action → Bool
  | connect | run _ _ => true
  | _ => false

/-- Whether an action is about the client or the daemon, and not about the container's record. -/
def sparesContainer : Action → Bool
  | connect | cleanup | stop _ | remove _ _ | listImages | removeImage _ | close => true
  | _ => false

end Action

/-- Every action leads on, if the connector does nothing but connect. -/
theorem act_onward (action : Action) {session : Session}
    (connecting : session.lifecycle.connector.OnlyConnects) :
    Onward action.opens session (after action.act session) := by
  -- Each action has a lemma of its own, and only a run is made of several.
  cases action with
  | connect => exact connect_onward connecting
  | requireClient => exact requireClient_onward.leads session
  | create repository branch => exact (create_onward repository branch).discard.leads session
  | start => exact start_onward.leads session
  | wait => exact wait_onward.discard.leads session
  | readOutput => exact readOutput_onward.discard.leads session
  | run repository branch =>
    change Onward true session (after (discard (Session.run repository branch)) session)
    rw [after_discard]
    exact run_onward repository branch connecting
  | cleanup => exact cleanup_onward.leads session
  | stop cid => exact (stop_onward cid).leads session
  | remove cid force => exact (remove_onward cid force).leads session
  | listImages => exact listImages_onward.discard.leads session
  | removeImage id => exact (removeImage_onward id).leads session
  | close => exact close_onward.leads session
  | advance status => exact (advance_onward status).leads session

/-- A session after some actions, of which any may have failed. -/
def pursue (actions : List Action) (session : Session) : Session :=
  actions.foldl (fun session action => after action.act session) session

/-- Any number of actions leads on. -/
theorem pursue_onward (actions : List Action) {session : Session}
    (connecting : session.lifecycle.connector.OnlyConnects) :
    Onward true session (pursue actions session) := by
  -- The connector stays the same, so it does nothing but connect in the next session either.
  induction actions generalizing session with
  | nil => exact refl session
  | cons action rest ih =>
    have first := act_onward action connecting
    exact IsTrans.trans _ _ _ first.unrestricted (ih (first.moves.connector ▸ connecting))

/-! Operations that have no part in the container's record. -/

/-- The container's record is the same in two sessions. -/
def Spares (before after : Session) : Prop :=
  after.lifecycle.container = before.lifecycle.container

/-- A record stays the same over any number of sessions. -/
instance : IsPreorder Session Spares where
  refl _ := rfl
  trans _ _ _ one two := two.trans one

/-- The surroundings have no part in the record. -/
theorem inWorld_spares {α : Type} (act : Step World α) : Follows Spares (inWorld act) := by
  refine ⟨fun session => ?_⟩
  rw [after_inWorld]
  rfl

/-- Writing an event spares the record. -/
theorem log_spares (level : Level) (message : String) (fields : Event) :
    Follows Spares (log level message fields) :=
  follows_get.bind fun _ => inWorld_spares _

/-- A call spares the record. -/
theorem call_spares (method : Method) (positional : List Json) (named : List (String × Json)) :
    Follows Spares (call method positional named) := by
  -- A call is made over the client, whose lifecycle it does not see.
  refine follows_get.bind fun session => ?_
  split
  · exact inWorld_spares _
  · exact follows_throw _

/-- A query under a handler that names its failure spares the record. -/
theorem ask_spares {α : Type} {act : Step Session α} (spares : Follows Spares act)
    (message name : String) (fields : Event) (cid : Json) :
    Follows Spares (onDaemonFailure act fun _ text => failAs message name fields cid text) :=
  spares.onDaemonFailure fun _ _ => (log_spares ..).bind fun _ => follows_throw _

/-- Finding out which container an operation is about spares the record. -/
theorem target_spares (cid : Json) : Follows Spares (target cid) := by
  -- The container is looked at, not changed.
  unfold target
  split
  · exact follows_pure _
  · exact Follows.bind ⟨fun _ => rfl⟩ fun _ => follows_pure _

/-- Removing a container spares its record. -/
theorem remove_spares (cid : Json) (force : Bool) : Follows Spares (remove cid force) :=
  (target_spares cid).bind fun _ =>
    (ask_spares (call_spares ..).discard ..).bind fun _ => log_spares ..

/-- Opening a client spares the record. -/
theorem connect_spares : Follows Spares connect := by
  -- The one thing that changes is whether there is a client.
  refine follows_get.bind fun session => ?_
  dsimp only
  split
  · refine Follows.bind ?_ fun _ => ⟨fun _ => rfl⟩
    exact (inWorld_spares _).handling _ fun _ => (log_spares ..).bind fun _ => follows_throw _
  · exact follows_pure _

/-- Giving a client back spares the record. -/
theorem close_spares : Follows Spares close := by
  -- The one thing that changes is whether there is a client.
  refine follows_get.bind fun session => ?_
  split
  · exact (inWorld_spares _).bind fun _ => ⟨fun _ => rfl⟩
  · exact follows_pure _

/-- An action about client or daemon spares the container's record. -/
theorem act_spares {action : Action} (spares : action.sparesContainer = true) :
    Follows Spares action.act := by
  -- The actions that touch the container are ruled out by assumption.
  cases action with
  | connect => exact connect_spares
  | cleanup => exact (remove_spares .null true).handling _ fun _ => follows_pure _
  | stop cid =>
    exact (target_spares cid).bind fun _ =>
      (ask_spares (call_spares ..).discard ..).bind fun _ => log_spares ..
  | remove cid force => exact remove_spares cid force
  | listImages => exact (ask_spares (call_spares ..) ..).discard
  | removeImage id => exact (ask_spares (call_spares ..).discard ..).bind fun _ => log_spares ..
  | close => exact close_spares
  | requireClient | create _ _ | start | wait | readOutput | run _ _ | advance _ => cases spares

/-! What holds of every sequence of actions. -/

/-- One action in order, whether it succeeds or fails. -/
structure InOrder (action : Action) (before : Session) : Prop where
  /-- The container does not go back. -/
  progress : before.lifecycle.container.progress ≤
    (after action.act before).lifecycle.container.progress
  /-- It has another identifier only if that came back from the daemon for a created container. -/
  cid : (after action.act before).lifecycle.container.cid = before.lifecycle.container.cid ∨
    World.Created before.world (after action.act before).world
      (after action.act before).lifecycle.container.cid
  /-- The client comes and goes by its moves, and an action that does not open one does not either
  on the way. -/
  moves : Moves action.opens before (after action.act before)
  /-- Where there is no client, only an action that opens one asks anything. -/
  idle : before.lifecycle.connected = false → action.opens = false →
    (after action.act before).lifecycle.connected = false ∧
      (after action.act before).world.calls = before.world.calls
  /-- A status that is refused changes nothing. -/
  rejected : ∀ status failure, action = .advance status →
    result action.act before = .error failure → after action.act before = before
  /-- An action about client or daemon leaves the container's record as it is. -/
  spared : action.sparesContainer = true →
    (after action.act before).lifecycle.container = before.lifecycle.container

/-- Every action is in order, if the connector does nothing but connect. -/
theorem act_inOrder (action : Action) {session : Session}
    (connecting : session.lifecycle.connector.OnlyConnects) : InOrder action session := by
  have onward := act_onward action connecting
  refine ⟨onward.progress, onward.cid, onward.moves, ?_, ?_, ?_⟩
  · intro absent closed
    have moves := onward.moves
    rw [closed] at moves
    exact moves.idle absent
  · -- A status that can be noted is not refused.
    rintro status failure rfl failed
    rcases session.lifecycle.container.advance_cases status with ⟨next, _⟩ | ⟨cause, back⟩
    · have done : result (Action.advance status).act session = .ok () :=
        result_of_ok (advance_apply next)
      rw [done] at failed
      cases failed
    · exact after_of_error (advance_of_error back)
  · exact fun spares => (act_spares spares).leads session

/-- A sequence of actions in order. -/
structure Orderly (actions : List Action) (session : Session) : Prop where
  /-- Each of the actions is in order where it is done. -/
  steps : ∀ earlier action later, actions = earlier ++ action :: later →
    InOrder action (pursue earlier session)
  /-- Over any stretch of the actions the container does not go back. -/
  progress : ∀ earlier later, actions = earlier ++ later →
    (pursue earlier session).lifecycle.container.progress ≤
      (pursue actions session).lifecycle.container.progress
  /-- From beginning to end the daemon is only asked over a client that is there. -/
  moves : Moves true session (pursue actions session)

/-- Actions are done one part after the other. -/
theorem pursue_append (earlier later : List Action) (session : Session) :
    pursue (earlier ++ later) session = pursue later (pursue earlier session) :=
  List.foldl_append ..

/-- Every sequence of actions is in order, if the connector does nothing but connect. -/
theorem pursue_orderly (actions : List Action) (session : Session)
    (connecting : session.lifecycle.connector.OnlyConnects) : Orderly actions session := by
  -- The connector stays the same up to any point of the sequence.
  have still (earlier : List Action) :
      (pursue earlier session).lifecycle.connector.OnlyConnects := by
    rw [(pursue_onward earlier connecting).moves.connector]
    exact connecting
  refine ⟨?_, ?_, (pursue_onward actions connecting).moves⟩
  · intro earlier action later _
    exact act_inOrder action (still earlier)
  · rintro earlier later rfl
    rw [pursue_append]
    exact (pursue_onward later (still earlier)).progress

/-- Actions out of turn: a start before there is a client, a life, and attempts to go on after
it. -/
def strayActions : List Action :=
  [.start, .connect, .create "repository" "main", .start, .advance .created, .readOutput, .start,
    .close, .stop .null]

/-- A session with a lifecycle that has not been run yet. -/
def straySession : Session where
  lifecycle := .fresh { name := "retirejs" } "scan.sh" .standard (Connection.secured fun _ => true)
  world := { settings := .standard }

/-- Out of turn too, the actions are in order: nothing is asked before there is a client or after
it is gone, and what is finished stays so. -/
theorem pursue_orderly_stray :
    Orderly strayActions straySession ∧
      (pursue strayActions straySession).world.calls.map Call.method =
        [.createContainer, .start, .logs, .start, .close] ∧
      (pursue strayActions straySession).lifecycle.container.status = some .finished :=
  ⟨pursue_orderly _ _ (Connection.secured_onlyConnects _), rfl, rfl⟩

end ContainerScan.Session
