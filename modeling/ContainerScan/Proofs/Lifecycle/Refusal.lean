import ContainerScan.Proofs.Lifecycle.Sequence

/-! Operations that the daemon refuses: each one fails under its own name, whatever state it finds the
container in, and only those that attend to the container end its life. -/

namespace ContainerScan

namespace Query

/-- The query that stops a container. -/
def stopping (cid : Json) : Query where
  method := .stop
  positional := [cid]

/-- The query that removes a container, by force or not. -/
def removing (cid : Json) (force : Bool) : Query where
  method := .removeContainer
  positional := [cid]
  named := [("force", .bool force)]

/-- The query for the images that there are. -/
def listing : Query where
  method := .images

/-- The query that removes an image. -/
def discarding (id : String) : Query where
  method := .removeImage
  positional := [.string id]
  named := [("force", .bool true)]

end Query

/-- The daemon will refuse a method the next time. -/
def World.Refuses (world : World) (method : Method) (fault : DaemonFault) (text : String) : Prop :=
  (world.nextOutcome method).result = .error (.daemon fault text)

namespace Session

open Step

variable {session : Session} {fault : DaemonFault} {text : String}

/-- A call that the daemon refuses fails with what the daemon says. -/
theorem call_of_refused (connected : session.lifecycle.connected = true) (query : Query)
    (refused : session.world.Refuses query.method fault text) :
    call query.method query.positional query.named session =
      .error (.daemon fault text) (session.afterQuery query) := by
  rw [call_apply connected, refused]

/-- A query that the daemon refuses fails under the name of its operation, and leaves the lifecycle
as it is. -/
theorem failAs_of_refused {α : Type} {act : Step Session α} {query : Query}
    (put : act session = .error (.daemon fault text) (session.afterQuery query))
    (message name : String) (fields : Event) (cid : Json) :
    ∃ final, onDaemonFailure act (fun _ text => failAs message name fields cid text) session =
        .error (.operation name text cid) final ∧
      Tended [query] session final ∧ final.lifecycle = session.lifecycle := by
  -- The handler runs in the world in which the query was refused.
  obtain ⟨final, failed, quiet, same⟩ :=
    @failAs_apply α message name fields cid text (session.afterQuery query)
  exact ⟨final, (onDaemonFailure_of_daemon put _).trans failed,
    (tended_afterQuery session query).trans quiet, same⟩

/-- A query that the daemon refuses fails under the name of its operation, and ends the container's
life, where the operation attends to the container. -/
theorem endAs_of_refused {α : Type} {act : Step Session α} {query : Query}
    (put : act session = .error (.daemon fault text) (session.afterQuery query))
    (message name : String) :
    ∃ final, onDaemonFailure act (fun _ text => endAs message name text) session =
        .error (.operation name text session.lifecycle.container.cid) final ∧
      Tended [query] session final ∧ final.lifecycle.container =
        { session.lifecycle.container with status := some .finished } := by
  -- The handler ends the container first, and then fails.
  obtain ⟨final, failed, quiet, ended⟩ :=
    @endAs_apply α message name text (session.afterQuery query)
  exact ⟨final, (onDaemonFailure_of_daemon put _).trans failed,
    (tended_afterQuery session query).trans quiet, ended⟩

/-- A container that the daemon refuses to create is not there; its command has been noted. -/
theorem create_of_refused (connected : session.lifecycle.connected = true)
    (repository branch : String) (given : session.commandFor repository branch ≠ "")
    (refused : session.world.Refuses .createContainer fault text) :
    ∃ final, create repository branch session = .error (.operation "create" text .null) final ∧
      Asked [.creation session.lifecycle.container.image.reference
        (session.commandFor repository branch)] session final ∧
      final.lifecycle.container = { session.lifecycle.container with
        command := session.commandFor repository branch } := by
  rcases create_noted repository branch session with
    ⟨empty, _⟩ | ⟨_, noted, opened, kept, same⟩
  · exact absurd empty given
  · let command := session.commandFor repository branch
    let query := Query.creation noted.lifecycle.container.image.reference command
    -- Nothing has been asked so far, so it is this request that is refused.
    have still : noted.world.Refuses .createContainer fault text := by
      rwa [World.Refuses, kept.world.nextOutcome nofun]
    obtain ⟨final, failed, asked, alike⟩ := failAs_of_refused
      (@call_of_refused noted fault text (kept.connected.trans connected) query still)
      "Container create failed" "create" [] .null
    have requested : requestContainer command noted = .error (.operation "create" text .null) final :=
      failed
    refine ⟨final, opened.trans (bind_of_error requested _), ?_, ?_⟩
    · rw [← kept.image]
      exact kept.trans asked.toAsked
    · rw [alike, same]

/-- A container that the daemon refuses to start is finished, with the moment of the attempt. -/
theorem start_of_refused (connected : session.lifecycle.connected = true)
    (refused : session.world.Refuses .start fault text) :
    ∃ final, start session =
        .error (.operation "start" text session.lifecycle.container.cid) final ∧
      Tended [.starting session.lifecycle.container.cid] session final ∧
      final.lifecycle.container = { session.lifecycle.container with
        startedAt := some session.world.clock.now, status := some .finished } := by
  -- The moment is noted before the query is put.
  let begun := session.withContainer { session.lifecycle.container with
    startedAt := some session.world.clock.now }
  let query := Query.starting session.lifecycle.container.cid
  obtain ⟨final, failed, asked, ended⟩ := endAs_of_refused
    (discard_of_error (@call_of_refused begun fault text connected query refused))
    "Container start failed" "start"
  have begins : Tended [] session begun := tended_withContainer rfl rfl rfl
  have opened : start session =
      (onDaemonFailure (discard (call query.method query.positional query.named))
        (fun _ text => endAs "Container start failed" "start" text) >>= fun _ =>
          advance .running >>= fun _ => log .info "Container started") begun := rfl
  exact ⟨final, opened.trans (bind_of_error failed _), begins.trans asked, ended⟩

/-- What a wait fails with that the daemon refuses: the reading from the daemon may have taken too
long, and everything else is a failure of the operation. -/
def waitFailure (session : Session) (fault : DaemonFault) (text : String) : Failure :=
  if fault = .readTimeout then
    .waitCutOff session.lifecycle.container.cid (.whole session.lifecycle.settings.waitTimeout)
  else .operation "wait" text session.lifecycle.container.cid

/-- A container for which the daemon refuses to wait is finished. -/
theorem wait_of_refused (connected : session.lifecycle.connected = true)
    (refused : session.world.Refuses .wait fault text) :
    ∃ final, wait session = .error (session.waitFailure fault text) final ∧
      Tended [.waiting session.lifecycle.container.cid session.lifecycle.settings.waitTimeout]
        session final ∧
      final.lifecycle.container =
        { session.lifecycle.container with status := some .finished } := by
  let bound := session.lifecycle.settings.waitTimeout
  let query := Query.waiting session.lifecycle.container.cid bound
  have asked := tended_afterQuery session query
  have opened : wait session =
      (onDaemonFailure (call query.method query.positional query.named) (fun fault text =>
        if fault = .readTimeout then cutOff bound
        else endAs "Container wait failed" "wait" text) >>= fun reply =>
          Step.ofExcept reply.named >>= noteExit) session := rfl
  have handled := onDaemonFailure_of_daemon (call_of_refused connected query refused)
    fun fault text => if fault = .readTimeout then (cutOff bound : Step Session Reply)
      else endAs "Container wait failed" "wait" text
  unfold waitFailure
  -- A wait of its own time has a failure of its own.
  by_cases late : fault = .readTimeout
  · rw [if_pos late] at handled ⊢
    obtain ⟨final, failed, quiet, ended⟩ := @cutOff_apply Reply bound (session.afterQuery query)
    exact ⟨final, opened.trans (bind_of_error (handled.trans failed) _), asked.trans quiet, ended⟩
  · rw [if_neg late] at handled ⊢
    obtain ⟨final, failed, quiet, ended⟩ :=
      @endAs_apply Reply "Container wait failed" "wait" text (session.afterQuery query)
    exact ⟨final, opened.trans (bind_of_error (handled.trans failed) _), asked.trans quiet, ended⟩

/-- A container whose output the daemon refuses to send is finished at the moment of the attempt. -/
theorem readOutput_of_refused (connected : session.lifecycle.connected = true)
    (refused : session.world.Refuses .logs fault text) :
    ∃ final, readOutput session =
        .error (.operation "logs" text session.lifecycle.container.cid) final ∧
      Tended [.reading session.lifecycle.container.cid] session final ∧
      final.lifecycle.container = { session.lifecycle.container with
        finishedAt := some session.world.clock.now, status := some .finished } := by
  let begun := session.withContainer { session.lifecycle.container with
    finishedAt := some session.world.clock.now }
  let cid := session.lifecycle.container.cid
  let query := Query.reading cid
  obtain ⟨middle, failed, asked, same⟩ := failAs_of_refused
    (@call_of_refused begun fault text connected query refused)
    "Reading container output failed" "logs" [] cid
  -- The status is noted behind the failure.
  let final := middle.withContainer { middle.lifecycle.container with status := some .finished }
  have requested : requestOutput begun = .error (.operation "logs" text cid) final :=
    ensuring_of_error failed (advance_finished_apply middle)
  have begins : Tended [] session begun := tended_withContainer rfl rfl rfl
  have ends : Tended [] middle final := tended_withContainer rfl rfl rfl
  have opened : readOutput session = (requestOutput >>= fun reply => _) begun := rfl
  refine ⟨final, opened.trans (bind_of_error requested _), (begins.trans asked).trans ends, ?_⟩
  simp only [final, withContainer, same]
  rfl

/-- The container that an operation is about, which the session knows without asking. -/
def targetOf (session : Session) (cid : Json) : Json :=
  if cid.isTruthy then cid else session.lifecycle.container.cid

/-- Which container an operation is about is found out without a change. -/
theorem target_apply (cid : Json) (session : Session) :
    target cid session = .ok (session.targetOf cid) session := by
  unfold target targetOf
  split <;> rfl

/-- Whatever is to follow a query, the operation fails as the query does if the daemon refuses it. -/
theorem fails_of_refused {α β : Type} {act : Step Session α} {query : Query}
    (put : act session = .error (.daemon fault text) (session.afterQuery query))
    (message name : String) (fields : Event) (cid : Json) (next : α → Step Session β) :
    ∃ final, (onDaemonFailure act (fun _ text => failAs message name fields cid text) >>= next)
        session = .error (.operation name text cid) final ∧
      Tended [query] session final ∧ final.lifecycle = session.lifecycle := by
  obtain ⟨final, failed, asked, same⟩ := failAs_of_refused put message name fields cid
  exact ⟨final, bind_of_error failed _, asked, same⟩

/-- An operation that puts one query to the daemon by itself. -/
inductive Errand where
  | create (repository branch : String)
  | start
  | wait
  | readOutput
  | stop (cid : Json)
  | remove (cid : Json) (force : Bool)
  | listImages
  | removeImage (id : String)

namespace Errand

/-- What is done with the lifecycle. -/
def action : Errand → Action
  | create repository branch => .create repository branch
  | start => .start
  | wait => .wait
  | readOutput => .readOutput
  | stop cid => .stop cid
  | remove cid force => .remove cid force
  | listImages => .listImages
  | removeImage id => .removeImage id

/-- The name under which an operation fails. -/
def name : Errand → String
  | create _ _ => "create"
  | start => "start"
  | wait => "wait"
  | readOutput => "logs"
  | stop _ => "stop"
  | remove _ _ => "remove"
  | listImages => "image list"
  | removeImage _ => "image remove"

/-- The container that an operation is about, if it is about one that there is. -/
def subject (session : Session) : Errand → Json
  | create _ _ | listImages | removeImage _ => .null
  | start | wait | readOutput => session.lifecycle.container.cid
  | stop cid | remove cid _ => session.targetOf cid

/-- Whether an operation ends the container's life when it fails. -/
def endsLife : Errand → Bool
  | start | wait | readOutput => true
  | _ => false

/-- The query that is put; without a command no container is asked for. -/
def query? (session : Session) : Errand → Option Query
  | create repository branch =>
    if session.commandFor repository branch = "" then none
    else some (.creation session.lifecycle.container.image.reference
      (session.commandFor repository branch))
  | start => some (.starting session.lifecycle.container.cid)
  | wait => some (.waiting session.lifecycle.container.cid session.lifecycle.settings.waitTimeout)
  | readOutput => some (.reading session.lifecycle.container.cid)
  | stop cid => some (.stopping (session.targetOf cid))
  | remove cid force => some (.removing (session.targetOf cid) force)
  | listImages => some .listing
  | removeImage id => some (.discarding id)

/-- What an operation fails with that the daemon refuses. -/
def failure (session : Session) (fault : DaemonFault) (text : String) : Errand → Failure
  | wait => session.waitFailure fault text
  | errand => .operation errand.name text (errand.subject session)

/-- The status of the container when the daemon has refused an operation. -/
def statusAfter (session : Session) (errand : Errand) : Option Status :=
  if errand.endsLife then some .finished else session.lifecycle.container.status

end Errand

/-- An operation that the daemon refuses puts its query and fails with its own failure, and the
container has the status that belongs to that. -/
theorem errand_of_refused (connected : session.lifecycle.connected = true) (errand : Errand)
    {query : Query} (puts : errand.query? session = some query)
    (refused : session.world.Refuses query.method fault text) :
    ∃ final, errand.action.act session = .error (errand.failure session fault text) final ∧
      World.Asked [query] session.world final.world ∧
      final.lifecycle.container.status = errand.statusAfter session := by
  -- Each operation puts one query, so each has the failure of that call; they differ in the
  -- container that they leave and in what they do before and behind it.
  cases errand with
  | create repository branch =>
    simp only [Errand.query?, Option.ite_none_left_eq_some, Option.some.injEq] at puts
    obtain ⟨given, rfl⟩ := puts
    obtain ⟨final, failed, asked, same⟩ := create_of_refused connected repository branch given refused
    exact ⟨final, discard_of_error failed, asked.world, by rw [same]; rfl⟩
  | start =>
    cases puts
    obtain ⟨final, failed, asked, same⟩ := start_of_refused connected refused
    exact ⟨final, failed, asked.world, by rw [same]; rfl⟩
  | wait =>
    cases puts
    obtain ⟨final, failed, asked, same⟩ := wait_of_refused connected refused
    exact ⟨final, discard_of_error failed, asked.world, by rw [same]; rfl⟩
  | readOutput =>
    cases puts
    obtain ⟨final, failed, asked, same⟩ := readOutput_of_refused connected refused
    exact ⟨final, discard_of_error failed, asked.world, by rw [same]; rfl⟩
  | stop cid =>
    cases puts
    obtain ⟨final, failed, asked, same⟩ := fails_of_refused
      (discard_of_error (call_of_refused connected (.stopping (session.targetOf cid)) refused))
      "Container stop failed" "stop" [("target", session.targetOf cid)] (session.targetOf cid)
      fun _ => log .info "Container stopped" [("target", session.targetOf cid)]
    exact ⟨final, (bind_of_ok (target_apply cid session) _).trans failed, asked.world,
      by rw [same]; rfl⟩
  | remove cid force =>
    cases puts
    obtain ⟨final, failed, asked, same⟩ := fails_of_refused
      (discard_of_error (call_of_refused connected (.removing (session.targetOf cid) force) refused))
      "Container remove failed" "remove" [("target", session.targetOf cid)] (session.targetOf cid)
      fun _ => log .info "Container removed" [("target", session.targetOf cid)]
    exact ⟨final, (bind_of_ok (target_apply cid session) _).trans failed, asked.world,
      by rw [same]; rfl⟩
  | listImages =>
    cases puts
    obtain ⟨final, failed, asked, same⟩ := failAs_of_refused
      (call_of_refused connected .listing refused) "Image list failed" "image list" [] .null
    have listed : listImages session = _ := failed
    exact ⟨final, discard_of_error listed, asked.world, by rw [same]; rfl⟩
  | removeImage id =>
    cases puts
    obtain ⟨final, failed, asked, same⟩ := fails_of_refused
      (discard_of_error (call_of_refused connected (.discarding id) refused))
      "Image remove failed" "image remove" [("image_id", .string id)] .null
      fun _ => log .info "Image removed" [("image_id", .string id)]
    exact ⟨final, failed, asked.world, by rw [same]; rfl⟩

/-- What becomes of an operation that the daemon refuses, in a session in which it puts a query. -/
structure Refused (errand : Errand) (query : Query) (fault : DaemonFault) (text : String)
    (session : Session) : Prop where
  /-- The query is all that is asked of the daemon. -/
  asked : World.Asked [query] session.world (after errand.action.act session).world
  /-- The operation fails under its own name, in the daemon's words and about its container, unless it
  is a wait at which the reading from the daemon took too long. -/
  named : ¬(errand = .wait ∧ fault = .readTimeout) → ∃ failure,
    result errand.action.act session = .error failure ∧
      failure = .operation errand.name text (errand.subject session) ∧
      failure.text = errand.name ++ " failed: " ++ text
  /-- Such a wait, and nothing else, fails with the time that it may last. -/
  late : errand = .wait ∧ fault = .readTimeout →
    (Number.whole session.lifecycle.settings.waitTimeout).isShowable = true →
    result errand.action.act session = .error (.waitTimeout session.lifecycle.container.cid
      (.whole session.lifecycle.settings.waitTimeout))
  /-- The failure of the daemon itself does not get out. -/
  contained : ∀ raw words, result errand.action.act session ≠ .error (.daemon raw words)
  /-- A start, a wait or a reading that fails ends the container's life, and nothing else does. -/
  status : (after errand.action.act session).lifecycle.container.status =
    if errand.endsLife then some .finished else session.lifecycle.container.status

/-- A wait that is cut off fails with the time that it may last, if that can be shown. -/
theorem waitCutOff_of_showable {bound : Number} (showable : bound.isShowable = true) (cid : Json) :
    Failure.waitCutOff cid bound = .waitTimeout cid bound :=
  if_pos showable

/-- Whatever an operation fails with that the daemon refuses, it is not the daemon's failure. -/
theorem failure_ne_daemon (errand : Errand) (raw : DaemonFault) (words : String) :
    errand.failure session fault text ≠ .daemon raw words := by
  cases errand with
  | wait =>
    -- A bound that cannot be shown makes a failure of another kind, but not this one either.
    simp only [Errand.failure, waitFailure, Failure.waitCutOff, Failure.showing]
    split <;> [split; skip] <;> nofun
  | _ => nofun

/-- Whatever state a lifecycle with a client is in, an operation that the daemon refuses fails as an
operation does, and leaves the container in the status that belongs to that. -/
theorem errand_refused {session : Session} (connected : session.lifecycle.connected = true)
    (errand : Errand) {query : Query} (puts : errand.query? session = some query)
    {fault : DaemonFault} {text : String}
    (refused : session.world.Refuses query.method fault text) :
    Refused errand query fault text session := by
  obtain ⟨final, failed, asked, status⟩ := errand_of_refused connected errand puts refused
  have came := result_of_error failed
  have left := after_of_error failed
  -- Only the wait has a failure of another kind, and none passes on the words of the daemon alone.
  refine ⟨left ▸ asked, ?_, ?_, ?_, left ▸ status⟩
  · intro usual
    have plain : errand.failure session fault text =
        .operation errand.name text (errand.subject session) := by
      cases errand with
      | wait => exact if_neg fun late => usual ⟨rfl, late⟩
      | _ => rfl
    exact ⟨_, came.trans (congrArg Except.error plain), rfl, rfl⟩
  · rintro ⟨rfl, rfl⟩ showable
    exact came.trans (congrArg Except.error (waitCutOff_of_showable showable _))
  · intro raw words same
    rw [came] at same
    exact failure_ne_daemon errand raw words (Except.error.inj same)

/-- A container that is finished may be waited for once more, and the daemon may be too slow for that:
the wait tells how long it may last, and the container is as finished as it was. -/
theorem errand_refused_slow :
    let lifecycle : Lifecycle := { Lifecycle.fresh { name := "retirejs" } "scan.sh" .standard
        Connection.direct with
      connected := true
      container := { image := { name := "retirejs" }, cid := .string "c", status := some .finished } }
    let slow : Script := fun method _ =>
      if method = .wait then some ⟨60, .error (.daemon .readTimeout "slow")⟩ else none
    let session : Session := ⟨lifecycle, { settings := .standard, script := slow }⟩
    session.world.Refuses .wait .readTimeout "slow" ∧
      result Action.wait.act session = .error (.waitTimeout (.string "c") (.whole 3600)) ∧
      (after Action.wait.act session).lifecycle.container.status = some .finished := by
  -- The daemon is too slow to report the exit of a container that has already finished.
  intro lifecycle slow session
  have refused : session.world.Refuses .wait .readTimeout "slow" := rfl
  have told := @errand_refused session rfl .wait _ rfl .readTimeout "slow" refused
  exact ⟨refused, told.late ⟨rfl, rfl⟩ (by decide +kernel), told.status⟩

end Session

end ContainerScan
