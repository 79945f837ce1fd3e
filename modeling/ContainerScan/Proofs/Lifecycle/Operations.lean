import ContainerScan.Lifecycle.Operations
import ContainerScan.Proofs.Command
import ContainerScan.Proofs.Lifecycle.Session

/-! Each operation on a container puts one query to the daemon, and ends as the answer has it. -/

namespace ContainerScan

namespace Query

/-- The query for a container that runs a command in a shell. -/
def creation (reference command : String) : Query where
  method := .createContainer
  positional := [.string reference]
  named := [("command", .array [.string "/bin/sh", .string "-c", .string command]),
    ("tty", .bool true)]

/-- The query that starts a container. -/
def starting (cid : Json) : Query where
  method := .start
  positional := [cid]

/-- The query for the report that comes when a container has stopped. -/
def waiting (cid : Json) (bound : Int) : Query where
  method := .wait
  positional := [cid]
  named := [("timeout", .int bound)]

/-- The query for a container's output. -/
def reading (cid : Json) : Query where
  method := .logs
  positional := [cid]
  named := [("stdout", .bool true), ("stderr", .bool true)]

/-- The query that removes a container by force. -/
def removal (cid : Json) : Query where
  method := .removeContainer
  positional := [cid]
  named := [("force", .bool true)]

end Query

/-- The exit code in a report that can be noted in full: it has one, and an error can be read. -/
def ExitCode.noted (members : List (String × Json)) : Except Failure Int := do
  let code ← ofMembers members
  if code ≠ 0 then discard (errorMessage members)
  return code

namespace World

/-- The identifier that the daemon will give to the next container. -/
def nextCid (world : World) : Except Failure Json := do
  (← (world.nextOutcome .createContainer).result).newCid

/-- The exit code that the daemon will report next. -/
def nextExit (world : World) : Except Failure Int := do
  ExitCode.noted (← (← (world.nextOutcome .wait).result).named)

/-- The output that the daemon will send next. -/
def nextOutput (world : World) : Except Failure (List UInt8) := do
  (← (world.nextOutcome .logs).result).output

/-- The identifier of the next container stays open until a container is created. -/
theorem Asked.nextCid {queries : List Query} {before after : World}
    (asked : Asked queries before after)
    (others : ∀ query ∈ queries, query.method ≠ .createContainer) :
    after.nextCid = before.nextCid := by
  unfold World.nextCid
  rw [asked.nextOutcome others]

/-- The next exit code stays open until one is waited for. -/
theorem Asked.nextExit {queries : List Query} {before after : World}
    (asked : Asked queries before after) (others : ∀ query ∈ queries, query.method ≠ .wait) :
    after.nextExit = before.nextExit := by
  unfold World.nextExit
  rw [asked.nextOutcome others]

/-- The next output stays open until it is read. -/
theorem Asked.nextOutput {queries : List Query} {before after : World}
    (asked : Asked queries before after) (others : ∀ query ∈ queries, query.method ≠ .logs) :
    after.nextOutput = before.nextOutput := by
  unfold World.nextOutput
  rw [asked.nextOutcome others]

end World

namespace Session

open Step

/-- A named failure is logged and fails. -/
theorem failAs_apply {α : Type} (message name : String) (fields : Event) (cid : Json)
    (text : String) (session : Session) :
    ∃ after, (failAs message name fields cid text : Step Session α) session =
        .error (.operation name text cid) after ∧
      Tended [] session after ∧ after.lifecycle = session.lifecycle := by
  obtain ⟨after, logged, tended, same⟩ :=
    log_apply .error message (fields ++ [("error", .string text)]) session
  exact ⟨after, bind_of_ok logged _, tended, same⟩

/-- A failure that ends the container's life is logged and fails, and the container is finished. -/
theorem endAs_apply {α : Type} (message name text : String) (session : Session) :
    ∃ after, (endAs message name text : Step Session α) session =
        .error (.operation name text session.lifecycle.container.cid) after ∧
      Tended [] session after ∧
      after.lifecycle.container =
        { session.lifecycle.container with status := some .finished } := by
  -- Every status may end, so the failure comes behind that.
  let ended := session.withContainer { session.lifecycle.container with status := some .finished }
  have noted : Tended [] session ended := tended_withContainer rfl rfl rfl
  obtain ⟨after, failed, tended, same⟩ :=
    @failAs_apply α message name [] session.lifecycle.container.cid text ended
  exact ⟨after, (bind_of_ok (advance_finished_apply session) _).trans failed, noted.trans tended,
    by rw [same]; rfl⟩

/-- A status that may come next is noted. -/
theorem advance_apply {session : Session} {status : Status} {later : Container}
    (next : session.lifecycle.container.advance status = .ok later) :
    advance status session = .ok () (session.withContainer later) := by
  -- The container is taken, changed and put back.
  have opened : advance status session =
      (Step.ofExcept (session.lifecycle.container.advance status) >>= setContainer) session := rfl
  rw [opened, next]
  rfl

/-- A call whose value does not matter ends as the daemon has it. -/
theorem discard_call_apply {session : Session} (connected : session.lifecycle.connected = true)
    (query : Query) :
    (discard (call query.method query.positional query.named) : Step Session Unit) session =
      match (session.world.nextOutcome query.method).result with
      | .ok _ => .ok () (session.afterQuery query)
      | .error failure => .error failure (session.afterQuery query) := by
  rw [discard_apply, call_apply connected]
  cases (session.world.nextOutcome query.method).result <;> rfl

/-- A handler that fails in the end, and asks nothing on the way. -/
def Fails {α : Type} (handler : DaemonFault → String → Step Session α) : Prop :=
  ∀ fault text session, ∃ failure after,
    handler fault text session = .error failure after ∧ Tended [] session after

/-- A query under a handler that fails ends well exactly if the daemon answers it. -/
theorem ask_cases {α : Type} {act : Step Session α} {value : Reply → α}
    {handler : DaemonFault → String → Step Session α} {session : Session} {query : Query}
    (put : act session =
      match (session.world.nextOutcome query.method).result with
      | .ok reply => .ok (value reply) (session.afterQuery query)
      | .error failure => .error failure (session.afterQuery query))
    (fails : Fails handler) :
    (∃ reply, (session.world.nextOutcome query.method).result = .ok reply ∧
      onDaemonFailure act handler session = .ok (value reply) (session.afterQuery query)) ∨
    (∃ cause failure after, (session.world.nextOutcome query.method).result = .error cause ∧
      onDaemonFailure act handler session = .error failure after ∧
      Tended [query] session after) := by
  -- The query has been put in either case; what the handler adds to it is no other query.
  have asked := tended_afterQuery session query
  cases answered : (session.world.nextOutcome query.method).result with
  | ok reply =>
    rw [answered] at put
    exact Or.inl ⟨reply, rfl, onDaemonFailure_of_ok put _⟩
  | error cause =>
    rw [answered] at put
    have handled : ∀ fault text, ∃ failure after,
        handler fault text (session.afterQuery query) = .error failure after ∧
          Tended [query] session after := by
      intro fault text
      obtain ⟨failure, after, failed, tended⟩ := fails fault text (session.afterQuery query)
      exact ⟨failure, after, failed, asked.trans tended⟩
    obtain ⟨failure, after, failed, tended⟩ := onDaemonFailure_error put asked handled
    exact Or.inr ⟨cause, failure, after, rfl, failed, tended⟩

/-- Naming a failure after an operation fails. -/
theorem fails_failAs {α : Type} (message name : String) (fields : Event) (cid : Json) :
    Fails fun _ text => (failAs message name fields cid text : Step Session α) := by
  intro fault text session
  obtain ⟨after, failed, tended, _⟩ := @failAs_apply α message name fields cid text session
  exact ⟨_, after, failed, tended⟩

/-- Ending the container's life with a failure fails. -/
theorem fails_endAs {α : Type} (message name : String) :
    Fails fun _ text => (endAs message name text : Step Session α) := by
  intro fault text session
  obtain ⟨after, failed, tended, _⟩ := @endAs_apply α message name text session
  exact ⟨_, after, failed, tended⟩

/-- The command that a session fills in for a repository and a branch. -/
def commandFor (session : Session) (repository branch : String) : String :=
  Command.resolve repository branch session.lifecycle.template session.world.settings.sshKey

/-- The failure that stands for a command of which nothing is left. -/
def nothingToRun : Failure :=
  .invalidCommand ("command template resolved to an empty command " ++
    "(repository URL, branch and template are all required)")

/-- An empty command is logged and refused, any other one handed out; nothing else happens. -/
theorem resolveCommand_apply (repository branch : String) (session : Session) :
    ∃ after, resolveCommand repository branch session =
        (if session.commandFor repository branch = "" then .error nothingToRun after
          else .ok (session.commandFor repository branch) after) ∧
      Tended [] session after ∧ after.lifecycle = session.lifecycle := by
  let refuse : Step Session String := do
    log .error "Empty scanner command"
      [("repository_url", .string repository), ("branch", .string branch)]
    throw nothingToRun
  obtain ⟨events, resolved⟩ :=
    Command.resolveLogged_apply repository branch session.lifecycle.template none session.world
  let filled : Session := { session with world := { session.world with events := events } }
  have quiet : Tended [] session filled := ⟨⟨World.asked_events .., rfl, rfl, rfl, rfl⟩, rfl, rfl⟩
  have opened : resolveCommand repository branch session =
      (inWorld (Command.resolveLogged repository branch session.lifecycle.template none) >>=
        fun command => if command = "" then refuse else pure command) session := rfl
  have found : inWorld (Command.resolveLogged repository branch session.lifecycle.template none)
      session = .ok (session.commandFor repository branch) filled := by
    rw [inWorld, resolved]
    rfl
  rw [opened, bind_of_ok found]
  -- A refusal is logged, and that asks nothing either.
  by_cases empty : session.commandFor repository branch = ""
  · obtain ⟨after, logged, tended, same⟩ := log_apply .error "Empty scanner command"
      [("repository_url", .string repository), ("branch", .string branch)] filled
    rw [if_pos empty]
    exact ⟨after, by rw [if_pos empty]; exact bind_of_ok logged _, quiet.trans tended, same⟩
  · rw [if_neg empty]
    exact ⟨filled, by rw [if_neg empty]; rfl, quiet, rfl⟩

/-- A command is resolved without asking for anything, and refused if it is empty. -/
theorem resolveCommand_cases (repository branch : String) (session : Session) :
    (session.commandFor repository branch ≠ "" ∧ ∃ after,
      resolveCommand repository branch session =
        .ok (session.commandFor repository branch) after ∧
      Tended [] session after ∧ after.lifecycle = session.lifecycle) ∨
    (session.commandFor repository branch = "" ∧ ∃ failure after,
      resolveCommand repository branch session = .error failure after ∧
      Tended [] session after) := by
  -- The command is known beforehand; whether it is empty decides.
  obtain ⟨after, resolved, quiet, same⟩ := resolveCommand_apply repository branch session
  by_cases empty : session.commandFor repository branch = ""
  · rw [if_pos empty] at resolved
    exact Or.inr ⟨empty, _, after, resolved, quiet⟩
  · rw [if_neg empty] at resolved
    exact Or.inl ⟨empty, after, resolved, quiet, same⟩

/-- Without a command no container is asked for, and the lifecycle stays as it is. -/
theorem create_of_empty {repository branch : String} {session : Session}
    (empty : session.commandFor repository branch = "") :
    ∃ final, create repository branch session = .error nothingToRun final ∧
      Tended [] session final ∧ final.lifecycle = session.lifecycle := by
  obtain ⟨final, refused, quiet, same⟩ := resolveCommand_apply repository branch session
  rw [if_pos empty] at refused
  exact ⟨final, bind_of_error refused _, quiet, same⟩

/-- An identifier is told in the log if it can be shortened for that. -/
theorem introduce_cases (cid : Json) (session : Session) :
    (∃ after, (shortened? cid).isSome = true ∧ introduce cid session = .ok cid after ∧
      Tended [] session after ∧ after.lifecycle.container = session.lifecycle.container) ∨
    (shortened? cid = none ∧ introduce cid session = .error .wrongKind session) := by
  -- The short id goes to the logger before the first event is written under it.
  unfold introduce
  cases shortened? cid with
  | none => exact Or.inr ⟨rfl, rfl⟩
  | some short =>
    let bound : Session := { session with
      lifecycle := { session.lifecycle with
        logger := session.lifecycle.logger.bind [("cid", short)] } }
    have tied : Tended [] session bound := ⟨⟨World.Asked.refl _, rfl, rfl, rfl, rfl⟩, rfl, rfl⟩
    obtain ⟨after, logged, tended, same⟩ := log_apply .info "Container created" [] bound
    exact Or.inl ⟨after, rfl, bind_of_ok logged _, tied.trans tended, by rw [same]⟩

/-- A status that may not come next is refused. -/
theorem advance_of_error {session : Session} {status : Status} {failure : Failure}
    (back : session.lifecycle.container.advance status = .error failure) :
    advance status session = .error failure session := by
  -- Nothing is put back where the change is refused.
  have opened : advance status session =
      (Step.ofExcept (session.lifecycle.container.advance status) >>= setContainer) session := rfl
  rw [opened, back]
  rfl

/-- An identifier is adopted for a container that has not got past its creation, if it can be
shortened for the log; in any case it is noted. -/
theorem adopt_cases (cid : Json) (session : Session) :
    (∃ after, session.lifecycle.container.isUnbegun = true ∧ (shortened? cid).isSome = true ∧
      adopt cid session = .ok cid after ∧
      Asked [] session after ∧ after.lifecycle.container =
        { session.lifecycle.container with cid := cid, status := some .created }) ∨
    (∃ failure after,
      (session.lifecycle.container.isUnbegun = true → shortened? cid = none) ∧
      adopt cid session = .error failure after ∧ Asked [] session after) := by
  let named := session.withContainer { session.lifecycle.container with cid := cid }
  have noted : Asked [] session named := ⟨World.Asked.refl _, rfl, rfl, rfl, rfl⟩
  have opened : adopt cid session = (advance .created >>= fun _ => introduce cid) named := rfl
  rw [opened]
  cases unbegun : session.lifecycle.container.isUnbegun with
  | false =>
    -- The identifier is noted before the status, so it stays where the status is refused.
    obtain ⟨current, back⟩ := @Container.advance_created_of_begun named.lifecycle.container unbegun
    exact Or.inr ⟨_, named, by simp, bind_of_error (advance_of_error back) _, noted⟩
  | true =>
    let made := named.withContainer { named.lifecycle.container with status := some .created }
    have moved : Asked [] session made := ⟨World.Asked.refl _, rfl, rfl, rfl, rfl⟩
    have next := @Container.advance_created named.lifecycle.container unbegun
    rw [bind_of_ok (advance_apply next)]
    rcases introduce_cases cid made with ⟨after, short, done, tended, same⟩ | ⟨odd, failed⟩
    · exact Or.inl ⟨after, rfl, short, done, moved.trans tended.toAsked, same⟩
    · exact Or.inr ⟨.wrongKind, made, fun _ => odd, failed, moved⟩

/-- A container is asked for by one query. -/
theorem requestContainer_cases (command : String) {session : Session}
    (connected : session.lifecycle.connected = true) :
    (∃ reply, (session.world.nextOutcome .createContainer).result = .ok reply ∧
      requestContainer command session = .ok reply
        (session.afterQuery (.creation session.lifecycle.container.image.reference command))) ∨
    (∃ cause failure after, (session.world.nextOutcome .createContainer).result = .error cause ∧
      requestContainer command session = .error failure after ∧
      Tended [.creation session.lifecycle.container.image.reference command] session after) :=
  ask_cases
    (call_apply connected (.creation session.lifecycle.container.image.reference command))
    (fails_failAs "Container create failed" "create" [] .null)

/-- A container that the daemon gives an identifier is adopted under it. -/
theorem requestContainer_adopt_cases (command : String) {session : Session}
    (connected : session.lifecycle.connected = true) :
    (∃ cid after, session.world.nextCid = .ok cid ∧
      session.lifecycle.container.isUnbegun = true ∧ (shortened? cid).isSome = true ∧
      (requestContainer command >>= fun reply => Step.ofExcept reply.newCid >>= adopt) session =
        .ok cid after ∧
      Asked [.creation session.lifecycle.container.image.reference command] session after ∧
      after.lifecycle.container =
        { session.lifecycle.container with cid := cid, status := some .created }) ∨
    (∃ failure after, (∀ cid, session.world.nextCid = .ok cid →
        session.lifecycle.container.isUnbegun = true → shortened? cid = none) ∧
      (requestContainer command >>= fun reply => Step.ofExcept reply.newCid >>= adopt) session =
        .error failure after ∧
      Asked [.creation session.lifecycle.container.image.reference command] session after) := by
  unfold World.nextCid
  rcases requestContainer_cases command connected with
    ⟨reply, answered, done⟩ | ⟨cause, failure, after, refused, failed, tended⟩
  · have asked := (tended_afterQuery session
      (.creation session.lifecycle.container.image.reference command)).toAsked
    rw [bind_of_ok done, answered]
    change (∃ cid after, reply.newCid = .ok cid ∧ _) ∨
      (∃ failure after, (∀ cid, reply.newCid = .ok cid → _) ∧ _)
    -- The reply may have no identifier at all, or one that cannot be told in the log.
    cases reply.newCid with
    | error failure => exact Or.inr ⟨failure, _, by simp, rfl, asked⟩
    | ok cid =>
      rcases adopt_cases cid (session.afterQuery _) with
        ⟨after, unbegun, short, adopted, tied, final⟩ | ⟨failure, after, odd, failed, tied⟩
      · exact Or.inl ⟨cid, after, rfl, unbegun, short, adopted, asked.trans tied, final⟩
      · refine Or.inr ⟨failure, after, ?_, failed, asked.trans tied⟩
        rintro other ⟨⟩
        exact odd
  · rw [refused]
    refine Or.inr ⟨failure, after, ?_, bind_of_error failed _, tended.toAsked⟩
    rintro cid ⟨⟩

/-- A command that is not empty is noted before a container is asked for. -/
theorem create_noted (repository branch : String) (session : Session) :
    (session.commandFor repository branch = "" ∧ ∃ failure after,
      create repository branch session = .error failure after ∧ Tended [] session after) ∨
    (session.commandFor repository branch ≠ "" ∧ ∃ noted,
      create repository branch session =
        (requestContainer (session.commandFor repository branch) >>= fun reply =>
          Step.ofExcept reply.newCid >>= adopt) noted ∧
      Asked [] session noted ∧ noted.lifecycle = { session.lifecycle with
        container := { session.lifecycle.container with
          command := session.commandFor repository branch } }) := by
  let request (command : String) : Step Session Json :=
    requestContainer command >>= fun reply => Step.ofExcept reply.newCid >>= adopt
  have opened : create repository branch session =
      (resolveCommand repository branch >>= fun command => do
        setContainer { ← container with command := command }
        request command) session := rfl
  rw [opened]
  rcases resolveCommand_cases repository branch session with
    ⟨given, resolved, done, quiet, same⟩ | ⟨empty, failure, after, failed, quiet⟩
  · -- What follows is done in the session in which the command is noted.
    let noted := resolved.withContainer { resolved.lifecycle.container with
      command := session.commandFor repository branch }
    have kept : Asked [] session noted :=
      ⟨quiet.world, quiet.connected, quiet.settings, quiet.template, quiet.image⟩
    refine Or.inr ⟨given, noted, by rw [bind_of_ok done]; rfl, kept, ?_⟩
    simp only [noted, withContainer, same]
  · exact Or.inl ⟨empty, failure, after, bind_of_error failed _, quiet⟩

/-- A container is created by one query, for a command that is not empty. -/
theorem create_cases (repository branch : String) {session : Session}
    (connected : session.lifecycle.connected = true) :
    (session.commandFor repository branch = "" ∧ ∃ failure after,
      create repository branch session = .error failure after ∧ Asked [] session after) ∨
    (session.commandFor repository branch ≠ "" ∧ ∃ cid after, session.world.nextCid = .ok cid ∧
      session.lifecycle.container.isUnbegun = true ∧ (shortened? cid).isSome = true ∧
      create repository branch session = .ok cid after ∧
      Asked [.creation session.lifecycle.container.image.reference
        (session.commandFor repository branch)] session after ∧
      after.lifecycle.container = { session.lifecycle.container with
        command := session.commandFor repository branch
        cid := cid
        status := some .created }) ∨
    (session.commandFor repository branch ≠ "" ∧ ∃ failure after,
      (∀ cid, session.world.nextCid = .ok cid →
        session.lifecycle.container.isUnbegun = true → shortened? cid = none) ∧
      create repository branch session = .error failure after ∧
      Asked [.creation session.lifecycle.container.image.reference
        (session.commandFor repository branch)] session after) := by
  -- Without a command nothing is asked for.
  rcases create_noted repository branch session with
    ⟨empty, failure, after, failed, quiet⟩ | ⟨given, noted, opened, kept, same⟩
  · exact Or.inl ⟨empty, failure, after, failed, quiet.toAsked⟩
  · -- Nothing has been asked so far, so the identifier is the one that the session was to get.
    have awaited := kept.world.nextCid (by simp)
    have asking := @requestContainer_adopt_cases (session.commandFor repository branch) noted
      (kept.connected.trans connected)
    rw [awaited, same] at asking
    rw [opened]
    rcases asking with ⟨cid, after, named, unbegun, short, made, asked, final⟩ |
      ⟨failure, after, unnamed, failed, asked⟩
    · exact Or.inr (Or.inl
        ⟨given, cid, after, named, unbegun, short, made, kept.trans asked, final⟩)
    · exact Or.inr (Or.inr ⟨given, failure, after, unnamed, failed, kept.trans asked⟩)

/-- A container is started by one query, and runs if the daemon says so. -/
theorem start_cases {session : Session} (connected : session.lifecycle.connected = true)
    (created : session.lifecycle.container.status = some .created) :
    (∃ reply after, (session.world.nextOutcome .start).result = .ok reply ∧
      start session = .ok () after ∧
      Tended [.starting session.lifecycle.container.cid] session after ∧
      after.lifecycle.container = { session.lifecycle.container with
        startedAt := some session.world.clock.now, status := some .running }) ∨
    (∃ cause failure after, (session.world.nextOutcome .start).result = .error cause ∧
      start session = .error failure after ∧
      Tended [.starting session.lifecycle.container.cid] session after) := by
  let query := Query.starting session.lifecycle.container.cid
  let begun := session.withContainer { session.lifecycle.container with
    startedAt := some session.world.clock.now }
  have noted : Tended [] session begun := tended_withContainer rfl rfl rfl
  have opened : start session =
      (onDaemonFailure (discard (call query.method query.positional query.named))
        (fun _ text => endAs "Container start failed" "start" text) >>= fun _ =>
          advance .running >>= fun _ => log .info "Container started") begun := rfl
  rw [opened]
  -- The moment of the start is noted before the daemon is asked.
  rcases ask_cases (@discard_call_apply begun connected query)
    (fails_endAs "Container start failed" "start") with
    ⟨reply, answered, done⟩ | ⟨cause, failure, after, refused, failed, tended⟩
  · let running := (begun.afterQuery query).withContainer { begun.lifecycle.container with
      status := some .running }
    have moved : Tended [] (begun.afterQuery query) running := tended_withContainer rfl rfl rfl
    -- A container that was created may be running next.
    have next : (begun.afterQuery query).lifecycle.container.advance .running =
        .ok { begun.lifecycle.container with status := some .running } := by
      change begun.lifecycle.container.advance .running = _
      have same : begun.lifecycle.container.status = some .created := created
      simp [Container.advance, same, Status.rank]
    obtain ⟨after, logged, tended, same⟩ := log_apply .info "Container started" [] running
    refine Or.inl ⟨reply, after, answered, ?_, ?_, by rw [same]; rfl⟩
    · rw [bind_of_ok done, bind_of_ok (advance_apply next), logged]
    · exact ((noted.trans (tended_afterQuery begun query)).trans moved).trans tended
  · exact Or.inr ⟨cause, failure, after, refused, bind_of_error failed _, noted.trans tended⟩

/-- A wait that was cut off fails, and the container is finished. -/
theorem cutOff_apply {α : Type} (bound : Int) (session : Session) :
    ∃ after, (cutOff bound : Step Session α) session =
        .error (.waitCutOff session.lifecycle.container.cid (.whole bound)) after ∧
      Tended [] session after ∧
      after.lifecycle.container =
        { session.lifecycle.container with status := some .finished } := by
  let ended := session.withContainer { session.lifecycle.container with status := some .finished }
  have noted : Tended [] session ended := tended_withContainer rfl rfl rfl
  obtain ⟨after, logged, tended, same⟩ :=
    log_apply .error "Container did not exit in time" [("timeout", .int bound)] ended
  -- The failure names the container as it is after the event, which has left it alone.
  have failed : (container >>= fun now =>
      (throw (.waitCutOff now.cid (.whole bound)) : Step Session α)) after =
        .error (.waitCutOff after.lifecycle.container.cid (.whole bound)) after := rfl
  rw [tended.cid] at failed
  exact ⟨after, (bind_of_ok (advance_finished_apply session) _).trans
    ((bind_of_ok logged _).trans failed), noted.trans tended, by rw [same]; rfl⟩

/-- A report is noted in full, or not at all. -/
theorem noteExit_cases (members : List (String × Json)) (session : Session) :
    (∃ code after, ExitCode.noted members = .ok code ∧ noteExit members session = .ok code after ∧
      Tended [] session after ∧ after.lifecycle.container =
        { session.lifecycle.container with exitCode := some code }) ∨
    (∃ failure after, ExitCode.noted members = .error failure ∧
      noteExit members session = .error failure after ∧ Tended [] session after) := by
  cases given : ExitCode.ofMembers members with
  | error failure =>
    have opened : noteExit members session = .error failure session := by
      unfold noteExit
      rw [given]
      rfl
    exact Or.inr ⟨failure, session, by simp [ExitCode.noted, given, bind, Except.bind], opened,
      Tended.refl session⟩
  | ok code =>
    let noted := session.withContainer { session.lifecycle.container with exitCode := some code }
    have tended : Tended [] session noted := tended_withContainer rfl rfl rfl
    have opened : noteExit members session =
        (if code ≠ 0 then
          Step.ofExcept (ExitCode.errorMessage members) >>= fun message =>
            log .warning "Scanner exited with non-zero status"
              [("exit_code", .int code), ("error", message)] >>= fun _ => pure code
        else pure code) noted := by
      unfold noteExit
      rw [given]
      rfl
    have rule : ExitCode.noted members =
        if code ≠ 0 then discard (ExitCode.errorMessage members) >>= fun _ => .ok code
        else .ok code := by
      unfold ExitCode.noted
      rw [given]
      rfl
    rw [opened, rule]
    by_cases zero : code = 0
    · rw [if_neg (· zero), if_neg (· zero)]
      exact Or.inl ⟨code, noted, rfl, rfl, tended, rfl⟩
    -- An exit code that is not zero is reported with the error, which must be readable.
    · rw [if_pos zero, if_pos zero]
      cases read : ExitCode.errorMessage members with
      | error failure => exact Or.inr ⟨failure, noted, rfl, rfl, tended⟩
      | ok message =>
        obtain ⟨after, logged, quiet, same⟩ := log_apply .warning
          "Scanner exited with non-zero status" [("exit_code", .int code), ("error", message)] noted
        refine Or.inl ⟨code, after, rfl, ?_, tended.trans quiet, by rw [same]; rfl⟩
        exact bind_of_ok logged _

/-- A wait is one query, and ends well if the report that answers it can be noted. -/
theorem wait_cases {session : Session} (connected : session.lifecycle.connected = true) :
    (∃ code after, session.world.nextExit = .ok code ∧ wait session = .ok code after ∧
      Tended [.waiting session.lifecycle.container.cid session.lifecycle.settings.waitTimeout]
        session after ∧
      after.lifecycle.container = { session.lifecycle.container with exitCode := some code }) ∨
    (∃ cause failure after, session.world.nextExit = .error cause ∧
      wait session = .error failure after ∧
      Tended [.waiting session.lifecycle.container.cid session.lifecycle.settings.waitTimeout]
        session after) := by
  let bound := session.lifecycle.settings.waitTimeout
  let query := Query.waiting session.lifecycle.container.cid bound
  have asked := tended_afterQuery session query
  -- A wait that is cut off is told apart, and either way the failure is logged.
  have fails : Fails fun fault text =>
      if fault = .readTimeout then (cutOff bound : Step Session Reply)
      else endAs "Container wait failed" "wait" text := by
    intro fault text session
    by_cases late : fault = .readTimeout
    · obtain ⟨after, failed, tended, _⟩ := @cutOff_apply Reply bound session
      exact ⟨_, after, by simpa only [if_pos late] using failed, tended⟩
    · simpa only [if_neg late] using fails_endAs "Container wait failed" "wait" fault text session
  have opened : wait session =
      (onDaemonFailure (call query.method query.positional query.named) (fun fault text =>
        if fault = .readTimeout then cutOff bound
        else endAs "Container wait failed" "wait" text) >>= fun reply =>
          Step.ofExcept reply.named >>= noteExit) session := rfl
  rw [opened]
  -- The report is only looked at if the daemon has sent one.
  rcases ask_cases (call_apply connected query) fails with
    ⟨reply, answered, done⟩ | ⟨cause, failure, after, refused, failed, tended⟩
  · have expected : session.world.nextExit = (reply.named.bind ExitCode.noted) := by
      unfold World.nextExit
      rw [show (session.world.nextOutcome .wait).result = .ok reply from answered]
      rfl
    rw [bind_of_ok done, expected]
    cases reply.named with
    | error failure =>
      exact Or.inr ⟨failure, failure, session.afterQuery query, rfl, rfl, asked⟩
    | ok members =>
      rcases noteExit_cases members (session.afterQuery query) with
        ⟨code, after, read, noted, tended, same⟩ | ⟨failure, after, unread, failed, tended⟩
      · exact Or.inl ⟨code, after, read, noted, asked.trans tended, same⟩
      · exact Or.inr ⟨failure, failure, after, unread, failed, asked.trans tended⟩
  · refine Or.inr ⟨cause, failure, after, ?_, bind_of_error failed _, tended⟩
    unfold World.nextExit
    rw [show (session.world.nextOutcome .wait).result = .error cause from refused]
    rfl

/-- The output is asked for once, and the container's life ends whatever the answer is. -/
theorem requestOutput_cases {session : Session} (connected : session.lifecycle.connected = true) :
    (∃ reply after, (session.world.nextOutcome .logs).result = .ok reply ∧
      requestOutput session = .ok reply after ∧
      Tended [.reading session.lifecycle.container.cid] session after ∧
      after.lifecycle.container =
        { session.lifecycle.container with status := some .finished }) ∨
    (∃ cause failure after, (session.world.nextOutcome .logs).result = .error cause ∧
      requestOutput session = .error failure after ∧
      Tended [.reading session.lifecycle.container.cid] session after) := by
  let cid := session.lifecycle.container.cid
  let query := Query.reading cid
  let ended (middle : Session) :=
    middle.withContainer { middle.lifecycle.container with status := some .finished }
  -- Marking the container as finished asks the daemon for nothing.
  have closes (middle : Session) : Tended [] middle (ended middle) :=
    tended_withContainer rfl rfl rfl
  have opened : requestOutput session =
      ensuring (fun session =>
        onDaemonFailure (call query.method query.positional query.named)
          (fun _ text => failAs "Reading container output failed" "logs" [] cid text) session)
        (advance .finished) session := rfl
  rw [opened]
  -- The status is noted behind both endings.
  rcases ask_cases (call_apply connected query)
    (fails_failAs "Reading container output failed" "logs" [] cid) with
    ⟨reply, answered, done⟩ | ⟨cause, failure, after, refused, failed, tended⟩
  · exact Or.inl ⟨reply, ended (session.afterQuery query), answered,
      ensuring_of_ok done (advance_finished_apply _),
      (tended_afterQuery session query).trans (closes _), rfl⟩
  · exact Or.inr ⟨cause, failure, ended after, refused,
      ensuring_of_error failed (advance_finished_apply _), tended.trans (closes after)⟩

/-- Output is read by one query, and becomes a text if the daemon sends bytes. -/
theorem readOutput_cases {session : Session} (connected : session.lifecycle.connected = true) :
    (∃ bytes after, session.world.nextOutput = .ok bytes ∧
      readOutput session = .ok (Text.Utf8.decode bytes) after ∧
      Tended [.reading session.lifecycle.container.cid] session after ∧
      after.lifecycle.container = { session.lifecycle.container with
        finishedAt := some session.world.clock.now
        status := some .finished
        output := Text.Utf8.decode bytes }) ∨
    (∃ cause failure after, session.world.nextOutput = .error cause ∧
      readOutput session = .error failure after ∧
      Tended [.reading session.lifecycle.container.cid] session after) := by
  let begun := session.withContainer { session.lifecycle.container with
    finishedAt := some session.world.clock.now }
  have noted : Tended [] session begun := tended_withContainer rfl rfl rfl
  -- What is left to do once the output is there.
  let finish (text : String) : Step Session String := do
    setContainer { ← container with output := text }
    log .info "Container finished" [("exit_code", .ofOption ((← container).exitCode.map .int))]
    return text
  have opened : readOutput session = (requestOutput >>= fun reply =>
      Step.ofExcept reply.output >>= fun bytes => finish (Text.Utf8.decode bytes)) begun := rfl
  rw [opened]
  rcases @requestOutput_cases begun connected with
    ⟨reply, middle, answered, done, tended, same⟩ | ⟨cause, failure, after, refused, failed, tended⟩
  · have expected : session.world.nextOutput = reply.output := by
      unfold World.nextOutput
      rw [show (session.world.nextOutcome .logs).result = .ok reply from answered]
      rfl
    rw [bind_of_ok done, expected]
    cases sent : reply.output with
    | error failure => exact Or.inr ⟨failure, failure, middle, rfl, rfl, noted.trans tended⟩
    | ok bytes =>
      -- Once there are bytes, nothing can go wrong any more.
      let read := middle.withContainer { middle.lifecycle.container with
        output := Text.Utf8.decode bytes }
      have kept : Tended [] middle read := tended_withContainer rfl rfl rfl
      obtain ⟨after, logged, quiet, still⟩ := log_apply .info "Container finished"
        [("exit_code", .ofOption (read.lifecycle.container.exitCode.map .int))] read
      refine Or.inl ⟨bytes, after, rfl, bind_of_ok logged _,
        ((noted.trans tended).trans kept).trans quiet, ?_⟩
      rw [still]
      simp only [read, withContainer, same]
      rfl
  · refine Or.inr ⟨cause, failure, after, ?_, bind_of_error failed _, noted.trans tended⟩
    unfold World.nextOutput
    rw [show (session.world.nextOutcome .logs).result = .error cause from refused]
    rfl

/-- Clearing up is one query for the removal by force, and leaves the lifecycle alone. -/
theorem cleanup_leads {session : Session} (connected : session.lifecycle.connected = true) :
    Tended [.removal session.lifecycle.container.cid] session (after cleanup session) ∧
      (after cleanup session).lifecycle = session.lifecycle := by
  let cid := session.lifecycle.container.cid
  let query := Query.removal cid
  have asked := tended_afterQuery session query
  have opened : remove .null true session =
      (onDaemonFailure (discard (call query.method query.positional query.named)) (fun _ text =>
        failAs "Container remove failed" "remove" [("target", cid)] cid text) >>= fun _ =>
          log .info "Container removed" [("target", cid)]) session := rfl
  have put := discard_call_apply connected query
  rw [cleanup, after_handling_pure]
  cases answered : (session.world.nextOutcome query.method).result with
  | ok reply =>
    rw [answered] at put
    obtain ⟨final, logged, quiet, same⟩ :=
      log_apply .info "Container removed" [("target", cid)] (session.afterQuery query)
    -- The removal was answered, and only that is logged.
    have removed := opened.trans ((bind_of_ok (onDaemonFailure_of_ok put _) _).trans logged)
    rw [after_of_ok removed]
    exact ⟨asked.trans quiet, same⟩
  | error cause =>
    rw [answered] at put
    -- A refusal by the daemon is logged and named before it is dropped.
    let kept (final : Session) := Tended [query] session final ∧ final.lifecycle = session.lifecycle
    have reached : kept (session.afterQuery query) := ⟨asked, rfl⟩
    have handled : ∀ fault text, ∃ failure final,
        (fun _ text => failAs "Container remove failed" "remove" [("target", cid)] cid text :
          DaemonFault → String → Step Session Unit) fault text (session.afterQuery query) =
            .error failure final ∧ kept final := by
      intro fault text
      obtain ⟨final, failed, quiet, same⟩ := @failAs_apply Unit "Container remove failed" "remove"
        [("target", cid)] cid text (session.afterQuery query)
      exact ⟨_, final, failed, asked.trans quiet, same⟩
    obtain ⟨failure, final, failed, stayed⟩ := onDaemonFailure_error put reached handled
    rw [after_of_error (opened.trans (bind_of_error failed _))]
    exact stayed

end Session

end ContainerScan
