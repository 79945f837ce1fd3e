import ContainerScan.Proofs.Lifecycle.Answers
import ContainerScan.Proofs.Lifecycle.Removal

/-! The record that a run leaves behind, however it has ended: each field of it goes back to what the
daemon has answered. -/

namespace ContainerScan

open Step

/-- A container that was attended to, and whose life has ended. -/
def Container.ended (image : Image) (command cid : String) (started : Timestamp) : Container where
  image := image
  command := command
  cid := .string cid
  status := some .finished
  startedAt := some started

/-- What a run of a scanner leaves in the record of its container, with the replies of the daemon that
this goes back to. -/
inductive Left (image : Image) : List (Method × Reply) → Container → Prop where
  /-- No container has been created; a command may have been noted. -/
  | unnamed (command : String) : Left image [] { image := image, command := command }
  | unstarted {created : Reply} {cid : String} (named : created.newCid = .ok (.string cid))
    (command : String) (started : Timestamp) :
    Left image [(.createContainer, created)] (.ended image command cid started)
  | unwaited {created : Reply} {cid : String} (named : created.newCid = .ok (.string cid))
    (command : String) (started : Timestamp) (begun : Reply) :
    Left image [(.createContainer, created), (.start, begun)] (.ended image command cid started)
  | unread {created : Reply} {cid : String} (named : created.newCid = .ok (.string cid))
    (command : String) {started finished : Timestamp}
    (ordered : started.instant ≤ finished.instant) (begun : Reply)
    {members : List (String × Json)} {code : Int} (exits : ExitCode.ofMembers members = .ok code) :
    Left image
      [(.createContainer, created), (.start, begun), (.wait, .value (.object members))]
      { Container.ended image command cid started with
        exitCode := some code, finishedAt := some finished }
  | read {created : Reply} {cid : String} (named : created.newCid = .ok (.string cid))
    (command : String) {started finished : Timestamp}
    (ordered : started.instant ≤ finished.instant) (begun : Reply)
    {members : List (String × Json)} {code : Int} (exits : ExitCode.ofMembers members = .ok code)
    (bytes : List UInt8) :
    Left image
      [(.createContainer, created), (.start, begun), (.wait, .value (.object members)),
        (.logs, .bytes bytes)]
      { Container.ended image command cid started with
        exitCode := some code, finishedAt := some finished, output := Text.Utf8.decode bytes }

/-- A record that goes back to what has come back from the daemon. -/
structure Settled (returned : Method → Reply → Prop) (container : Container) : Prop where
  /-- There is an identifier exactly if a container was created, and it is the one that came back. -/
  unnamed : container.cid = .null ↔ ¬∃ reply, returned .createContainer reply
  named : ∀ reply, returned .createContainer reply → reply.newCid = .ok container.cid
  /-- Without an identifier nothing else is there but a command perhaps. -/
  blank : container.cid = .null → container.status = none ∧ container.startedAt = none ∧
    container.finishedAt = none ∧ container.exitCode = none ∧ container.output = ""
  /-- With one the container is finished, and an attempt to start it was made. -/
  finished : container.cid ≠ .null →
    container.status = some .finished ∧ container.startedAt.isSome = true
  /-- There is an exit code exactly if the wait came back, and it is the one that was reported. -/
  exited : container.exitCode.isSome = true ↔ ∃ reply, returned .wait reply
  code : ∀ members, returned .wait (.value (.object members)) →
    (∀ code, Json.lookup "StatusCode" members = some (.int code) →
      container.exitCode = some code) ∧
    (Json.lookup "StatusCode" members = none → container.exitCode = some (-1))
  /-- The end is dated exactly if the wait came back, and not before the start. -/
  dated : container.finishedAt.isSome = true ↔ ∃ reply, returned .wait reply
  ordered : ∀ started ∈ container.startedAt, ∀ finished ∈ container.finishedAt,
    started.instant ≤ finished.instant
  /-- The output is what came back, and empty where nothing did. -/
  output : ∀ bytes, returned .logs (.bytes bytes) → container.output = Text.Utf8.decode bytes
  silent : (¬∃ reply, returned .logs reply) → container.output = ""

/-- An exit code is the one that was reported, or minus one where none was. -/
theorem code_of_ofMembers {members : List (String × Json)} {code : Int}
    (exits : ExitCode.ofMembers members = .ok code) :
    (∀ given, Json.lookup "StatusCode" members = some (.int given) → code = given) ∧
      (Json.lookup "StatusCode" members = none → code = -1) := by
  -- The member decides: its number is the code, and without it there is a code that no process has.
  constructor
  · intro given present
    rw [ExitCode.ofMembers, present] at exits
    exact (Except.ok.inj exits).symm
  · intro absent
    rw [ExitCode.ofMembers, absent] at exits
    exact (Except.ok.inj exits).symm

/-- What a run leaves goes back to the replies that it was left with. -/
theorem Left.settled {image : Image} {answers : List (Method × Reply)} {container : Container}
    (left : Left image answers container) {returned : Method → Reply → Prop}
    (told : ∀ method ∈ Method.attending, ∀ reply,
      returned method reply ↔ (method, reply) ∈ answers) : Settled returned container := by
  have created := told .createContainer (by decide)
  have waited := told .wait (by decide)
  have read := told .logs (by decide)
  cases left with
  | unnamed command => constructor <;> simp [created, waited, read]
  | unstarted named command started =>
    constructor <;> simp [created, waited, read, Container.ended, named]
  | unwaited named command started begun =>
    constructor <;> simp [created, waited, read, Container.ended, named]
  | unread named command ordered begun exits =>
    constructor
    -- The exit code is the one that was reported; every other field is read off the record.
    case code => simpa [waited, Container.ended] using code_of_ofMembers exits
    all_goals simp [created, waited, read, Container.ended, named, ordered]
  | read named command ordered begun exits bytes =>
    constructor
    case code => simpa [waited, Container.ended] using code_of_ofMembers exits
    all_goals simp [created, waited, read, Container.ended, named, ordered]

/-- Once the output has come back, everything else came back before it. -/
theorem Left.all_of_read {image : Image} {answers : List (Method × Reply)} {container : Container}
    (left : Left image answers container) {output : Reply} (read : (Method.logs, output) ∈ answers) :
    ∀ method ∈ Method.attending, ∃ reply, (method, reply) ∈ answers := by
  cases left with
  | read => simp [Method.attending]
  | _ => simp at read

namespace Session

open World (Answered)

variable {session : Session}

/-- A start is answered, or refused with the container finished. -/
theorem start_settles (connected : session.lifecycle.connected = true)
    (created : session.lifecycle.container.status = some .created)
    (formed : session.world.script.WellFormed) :
    (∃ failure final, start session = .error failure final ∧
      Answered [] session.world final.world ∧
      final.lifecycle.container = { session.lifecycle.container with
        startedAt := some session.world.clock.now, status := some .finished }) ∨
    (∃ begun final, start session = .ok () final ∧
      Answered [(.start, begun)] session.world final.world ∧
      final.lifecycle.connected = true ∧
      final.lifecycle.container = { session.lifecycle.container with
        startedAt := some session.world.clock.now, status := some .running }) := by
  -- A refusal of this daemon is one of its own failures, so it is told as one of the operation.
  rcases start_cases connected created with
    ⟨begun, final, answers, done, tended, same⟩ | ⟨failure, _, _, refuses, -, -⟩
  · exact Or.inr ⟨begun, final, done, tended.world.answered_ok answers,
      tended.connected.trans connected, same⟩
  · obtain ⟨fault, text, rfl⟩ := formed.refuses _ _ _ refuses
    obtain ⟨final, failed, tended, same⟩ := start_of_refused connected refuses
    exact Or.inl ⟨_, final, failed, tended.world.answered_error refuses, same⟩

/-- A wait is answered by an exit code, or refused with the container finished. -/
theorem wait_settles (connected : session.lifecycle.connected = true)
    (formed : session.world.script.WellFormed) :
    (∃ failure final, wait session = .error failure final ∧
      Answered [] session.world final.world ∧
      final.lifecycle.container =
        { session.lifecycle.container with status := some .finished }) ∨
    (∃ members code final, ExitCode.ofMembers members = .ok code ∧ wait session = .ok code final ∧
      Answered [(.wait, .value (.object members))] session.world final.world ∧
      final.lifecycle.connected = true ∧
      final.lifecycle.container = { session.lifecycle.container with exitCode := some code }) := by
  -- What the daemon answers is known to be an exit code, so it cannot be lost on the way.
  cases answered : (session.world.nextOutcome .wait).result with
  | error failure =>
    obtain ⟨fault, text, rfl⟩ := formed.refuses _ _ _ answered
    obtain ⟨final, failed, tended, same⟩ := wait_of_refused connected answered
    exact Or.inl ⟨_, final, failed, tended.world.answered_error answered, same⟩
  | ok reply =>
    obtain ⟨members, code, rfl, exits, noted⟩ := formed.noted answered
    have next : session.world.nextExit = .ok code := by
      rw [World.nextExit, answered]
      exact noted
    rcases wait_cases connected with
      ⟨found, final, exited, done, tended, same⟩ | ⟨_, _, _, lost, -, -⟩
    · obtain rfl := Except.ok.inj (next.symm.trans exited)
      exact Or.inr ⟨members, code, final, exits, done, tended.world.answered_ok answered,
        tended.connected.trans connected, same⟩
    · cases next.symm.trans lost

/-- A request for the output is answered by bytes, or refused; the container is finished anyway. -/
theorem readOutput_settles (connected : session.lifecycle.connected = true)
    (formed : session.world.script.WellFormed) :
    (∃ failure final, readOutput session = .error failure final ∧
      Answered [] session.world final.world ∧
      final.lifecycle.container = { session.lifecycle.container with
        finishedAt := some session.world.clock.now, status := some .finished }) ∨
    (∃ bytes final, readOutput session = .ok (Text.Utf8.decode bytes) final ∧
      Answered [(.logs, .bytes bytes)] session.world final.world ∧
      final.lifecycle.container = { session.lifecycle.container with
        finishedAt := some session.world.clock.now
        status := some .finished
        output := Text.Utf8.decode bytes }) := by
  -- What the daemon answers is known to be bytes, so it can always be read.
  cases answered : (session.world.nextOutcome .logs).result with
  | error failure =>
    obtain ⟨fault, text, rfl⟩ := formed.refuses _ _ _ answered
    obtain ⟨final, failed, tended, same⟩ := readOutput_of_refused connected answered
    exact Or.inl ⟨_, final, failed, tended.world.answered_error answered, same⟩
  | ok reply =>
    obtain ⟨bytes, rfl⟩ := formed.reads _ _ answered
    have next : session.world.nextOutput = .ok bytes := by
      rw [World.nextOutput, answered]
      rfl
    rcases readOutput_cases connected with
      ⟨found, final, sent, done, tended, same⟩ | ⟨_, _, _, unsent, -, -⟩
    · obtain rfl := Except.ok.inj (next.symm.trans sent)
      exact Or.inr ⟨bytes, final, done, tended.world.answered_ok answered, same⟩
    · cases next.symm.trans unsent

/-- What a part of a run leaves behind, after some replies from earlier parts. -/
structure Leaves {α : Type} (image : Image) (earlier answers : List (Method × Reply))
    (act : Step Session α) (session : Session) : Prop where
  answered : Answered answers session.world (after act session).world
  left : Left image (earlier ++ answers) (after act session).lifecycle.container
  /-- It succeeds exactly if the output came back. -/
  ends : (∃ value final, act session = .ok value final) ↔ ∃ reply, (Method.logs, reply) ∈ answers

/-- A part of a run that has failed before any output came back. -/
theorem Leaves.of_error {α : Type} {image : Image} {earlier answers : List (Method × Reply)}
    {act : Step Session α} {failure : Failure} {final : Session}
    (failed : act session = .error failure final)
    (answered : Answered answers session.world final.world)
    (left : Left image (earlier ++ answers) final.lifecycle.container)
    (unread : ∀ reply, (Method.logs, reply) ∉ answers) :
    Leaves image earlier answers act session := by
  -- What failed has no value, and nothing that was answered was an output.
  rw [← after_of_error failed] at answered left
  refine ⟨answered, left, iff_of_false ?_ fun ⟨reply, member⟩ => unread reply member⟩
  rintro ⟨value, other, done⟩
  cases failed.symm.trans done

/-- A part of a run that has succeeded behind the output. -/
theorem Leaves.of_ok {α : Type} {image : Image} {earlier answers : List (Method × Reply)}
    {act : Step Session α} {value : α} {final : Session}
    (done : act session = .ok value final)
    (answered : Answered answers session.world final.world)
    (left : Left image (earlier ++ answers) final.lifecycle.container)
    {reply : Reply} (read : (Method.logs, reply) ∈ answers) :
    Leaves image earlier answers act session := by
  rw [← after_of_ok done] at answered left
  exact ⟨answered, left, iff_of_true ⟨value, final, done⟩ ⟨reply, read⟩⟩

/-- What a later part leaves behind is left by both parts together, if the earlier one succeeds. -/
theorem Leaves.behind {α β : Type} {image : Image} {earlier before answers : List (Method × Reply)}
    {first : Step Session α} {value : α} {middle : Session} {next : α → Step Session β}
    (done : first session = .ok value middle)
    (answered : Answered before session.world middle.world)
    (unread : ∀ reply, (Method.logs, reply) ∉ before)
    (leaves : Leaves image (earlier ++ before) answers (next value) middle) :
    Leaves image earlier (before ++ answers) (first >>= next) session := by
  -- The answers of the first part come before those of the second, and only the second one reads.
  have opened := bind_of_ok done next
  refine ⟨?_, ?_, ?_⟩
  · rw [after_of_eq opened]
    exact answered.trans leaves.answered
  · rw [after_of_eq opened, ← List.append_assoc]
    exact leaves.left
  · rw [opened, leaves.ends]
    simp only [List.mem_append, unread, false_or]

/-- A container that runs is waited for and read as far as the daemon lets it be. -/
theorem conclude_leaves (connected : session.lifecycle.connected = true)
    {image : Image} {command cid : String} {started : Timestamp}
    (record : session.lifecycle.container =
      { Container.ended image command cid started with status := some .running })
    {created : Reply} (named : created.newCid = .ok (.string cid)) (begun : Reply)
    (formed : session.world.script.WellFormed) (timely : session.world.script.NeverEarly)
    (forward : session.world.clock.NeverGoesBack)
    (ordered : started.instant ≤ session.world.clock.now.instant) :
    ∃ answers, Leaves image [(.createContainer, created), (.start, begun)] answers
      (discard wait >>= fun _ => discard readOutput) session := by
  rcases wait_settles connected formed with
    ⟨failure, final, failed, answered, same⟩ |
    ⟨members, code, exited, exits, waited, answered, there, same⟩
  · -- Without a report there is no exit code, and the output is not read.
    rw [record] at same
    exact ⟨[], .of_error (bind_of_error (discard_of_error failed) _) answered
      (same ▸ .unwaited named command started begun) (by simp)⟩
  · -- Waiting has taken its time, so the output is asked for later.
    have waiting := wait_attends.leads session
    rw [after_of_ok waited] at waiting
    have later := Int.le_trans ordered (waiting.world.later timely forward)
    rw [record] at same
    have reading : ∃ answers, Leaves image ([(.createContainer, created), (.start, begun)] ++
        [(.wait, .value (.object members))]) answers (discard readOutput) exited := by
      rcases readOutput_settles there (waiting.world.script ▸ formed) with
        ⟨failure, final, failed, unanswered, last⟩ | ⟨bytes, final, read, sent, last⟩
      · rw [same] at last
        exact ⟨[], .of_error (discard_of_error failed) unanswered
          (last ▸ .unread named command later begun exits) (by simp)⟩
      · rw [same] at last
        exact ⟨_, .of_ok (discard_of_ok read) sent
          (last ▸ .read named command later begun exits bytes) List.mem_cons_self⟩
    obtain ⟨answers, leaves⟩ := reading
    exact ⟨_, leaves.behind (discard_of_ok waited) answered (by simp)⟩

/-- A container that is there is started, waited for and read as far as the daemon lets it be. -/
theorem execute_leaves (connected : session.lifecycle.connected = true)
    {image : Image} {command cid : String}
    (record : session.lifecycle.container =
      { image := image, command := command, cid := .string cid, status := some .created })
    {created : Reply} (named : created.newCid = .ok (.string cid))
    (formed : session.world.script.WellFormed) (timely : session.world.script.NeverEarly)
    (forward : session.world.clock.NeverGoesBack) :
    ∃ answers, Leaves image [(.createContainer, created)] answers execute session := by
  have opened : execute session =
      (start >>= fun _ => discard wait >>= fun _ => discard readOutput) session := rfl
  rcases start_settles connected (by rw [record]) formed with
    ⟨failure, final, failed, answered, same⟩ |
    ⟨begun, running, started, answered, there, same⟩
  · rw [record] at same
    exact ⟨[], .of_error (opened.trans (bind_of_error failed _)) answered
      (same ▸ .unstarted named command _) (by simp)⟩
  · -- Starting has taken its time too, from the moment that is noted on.
    have starting := start_attends.leads session
    rw [after_of_ok started] at starting
    rw [record] at same
    obtain ⟨answers, leaves⟩ := conclude_leaves there same named begun
      (starting.world.script ▸ formed) (starting.world.script ▸ timely)
      (starting.world.steady forward) (starting.world.later timely forward)
    exact ⟨_, leaves.behind started answered (by simp)⟩

/-- Removing the container takes nothing away from what attending to it has left. -/
theorem execute_cleanup_leaves {image : Image} {earlier answers : List (Method × Reply)}
    (connected : session.lifecycle.connected = true) (formed : session.world.script.WellFormed)
    (leaves : Leaves image earlier answers execute session) :
    Leaves image earlier answers (ensuring execute cleanup >>= fun _ => container) session := by
  have attended := execute_attends.leads session
  have may : (after execute session).world.script.MayRemove := by
    rw [attended.world.script]
    exact fun number failure refused => formed.refuses _ _ _ refused
  obtain ⟨told, -, cleared⟩ := cleanup_apply (attended.connected.trans connected) may
  obtain ⟨tended, same⟩ := cleanup_leads (attended.connected.trans connected)
  have removed : Answered [] (after execute session).world (after cleanup _).world :=
    tended.world.answered_others (by simp [Query.removal, Method.attending])
  -- What returns the container changes nothing, so it is left as it is after the removal.
  have final : after (ensuring execute cleanup >>= fun _ => container) session =
      after cleanup (after execute session) := by
    rw [after_bind_container, after_ensuring]
  refine ⟨?_, ?_, Iff.trans ?_ leaves.ends⟩
  · rw [final]
    simpa using leaves.answered.trans removed
  · rw [final, same]
    exact leaves.left
  · -- The removal succeeds in any case, so it is the attendance that decides.
    constructor
    · rintro ⟨value, last, done⟩
      obtain ⟨_, _, ended, -⟩ := bind_ok_iff.mp done
      obtain ⟨middle, executed, -⟩ := ensuring_ok_iff.mp ended
      exact ⟨_, middle, executed⟩
    · rintro ⟨value, middle, done⟩
      rw [after_of_ok done] at cleared
      exact ⟨_, _, bind_of_ok (ensuring_of_ok done cleared) _⟩

/-- Once the image is there a run leaves what the daemon lets it come to. -/
theorem runLoaded_leaves (repository branch : String)
    (connected : session.lifecycle.connected = true) {image : Image}
    (record : session.lifecycle.container = { image := image })
    (steady : session.lifecycle.connector.Steady)
    (formed : session.world.script.WellFormed) (timely : session.world.script.NeverEarly)
    (forward : session.world.clock.NeverGoesBack) :
    ∃ answers, Leaves image [] answers (runLoaded repository branch) session ∧
      (answers ≠ [] → session.commandFor repository branch ≠ "") := by
  by_cases empty : session.commandFor repository branch = ""
  · -- Without a command the daemon is not asked at all.
    obtain ⟨final, failed, quiet, same⟩ := create_of_empty empty
    have kept : final.lifecycle.container = { image := image } := by rw [same, record]
    exact ⟨[], .of_error (runLoaded_of_error failed) (quiet.world.answered_others (by simp))
      (kept ▸ .unnamed "") (by simp), fun some => absurd rfl some⟩
  cases answered : (session.world.nextOutcome .createContainer).result with
  | error failure =>
    -- A refusal leaves the command in the record, and nothing else.
    obtain ⟨fault, text, rfl⟩ := formed.refuses _ _ _ answered
    obtain ⟨final, failed, asked, same⟩ :=
      create_of_refused connected repository branch empty answered
    rw [record] at same
    exact ⟨[], .of_error (runLoaded_of_error failed) (asked.world.answered_error answered)
      (same ▸ .unnamed _) (by simp), fun some => absurd rfl some⟩
  | ok reply =>
    obtain ⟨members, cid, rfl, given⟩ := formed.creates _ _ answered
    have named : Reply.newCid (.value (.object members)) = .ok (.string cid) := by
      rw [Reply.newCid, given]
    have next : session.world.nextCid = .ok (.string cid) := by
      rw [World.nextCid, answered]
      exact named
    rcases create_cases repository branch connected with
      ⟨none, -⟩ | ⟨-, found, made, awaited, -, -, done, asked, same⟩ |
      ⟨-, _, _, unnamed, -, -⟩
    · exact absurd none empty
    · obtain rfl := Except.ok.inj (next.symm.trans awaited)
      have kept := steady_of_tied
        (fun start => (World.steadyLink start).create repository branch) steady
      rw [after_of_ok done] at kept
      rw [record] at same
      have there := asked.connected.trans connected
      have formed : made.world.script.WellFormed := asked.world.script ▸ formed
      obtain ⟨answers, leaves⟩ := execute_leaves there same named formed
        (asked.world.script ▸ timely) (kept forward)
      exact ⟨_, (execute_cleanup_leaves there formed leaves).behind (discard_of_ok done)
        (asked.world.answered_ok answered) (by simp [Query.creation]), fun _ => empty⟩
    · -- A text can always be shortened, so the container would have been adopted.
      have unbegun : session.lifecycle.container.isUnbegun = true := by rw [record]; rfl
      exact absurd (unnamed _ next unbegun) (by simp [shortened?])

/-- A run of a new lifecycle leaves what the daemon lets it come to, and it comes to nothing where
there is no client, no image or no command. -/
theorem run_leaves (image : Image) (template : String) (settings : Settings) {connector : Connector}
    (connecting : connector.OnlyConnects) (steady : connector.Steady) {world : World}
    (formed : world.script.WellFormed) (timely : world.script.NeverEarly)
    (forward : world.clock.NeverGoesBack) (repository branch : String) :
    let fresh : Session := ⟨.fresh image template settings connector, world⟩
    ∃ answers, Leaves image [] answers (run repository branch) fresh ∧
      (answers ≠ [] → result connect fresh = .ok () ∧
        result ensureImage (after connect fresh) = .ok () ∧
        fresh.commandFor repository branch ≠ "") := by
  intro fresh
  have opens := @connect_leads fresh rfl connecting
  have spared : (after connect fresh).lifecycle.container = { image := image } :=
    connect_spares.leads fresh
  have none : ∀ method ∈ [Method.connect], method ∉ Method.attending := by decide
  rcases @run_stages repository branch fresh rfl with
    ⟨failure, final, broken, failed⟩ |
    ⟨connected, done, ⟨failure, final, missing, failed, asks⟩ | found⟩
  · rw [after_of_error broken] at opens spared
    exact ⟨[], .of_error failed (opens.answered_others none) (spared ▸ .unnamed "") (by simp),
      fun some => absurd rfl some⟩
  · -- Getting the image leaves the lifecycle alone, whatever comes of it.
    have kept := (ensureImage_leads connected).2
    rw [after_of_error missing] at kept
    rw [after_of_ok done] at opens spared
    rw [← kept] at spared
    exact ⟨[], .of_error failed
      ((opens.answered_others none).trans (asks.answered_others (by decide)))
      (spared ▸ .unnamed "") (by simp), fun some => absurd rfl some⟩
  · obtain ⟨ready, loaded, asks, kept, -⟩ := found
    have reached : (connect >>= fun _ => ensureImage) fresh = .ok () ready :=
      (bind_of_ok done _).trans loaded
    -- The clock does not go back while the image is made ready.
    have onward : World.Steady world _ :=
      @steady_of_tied _ _ (fun start => (World.steadyLink start).connect.andThen fun _ =>
        (World.steadyLink start).ensureImage) fresh steady
    rw [after_of_ok reached] at onward
    rw [after_of_ok done] at opens
    have alike := opens.alike.trans asks.alike
    have command : ready.commandFor repository branch = fresh.commandFor repository branch := by
      rw [commandFor, kept, alike.settings]
      rfl
    have record : ready.lifecycle.container = { image := image } := by rw [kept]; rfl
    obtain ⟨answers, leaves, given⟩ := runLoaded_leaves repository branch
      (by rw [kept]) record (by rw [kept]; exact steady)
      (alike.script ▸ formed) (alike.script ▸ timely) (onward forward)
    -- The run proper leaves a container behind, and what comes before it asks nothing about one.
    have loading : Leaves image [] ([] ++ answers)
        (ensureImage >>= fun _ => runLoaded repository branch) connected :=
      leaves.behind loaded (asks.answered_others (by decide)) (by simp)
    refine ⟨[] ++ ([] ++ answers), loading.behind done (opens.answered_others none) (by simp), ?_⟩
    intro some
    rw [← command, after_of_ok done]
    exact ⟨result_of_ok done, result_of_ok loaded, given (by simpa using some)⟩

/-- A run hands out the record that it leaves behind. -/
theorem eq_of_run_ok {repository branch : String} {final : Session} {found : Container}
    (done : run repository branch session = .ok found final) : found = final.lifecycle.container := by
  -- The last step of a run looks at the container, and a success has passed all the others.
  obtain ⟨_, _, _, rest⟩ := bind_ok_iff.mp done
  obtain ⟨_, _, _, rest⟩ := bind_ok_iff.mp rest
  obtain ⟨_, _, _, rest⟩ := bind_ok_iff.mp rest
  obtain ⟨_, last, _, shown⟩ := bind_ok_iff.mp rest
  cases shown
  rfl

/-- However a run of a new lifecycle ends, its record goes back to what the daemon has answered, and
it returns that record exactly if nothing was refused on the way. -/
theorem run_settles (image : Image) (template : String) (settings : Settings) {connector : Connector}
    (connecting : connector.OnlyConnects) (steady : connector.Steady) {world : World}
    (formed : world.script.WellFormed) (timely : world.script.NeverEarly)
    (forward : world.clock.NeverGoesBack) (repository branch : String) :
    let fresh : Session := ⟨.fresh image template settings connector, world⟩
    let final := after (run repository branch) fresh
    let returned := World.Returned world final.world
    Settled returned final.lifecycle.container ∧
      ((∃ container, result (run repository branch) fresh = .ok container) ↔
        result connect fresh = .ok () ∧ result ensureImage (after connect fresh) = .ok () ∧
          fresh.commandFor repository branch ≠ "" ∧
          ∀ method ∈ Method.attending, ∃ reply, returned method reply) ∧
      ∀ container, result (run repository branch) fresh = .ok container →
        container = final.lifecycle.container := by
  intro fresh final returned
  obtain ⟨answers, leaves, given⟩ :=
    run_leaves image template settings connecting steady formed timely forward repository branch
  have told := leaves.answered.returned
  refine ⟨leaves.left.settled told, ?_, ?_⟩
  · constructor
    · -- Only what came through to the output has been through all the rest.
      rintro ⟨container, done⟩
      obtain ⟨reply, read⟩ := leaves.ends.mp ⟨container, final, ok_of_result done⟩
      obtain ⟨opened, loaded, command⟩ := given (List.ne_nil_of_mem read)
      exact ⟨opened, loaded, command, fun method member =>
        (leaves.left.all_of_read read method member).imp fun reply => (told method member reply).mpr⟩
    · -- The output is the last thing asked for, so an answer to that is enough.
      rintro ⟨-, -, -, all⟩
      obtain ⟨reply, read⟩ := all .logs (by decide)
      obtain ⟨container, final, run⟩ :=
        leaves.ends.mpr ⟨reply, (told .logs (by decide) reply).mp read⟩
      exact ⟨container, result_of_ok run⟩
  · intro container done
    exact eq_of_run_ok (ok_of_result done)

/-- A daemon on which a container is killed after half a minute. -/
def killing : Script
  | .wait, _ => some ⟨30, .ok (.value (.object [("StatusCode", .int 137)]))⟩
  | _, _ => none

/-- A container is killed: the run returns what it has read all the same, with the exit code. -/
theorem run_settles_killed :
    let world : World := { settings := .standard, script := killing }
    let fresh : Session := ⟨.fresh { name := "retirejs" } "scan.sh" .standard
      (Connection.secured fun _ => true), world⟩
    let final := after (run "repository" "main") fresh
    Settled (World.Returned world final.world) final.lifecycle.container ∧
      result (run "repository" "main") fresh = .ok final.lifecycle.container ∧
      final.lifecycle.container.exitCode = some 137 := by
  intro world fresh final
  -- This daemon sends well formed answers and takes thirty seconds to wait.
  have formed : world.script.WellFormed := by
    refine ⟨?_, ?_, ?_, ?_⟩
    · rintro ⟨⟩ number failure ⟨⟩
    · rintro number reply ⟨⟩
      exact ⟨_, _, rfl, rfl⟩
    · rintro number reply ⟨⟩
      exact ⟨_, rfl, Or.inr ⟨137, rfl⟩, Or.inl rfl⟩
    · rintro number reply ⟨⟩
      exact ⟨_, rfl⟩
  have timely : world.script.NeverEarly := by
    intro method number
    cases method with
    | wait => exact (by decide : (0 : Rat) ≤ 30)
    | _ => exact le_refl (0 : Rat)
  obtain ⟨settled, ends, same⟩ := run_settles { name := "retirejs" } "scan.sh" .standard
    (Connection.secured_onlyConnects _) (Connection.secured_steady fun _ => true) formed timely
    Clock.double_neverGoesBack "repository" "main"
  -- Each method was called at least once, and this daemon answers its first call.
  have comes : ∀ method ∈ Method.attending, ∃ reply,
      World.Returned world final.world method reply := by
    have begun : ∀ method ∈ Method.attending, 0 < final.world.callCount method := by
      decide +kernel
    have answers : ∀ method, ∃ reply, (killing.outcome method 0).result = .ok reply := by
      intro method
      cases method <;> exact ⟨_, rfl⟩
    intro method member
    obtain ⟨reply, answered⟩ := answers method
    exact ⟨reply, 0, Nat.le_refl 0, begun method member, answered⟩
  have opened : result connect fresh = .ok () := by decide +kernel
  have loaded : result ensureImage (after connect fresh) = .ok () := by decide +kernel
  have command : fresh.commandFor "repository" "main" ≠ "" := by decide +kernel
  have exited : final.lifecycle.container.exitCode = some 137 := by decide +kernel
  obtain ⟨container, done⟩ := ends.mpr ⟨opened, loaded, command, comes⟩
  rw [same container done] at done
  dsimp only [final, fresh] at exited ⊢
  exact ⟨settled, done, exited⟩

end Session

end ContainerScan
