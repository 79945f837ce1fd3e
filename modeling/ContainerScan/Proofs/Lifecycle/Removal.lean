import ContainerScan.Proofs.Alongside.Lifecycle
import ContainerScan.Proofs.Lifecycle.Attendance
import ContainerScan.Proofs.Lifecycle.Refusal

/-! Removals that decide nothing: two daemons that differ in how they answer a removal make a run end
alike, and as it would have ended with the container left where it is. -/

namespace ContainerScan

open Step

/-- A daemon that answers a removal in whatever way, and refuses one in its own words at most. -/
def Script.MayRemove (script : Script) : Prop :=
  ∀ number failure, (script.outcome .removeContainer number).result = .error failure →
    ∃ fault text, failure = .daemon fault text

namespace World

/-- Two worlds that are the same but for the answers that their daemons have to removals. -/
inductive SameButRemovals (world : World) : World → Prop where
  | intro (script : Script)
    (others : ∀ method, method ≠ .removeContainer → script method = world.script method)
    (one : world.script.MayRemove) (two : script.MayRemove) :
    SameButRemovals world { world with script := script }

/-- An ending in a world with another daemon. -/
def endingWith {α : Type} (script : Script) :
    EStateM.Result Failure World α → EStateM.Result Failure World α
  | .ok value world => .ok value { world with script := script }
  | .error failure world => .error failure { world with script := script }

/-- What ends alike whatever the daemon is goes together in worlds that differ in that alone. -/
theorem alongside_of_blind {α : Type} {act : Step World α}
    (blind : ∀ world script, act { world with script := script } = endingWith script (act world)) :
    Alongside SameButRemovals Eq act act := by
  refine ⟨fun world right same => ?_⟩
  obtain ⟨script, others, one, two⟩ := same
  -- With its own daemon the world ends as it does, so that daemon is still there in the end.
  have own : act world = endingWith world.script (act world) := blind world world.script
  rw [blind world script]
  generalize act world = ending at own ⊢
  cases ending with
  | ok value final =>
    obtain ⟨-, same⟩ := EStateM.Result.ok.inj own
    have kept : world.script = final.script := by rw [same]
    rw [kept] at others one
    exact .ok rfl (SameButRemovals.intro script others one two)
  | error failure final =>
    obtain ⟨-, same⟩ := EStateM.Result.error.inj own
    have kept : world.script = final.script := by rw [same]
    rw [kept] at others one
    exact .error failure (SameButRemovals.intro script others one two)

/-- The next outcome is the same in both worlds, if it is not one of a removal. -/
theorem nextOutcome_others {world : World} {script : Script} {method : Method}
    (others : ∀ method, method ≠ .removeContainer → script method = world.script method)
    (asks : method ≠ .removeContainer) :
    nextOutcome { world with script := script } method = world.nextOutcome method := by
  simp only [nextOutcome, Script.outcome, callCount, others method asks]

/-- What is asked of the daemon goes together, if it is no removal. -/
theorem call_sameButRemovals {method : Method} (asks : method ≠ .removeContainer)
    (positional : List Json) (named : List (String × Json)) :
    Alongside SameButRemovals Eq (call method positional named) (call method positional named) := by
  refine ⟨fun world right same => ?_⟩
  obtain ⟨script, others, one, two⟩ := same
  unfold call
  rw [nextOutcome_others others asks]
  dsimp only
  -- The outcome is one and the same, and both calls begin at one time.
  cases (world.nextOutcome method).result with
  | ok reply => exact .ok rfl (.intro script others one two)
  | error failure => exact .error failure (.intro script others one two)

/-- What is asked of the daemon and may be given up goes together, if it is no removal. -/
theorem callWithin_sameButRemovals {method : Method} (asks : method ≠ .removeContainer)
    (limit : Rat) (positional : List Json) (named : List (String × Json)) :
    Alongside SameButRemovals Eq (callWithin limit method positional named)
      (callWithin limit method positional named) := by
  -- The method is not the one in which the scripts differ.
  refine ⟨fun world right same => ?_⟩
  obtain ⟨script, others, one, two⟩ := same
  unfold callWithin
  rw [nextOutcome_others others asks]
  dsimp only
  split
  · cases (world.nextOutcome method).result with
    | ok reply => exact .ok rfl (.intro script others one two)
    | error failure => exact .error failure (.intro script others one two)
  · exact .ok rfl (.intro script others one two)

/-- A client is opened alike. -/
theorem openClient_sameButRemovals : Alongside SameButRemovals Eq openClient openClient := by
  -- To connect is not to remove, so both scripts have the same word on it.
  refine ⟨fun world right same => ?_⟩
  have asked : Alongside SameButRemovals Eq (discard (call .connect)) (discard (call .connect)) :=
    (call_sameButRemovals (by decide) [] []).discard
  have ends := asked.ends _ _ same
  obtain ⟨script, others, one, two⟩ := same
  have named : { world with script := script }.script .connect = world.script .connect :=
    others .connect (by decide)
  unfold openClient
  rw [named, show callCount { world with script := script } .connect = world.callCount .connect
    from rfl]
  cases world.script .connect (world.callCount .connect) with
  | none => exact .ok rfl (.intro script others one two)
  | some outcome => exact ends

/-- Events are written alike. -/
theorem log_sameButRemovals (logger : Logger) (level : Level) (message : String) (fields : Event) :
    Alongside SameButRemovals Eq (log logger level message fields)
      (log logger level message fields) :=
  alongside_of_blind fun world script => by rw [log_written, log_written]; rfl

/-- A template resolves to one command in both worlds. -/
theorem resolve_sameButRemovals (repository branch template : String) :
    Alongside SameButRemovals Eq (Command.resolveLogged repository branch template none)
      (Command.resolveLogged repository branch template none) := by
  unfold Command.resolveLogged
  dsimp only
  split
  · exact alongside_pure rfl
  · refine alongside_get.bind fun world right same => ?_
    obtain ⟨script, -, -, -⟩ := same
    -- Both processes have one key, so the warning is given in both worlds or in none.
    unfold Command.insertKeyLogged
    dsimp only
    split
    · exact (log_sameButRemovals ..).andThen fun _ => alongside_pure rfl
    · exact alongside_pure rfl

/-- Worlds that are the same but for the answers to removals stay so, unless there is a removal. -/
def removalLink : Link where
  together := SameButRemovals
  settings := Eq
  commands := Eq
  process same := by cases same; rfl
  sameButKey := @Settings.sameButKey_of_eq
  clock same := by cases same; rfl
  log := log_sameButRemovals
  ask := call_sameButRemovals
  askWithin := callWithin_sameButRemovals
  -- None of the following looks at the script, which is all that differs.
  sleep _ := alongside_of_blind fun _ _ => rfl
  openClient := openClient_sameButRemovals
  closeClient := alongside_of_blind fun _ _ => rfl
  noteUpdate _ _ := alongside_of_blind fun _ _ => rfl
  changeStore change := alongside_of_blind fun world script => by
    unfold Keeping.changeStore
    dsimp only
    cases world.outages world.requests with
    | some failure => rfl
    | none => cases change world.store <;> rfl
  print block := alongside_of_blind fun world script => by
    unfold print
    cases block.lines <;> rfl
  printPlain _ := alongside_of_blind fun _ _ => rfl
  resolve := resolve_sameButRemovals
  given := @given_of_eq
  creation _ _ _ same := by
    rw [same]
    exact call_sameButRemovals (by decide) ..

end World

/-- A connector that connects alike whatever the daemon would answer to a removal. -/
def Connector.BlindToRemovals (connector : Connector) : Prop :=
  World.removalLink.Connects connector

namespace Connection

/-- The direct connector does not look at removals. -/
theorem direct_blindToRemovals : Connector.BlindToRemovals direct :=
  World.removalLink.connects_direct

/-- The connector with certificates does not look at removals. -/
theorem secured_blindToRemovals (present : String → Bool) :
    Connector.BlindToRemovals (secured present) :=
  World.removalLink.connects_secured present

end Connection

namespace Session

open World (removalLink)

/-- Two sessions that are the same but for the answers of their daemons to removals. -/
def Apart (left right : Session) : Prop :=
  removalLink.Sessions left right ∧ SameCommand left right

/-- Sessions that are apart have one lifecycle. -/
theorem Apart.lifecycle {left right : Session} (apart : Apart left right) :
    right.lifecycle = left.lifecycle := by
  obtain ⟨⟨_, settings, template, connector, ⟨command, container⟩, connected, logger, _⟩, same⟩ :=
    apart
  -- The record is the same in everything but the command, and in the command too.
  have whole : right.lifecycle.container = left.lifecycle.container := by
    rw [SameCommand, container] at same
    rw [container, show command = left.lifecycle.container.command from same]
  obtain ⟨⟨_, _, _, _, _, _⟩, _⟩ := left
  obtain ⟨⟨_, _, _, _, _, _⟩, _⟩ := right
  cases settings
  cases template
  cases connector
  cases connected
  cases logger
  cases whole
  rfl

/-- What sessions with one daemon do alike, and without a new command, keeps them apart in their
daemons alone. -/
theorem apart_of_tied {α : Type} {act : Step Session α} (tied : removalLink.Tied act)
    (same : Follows SameCommand act) : Alongside Apart Eq act act := by
  refine ⟨fun left right apart => (tied.ends _ _ apart.1).and ?_⟩
  -- Neither side has a command that is not the one before.
  exact (same.leads right).trans (apart.2.trans (same.leads left).symm)

/-- Containers are created alike, with one command. -/
theorem create_apart (repository branch : String) :
    Alongside Apart Eq (create repository branch) (create repository branch) := by
  refine (apart_of_tied (removalLink.resolveCommand repository branch)
    (sameCommand_of_spares (resolveCommand_spares repository branch))).andThen fun command => ?_
  have tied : removalLink.Tied (requestContainer command >>= fun reply =>
      Step.ofExcept reply.newCid >>= adopt) :=
    (removalLink.requestContainer rfl).andThen fun reply =>
      (alongside_ofExcept _).andThen fun cid => removalLink.adopt cid
  have requested := apart_of_tied tied (request_adopt_sameCommand command)
  -- The command is noted first, and it is the same in both records.
  refine ⟨fun left right apart => requested.ends
    (left.withContainer { left.lifecycle.container with command := command })
    (right.withContainer { right.lifecycle.container with command := command }) ?_⟩
  obtain ⟨_, container⟩ := apart.1.container
  refine ⟨{ apart.1 with container := ⟨command, ?_⟩ }, rfl⟩
  simp only [withContainer, container]

/-- A container that is there is attended to alike. -/
theorem execute_apart : Alongside Apart Eq execute execute :=
  apart_of_tied removalLink.execute (execute_attends.mono fun _ _ attends => attends.command)

/-- The stages of a run until a container is there, and what follows then. -/
def reaching {α : Type} (repository branch : String) (last : Step Session α) : Step Session α := do
  connect
  ensureImage
  discard (create repository branch)
  last

/-- What follows alike once a container is there follows alike from the beginning. -/
theorem reaching_ends {α : Type} {wider : Session → Session → Prop} (repository branch : String)
    {last final : Step Session α} (implied : ∀ left right, Apart left right → wider left right)
    (following : ∀ left right, Apart left right → Ends wider Eq (last left) (final right))
    {left right : Session} (apart : Apart left right) :
    Ends wider Eq (reaching repository branch last left)
      (reaching repository branch final right) := by
  -- Up to the container everything is tied, and the rest follows on from there.
  have connected := apart_of_tied removalLink.connect (sameCommand_of_spares connect_spares)
  have loaded := apart_of_tied removalLink.ensureImage
    (sameCommand_of_spares (follows_get.bind fun _ => inWorld_spares _))
  have created := (create_apart repository branch).discard
  refine (connected.ends _ _ apart).bind implied fun _ _ _ _ _ apart => ?_
  refine (loaded.ends _ _ apart).bind implied fun _ _ _ _ _ apart => ?_
  exact (created.ends _ _ apart).bind implied fun _ _ _ _ _ => following _ _

/-! What a removal leaves behind. -/

/-- The events that tell of the removal of a session's container. -/
inductive TellsRemoval (session : Session) : List Event → Prop where
  | removed : TellsRemoval session (session.world.written session.lifecycle.logger .info
      "Container removed" [("target", session.lifecycle.container.cid)])
  | refused (text : String) : TellsRemoval session (session.world.written session.lifecycle.logger
      .error "Container remove failed"
      [("target", session.lifecycle.container.cid), ("error", .string text)])

/-- A session in which some more events have been written. -/
def telling (session : Session) (events : List Event) : Session :=
  { session with world := { session.world with events := session.world.events ++ events } }

/-- What tells of a removal does not depend on what has been asked and told by then. -/
theorem TellsRemoval.behind {session : Session} {told events : List Event} {query : Query}
    (tells : TellsRemoval session told) :
    TellsRemoval ((session.afterQuery query).telling events) told := by
  cases tells with
  | removed => exact .removed
  | refused text => exact .refused text

/-- An event of a session is written as its world writes it. -/
theorem log_telling (level : Level) (message : String) (fields : Event) (session : Session) :
    log level message fields session = .ok () (session.telling
      (session.world.written session.lifecycle.logger level message fields)) := by
  -- The event is written by the world, and the lifecycle stays as it is.
  have opened : log level message fields session =
      inWorld (World.log session.lifecycle.logger level message fields) session := rfl
  rw [opened, inWorld_of_ok (World.log_written ..)]
  rfl

/-- Clearing up succeeds whatever the daemon says of the removal, and adds nothing but the query for
it and an event that tells of it. -/
theorem cleanup_apply {session : Session} (connected : session.lifecycle.connected = true)
    (may : session.world.script.MayRemove) :
    ∃ told, TellsRemoval session told ∧ cleanup session =
      .ok () ((session.afterQuery (.removal session.lifecycle.container.cid)).telling told) := by
  let cid := session.lifecycle.container.cid
  let query := Query.removal cid
  have opened : remove .null true session =
      (onDaemonFailure (discard (call query.method query.positional query.named)) (fun _ text =>
        failAs "Container remove failed" "remove" [("target", cid)] cid text) >>= fun _ =>
          log .info "Container removed" [("target", cid)]) session := rfl
  have put := discard_call_apply connected query
  cases answered : (session.world.nextOutcome query.method).result with
  | ok reply =>
    rw [answered] at put
    have removed := opened.trans ((bind_of_ok (onDaemonFailure_of_ok put _) _).trans
      (log_telling ..))
    exact ⟨_, .removed, handling_of_ok removed ..⟩
  | error failure =>
    obtain ⟨fault, text, rfl⟩ := may _ _ answered
    rw [answered] at put
    -- The refusal is told and named, and then dropped.
    have named : (failAs "Container remove failed" "remove" [("target", cid)] cid text :
        Step Session Unit) (session.afterQuery query) = .error (.operation "remove" text cid) _ :=
      bind_of_ok (log_telling ..) _
    have refused := opened.trans (bind_of_error ((onDaemonFailure_of_daemon put _).trans named) _)
    exact ⟨_, .refused text, (handling_of_error refused ..).trans (if_pos rfl)⟩

/-- Without a client there is nothing to clear up with. -/
theorem cleanup_of_disconnected {session : Session} (absent : session.lifecycle.connected = false) :
    cleanup session = .error (.connectionSetup "not connected; call connect() first") session := by
  let cid := session.lifecycle.container.cid
  have opened : remove .null true session =
      (onDaemonFailure (discard (call .removeContainer [cid] [("force", .bool true)]))
        (fun _ text => failAs "Container remove failed" "remove" [("target", cid)] cid text) >>=
          fun _ => log .info "Container removed" [("target", cid)]) session := rfl
  have asked := discard_of_error
    (call_of_disconnected absent .removeContainer [cid] [("force", .bool true)])
  -- This is no failure of the daemon, and not one of the operation either.
  have refused := opened.trans (bind_of_error (onDaemonFailure_of_other asked nofun _) _)
  exact (handling_of_error refused ..).trans (if_neg (by decide))

/-- Two sessions behind runs that were to end alike but for the removal: the lifecycles are the same,
and so is everything around them but the daemons, the clocks and what tells of the removal. -/
structure AlikeButRemoval (left right : Session) : Prop where
  lifecycle : right.lifecycle = left.lifecycle
  world : right.world = { left.world with
    script := right.world.script, clock := right.world.clock, events := right.world.events }
  events : right.world.events = left.world.events ∨ ∃ earlier one two,
    TellsRemoval left one ∧ TellsRemoval right two ∧
      left.world.events = earlier ++ one ∧ right.world.events = earlier ++ two

/-- Of sessions that are apart one is the other with a different daemon. -/
theorem Apart.eq_with {left right : Session} (apart : Apart left right) :
    ∃ script, right = { left with world := { left.world with script := script } } ∧
      left.world.script.MayRemove ∧ script.MayRemove := by
  -- The lifecycles are the same, and the worlds differ in the script alone.
  have one := apart.lifecycle
  have other := apart.1.world
  obtain ⟨_, _⟩ := left
  obtain ⟨_, _⟩ := right
  cases one
  obtain ⟨script, -, may, can⟩ := other
  exact ⟨script, rfl, may, can⟩

/-- Sessions that are apart in their daemons alone have the same behind them. -/
theorem Apart.alikeButRemoval {left right : Session} (apart : Apart left right) :
    AlikeButRemoval left right := by
  obtain ⟨script, rfl, -, -⟩ := apart.eq_with
  exact ⟨rfl, rfl, Or.inl rfl⟩

/-- Clearing up ends alike, whatever the two daemons answer to it. -/
theorem cleanup_ends {left right : Session} (apart : Apart left right) :
    Ends AlikeButRemoval Eq (cleanup left) (cleanup right) := by
  -- Without a client nothing is removed; with one the removal may go either way and is only told.
  obtain ⟨script, rfl, may, can⟩ := apart.eq_with
  let other : Session := { left with world := { left.world with script := script } }
  cases connected : left.lifecycle.connected with
  | false =>
    rw [cleanup_of_disconnected connected, @cleanup_of_disconnected other connected]
    exact .error _ apart.alikeButRemoval
  | true =>
    obtain ⟨told, tells, done⟩ := cleanup_apply connected may
    obtain ⟨said, speaks, ended⟩ := @cleanup_apply other connected can
    rw [done, ended]
    exact .ok rfl ⟨rfl, rfl,
      Or.inr ⟨left.world.events, told, said, tells.behind, speaks.behind, rfl, rfl⟩⟩

/-- A container that has been created is there for a client that is there. -/
theorem connected_of_create {repository branch : String} {session made : Session} {cid : Json}
    (connected : session.lifecycle.connected = true)
    (done : create repository branch session = .ok cid made) :
    made.lifecycle.connected = true := by
  -- Of the ways in which a creation may go only one is a success.
  rcases create_cases repository branch connected with
    ⟨-, failure, final, failed, -⟩ | ⟨-, _, final, -, -, -, created, asked, -⟩ |
    ⟨-, failure, final, -, failed, -⟩
  · cases failed.symm.trans done
  · cases created.symm.trans done
    exact asked.connected.trans connected
  · cases failed.symm.trans done

/-- Where a container is reached there is a client, and what follows begins there. -/
theorem reaching_of_ok {repository branch : String} {session made : Session}
    (done : reaching repository branch (pure ()) session = .ok () made) :
    made.lifecycle.connected = true ∧
      ∀ {α : Type} (last : Step Session α), reaching repository branch last session = last made := by
  obtain ⟨_, connected, opened, rest⟩ := bind_ok_iff.mp done
  obtain ⟨_, ready, loaded, rest⟩ := bind_ok_iff.mp rest
  obtain ⟨_, _, created, same⟩ := bind_ok_iff.mp rest
  cases same
  -- The client was opened in the beginning, and is still there when the image is.
  have there : ready.lifecycle.connected = true := by
    have kept := (ensureImage_leads connected).2
    rw [after_of_ok loaded] at kept
    rw [kept]
    exact connected_of_connect opened
  obtain ⟨cid, adopted⟩ := ok_of_discard created
  refine ⟨connected_of_create there adopted, fun last => ?_⟩
  rw [reaching, bind_of_ok opened, bind_of_ok loaded, bind_of_ok created]

/-- A container that was reached is attended to and removed, and only the attendance can fail. -/
theorem ensuring_cleanup_of_error {made ended : Session} {failure : Failure}
    (there : made.lifecycle.connected = true) (may : made.world.script.MayRemove)
    (failed : execute made = .error failure ended) :
    ∃ final, ensuring execute cleanup made = .error failure final := by
  -- The client and the daemon are still the same when the attendance has failed.
  have attended := execute_attends.leads made
  rw [after_of_error failed] at attended
  have still : ended.world.script.MayRemove := attended.world.script ▸ may
  obtain ⟨told, -, cleared⟩ := cleanup_apply (attended.connected.trans there) still
  exact ⟨_, ensuring_of_error failed cleared⟩

/-- Removals decide nothing: a run ends alike with two daemons that differ in their answers to
removals alone, and if it fails once a container is there, it fails with what stopped it then. -/
theorem run_ignores_removals (lifecycle : Lifecycle)
    (blind : lifecycle.connector.BlindToRemovals) (world : World) {script : Script}
    (others : ∀ method, method ≠ .removeContainer → script method = world.script method)
    (may : world.script.MayRemove) (can : script.MayRemove) (repository branch : String) :
    Ends AlikeButRemoval Eq (run repository branch ⟨lifecycle, world⟩)
        (run repository branch ⟨lifecycle, { world with script := script }⟩) ∧
      ∀ made failure ended,
        reaching repository branch (pure ()) ⟨lifecycle, world⟩ = .ok () made →
        execute made = .error failure ended →
        result (run repository branch) ⟨lifecycle, world⟩ = .error failure := by
  have apart {other : Script}
      (others : ∀ method, method ≠ .removeContainer → other method = world.script method)
      (can : other.MayRemove) : Apart ⟨lifecycle, world⟩
        ⟨lifecycle, { world with script := other }⟩ :=
    ⟨⟨.intro other others may can, rfl, rfl, rfl, .refl _, rfl, rfl, blind⟩, rfl⟩
  -- The first half compares the two worlds, and the second one is about the given world alone.
  constructor
  · refine reaching_ends repository branch (fun _ _ => Apart.alikeButRemoval) ?_ (apart others can)
    intro left right reached
    have executed := (execute_apart.ends left right reached).ensuring fun _ _ => cleanup_ends
    refine executed.bind (fun _ _ same => same) fun _ _ left right _ alike => ?_
    exact .ok (congrArg Lifecycle.container alike.lifecycle.symm) alike
  · intro made failure ended reached failed
    obtain ⟨there, follows⟩ := reaching_of_ok reached
    -- The world is apart from itself too, and what it says of the daemon holds at the container.
    have itself := @reaching_ends Unit Apart repository branch (pure ()) (pure ())
      (fun _ _ same => same) (fun _ _ apart => .ok rfl apart) _ _ (apart (fun _ _ => rfl) may)
    rw [show reaching repository branch (pure ())
      ⟨lifecycle, { world with script := world.script }⟩ = .ok () made from reached] at itself
    cases itself with | ok _ reached =>
    obtain ⟨_, -, may, -⟩ := reached.eq_with
    obtain ⟨final, closed⟩ := ensuring_cleanup_of_error there may failed
    have opened : run repository branch ⟨lifecycle, world⟩ =
        (ensuring execute cleanup >>= fun _ => container) made := follows _
    exact result_of_error (opened.trans (bind_of_error closed _))

/-- A daemon at which no container can be started, and which answers a removal as it is given. -/
def startless (removal : Outcome) : Script
  | .start, _ => some ⟨1, .error (.daemon .rejected "no such file")⟩
  | .removeContainer, _ => some removal
  | _, _ => none

/-- A daemon refuses to start a container, and may then refuse to remove it as well, some time later:
the start is what the run fails with. -/
theorem run_ignores_removals_startless :
    let lifecycle : Lifecycle := .fresh { name := "retirejs" } "scan.sh" .standard
      (Connection.secured fun _ => true)
    let removing : World := { settings := .standard, script := startless ⟨0, .ok (.value .null)⟩ }
    let refusing : World :=
      { removing with script := startless ⟨60, .error (.daemon .readTimeout "too slow")⟩ }
    Ends AlikeButRemoval Eq (run "repository" "main" ⟨lifecycle, removing⟩)
        (run "repository" "main" ⟨lifecycle, refusing⟩) ∧
      result (run "repository" "main") ⟨lifecycle, refusing⟩ =
        .error (.operation "start" "no such file" (.string Script.usualCid)) := by
  intro lifecycle removing refusing
  -- The scripts differ in what becomes of the removal, and in nothing else.
  have others : ∀ method, method ≠ .removeContainer →
      refusing.script method = removing.script method := by
    intro method other
    cases method with
    | removeContainer => exact absurd rfl other
    | _ => rfl
  have may : removing.script.MayRemove := nofun
  have can : refusing.script.MayRemove := by
    rintro number failure ⟨⟩
    exact ⟨.readTimeout, "too slow", rfl⟩
  exact ⟨(run_ignores_removals lifecycle (Connection.secured_blindToRemovals _) removing others may
    can "repository" "main").1, by decide +kernel⟩

end Session

end ContainerScan
