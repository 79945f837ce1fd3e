import ContainerScan.Health
import ContainerScan.Proofs.Exchange
import ContainerScan.Proofs.Lifecycle.Run

/-! What becomes of a client that cannot be opened: a connection that cannot be set up, with one event
in the log, unless the fault lies on the way to the daemon. -/

namespace ContainerScan

open Step

namespace World

/-- A client that the daemon refuses is not opened, and nothing is logged about that here. -/
theorem openClient_of_error {world : World} {failure : Failure}
    (refused : (world.nextOutcome .connect).result = .error failure) :
    openClient world = .error failure (world.afterQuery ⟨.connect, [], []⟩) := by
  unfold openClient
  cases named : world.script .connect (world.callCount .connect) with
  | none =>
    -- A daemon whose script has no word on it refuses nothing.
    rw [nextOutcome, Script.outcome, named] at refused
    cases refused
  | some outcome => exact discard_of_error (call_of_error ⟨.connect, [], []⟩ world refused)

end World

namespace Connection

/-- What is given up is a connection that cannot be set up, and one event tells of it. -/
theorem giveUp_apply (message : String) (fields : Event) (reason : String) (world : World) :
    giveUp message fields reason world = .error (.connectionSetup reason)
      { world with events := world.events ++ world.written logger .error message fields } :=
  bind_of_ok (World.log_written ..) _

/-- A fault on the way to the daemon passes through where a client is opened. -/
theorem openAt_of_unreached (settings : Settings) {world middle : World} {fault : DaemonFault}
    {text : String} (failed : World.openClient world = .error (.daemon fault text) middle)
    (way : fault.isTransport = true) :
    openAt settings world = .error (.daemon fault text) middle := by
  refine bind_of_error ((onDaemonFailure_of_daemon failed _).trans ?_) _
  rw [if_pos way]
  rfl

/-- Any other fault of the daemon is told as a connection that cannot be set up. -/
theorem openAt_of_answered (settings : Settings) {world middle : World} {fault : DaemonFault}
    {text : String} (failed : World.openClient world = .error (.daemon fault text) middle)
    (way : fault.isTransport = false) :
    openAt settings world =
      .error (.connectionSetup ("cannot connect to " ++ settings.daemonUrl ++ ": " ++ text))
        { middle with
          events := middle.events ++ middle.written logger .error "Cannot create Docker client"
            [("host", .string settings.daemonUrl), ("error", .string text)] } := by
  refine bind_of_error ((onDaemonFailure_of_daemon failed _).trans ?_) _
  rw [if_neg (by rw [way]; decide)]
  exact giveUp_apply ..

/-- What is made of a fault that comes up while a client is opened, between two worlds. -/
structure Told (present : String → Bool) (settings : Settings) (fault : DaemonFault)
    (text : String) (before : World) (failure : Failure) (after : World) : Prop where
  /-- Certificates that cannot be used are told before the daemon is asked. -/
  certificates : ∀ message, options settings present = .error message →
    failure = .connectionSetup ("invalid TLS configuration: " ++ invalidTlsText message) ∧
      after.calls = before.calls ∧
      after.events = before.events ++ before.written logger .error
        "Invalid Docker TLS configuration"
        [("cert_path", .string settings.certificates), ("error", .string (invalidTlsText message))]
  /-- What the client or the daemon itself fails with is told as a connection that is not set up. -/
  answered : (options settings present).isOk → fault.isTransport = false →
    failure = .connectionSetup ("cannot connect to " ++ settings.daemonUrl ++ ": " ++ text) ∧
      after.events = before.events ++ before.written logger .error "Cannot create Docker client"
        [("host", .string settings.daemonUrl), ("error", .string text)]
  /-- A fault on the way to the daemon is passed on as it is, and nothing tells of it. -/
  unreached : (options settings present).isOk → fault.isTransport = true →
    failure = .daemon fault text ∧ after.events = before.events

/-- Where the daemon refuses a client, no client is opened, and what comes of that is told. -/
theorem secured_told (present : String → Bool) (settings : Settings) {world : World}
    {fault : DaemonFault} {text : String}
    (refused : (world.nextOutcome .connect).result = .error (.daemon fault text)) :
    ∃ failure final, secured present settings world = .error failure final ∧
      Told present settings fault text world failure final := by
  unfold secured
  -- Certificates that cannot be used stop the connection before the daemon is asked.
  cases usable : options settings present with
  | error message =>
    refine ⟨_, _, giveUp_apply .., ?_, ?_, ?_⟩
    · rintro other same
      cases usable.symm.trans same
      exact ⟨rfl, rfl, rfl⟩
    · rw [usable]
      nofun
    · rw [usable]
      nofun
  | ok found =>
    have opened := World.openClient_of_error refused
    have certificates : ∀ message, options settings present ≠ .error message := by
      rw [usable]
      nofun
    -- The daemon has been asked, so its fault decides.
    cases way : fault.isTransport with
    | true =>
      exact ⟨_, _, openAt_of_unreached settings opened way,
        fun message same => absurd same (certificates message),
        fun _ other => absurd (way.symm.trans other) (by decide), fun _ _ => ⟨rfl, rfl⟩⟩
    | false =>
      exact ⟨_, _, openAt_of_answered settings opened way,
        fun message same => absurd same (certificates message),
        fun _ _ => ⟨rfl, rfl⟩, fun _ other => absurd (way.symm.trans other) (by decide)⟩

/-- What is told does not depend on the worlds between which it is. -/
theorem Told.failure_eq {present : String → Bool} {settings : Settings} {fault : DaemonFault}
    {text : String} {before after other final : World} {failure cause : Failure}
    (first : Told present settings fault text before failure after)
    (second : Told present settings fault text other cause final) : failure = cause := by
  -- The certificates decide, and where they can be used the fault does.
  cases usable : options settings present with
  | error message =>
    exact (first.certificates message usable).1.trans (second.certificates message usable).1.symm
  | ok found =>
    have fine : (options settings present).isOk := by
      rw [usable]
      rfl
    cases way : fault.isTransport with
    | true => exact (first.unreached fine way).1.trans (second.unreached fine way).1.symm
    | false => exact (first.answered fine way).1.trans (second.answered fine way).1.symm

/-- Everything that begins by opening a client ends in one failure. -/
structure ComesOut (connector : Connector) (settings : Settings) (world : World)
    (failure : Failure) : Prop where
  health : result (Health.check settings connector) world = .error failure
  connects : ∀ lifecycle : Lifecycle, lifecycle.connected = false →
    lifecycle.connector = connector → lifecycle.settings = settings →
    result Session.connect ⟨lifecycle, world⟩ = .error failure
  runs : ∀ lifecycle : Lifecycle, lifecycle.connected = false →
    lifecycle.connector = connector → lifecycle.settings = settings →
    ∀ repository branch, result (Session.run repository branch) ⟨lifecycle, world⟩ = .error failure

/-- A lifecycle without a client passes on whatever its connector fails with. -/
theorem connect_of_error {lifecycle : Lifecycle} {world final : World} {failure : Failure}
    (absent : lifecycle.connected = false)
    (failed : lifecycle.connector lifecycle.settings world = .error failure final) :
    ∃ ended, Session.connect ⟨lifecycle, world⟩ = .error failure ended ∧
      ended.lifecycle = lifecycle := by
  -- A failure to set up a connection is logged first, and this and every other one is passed on.
  rcases @Session.connect_cases ⟨lifecycle, world⟩ absent with
    ⟨_, opened, _⟩ | ⟨cause, _, ended, refused, broken, _, same⟩
  · rw [failed] at opened
    cases opened
  · rw [failed] at refused
    cases refused
    exact ⟨ended, broken, same⟩

/-- Whatever a connector fails with is what everything that begins by it ends in. -/
theorem comesOut_of_error {connector : Connector} {settings : Settings} {world final : World}
    {failure : Failure} (failed : connector settings world = .error failure final) :
    ComesOut connector settings world failure := by
  refine ⟨result_of_error (bind_of_error failed _), ?_, ?_⟩
  · rintro lifecycle absent rfl rfl
    obtain ⟨ended, broken, _⟩ := connect_of_error absent failed
    exact result_of_error broken
  · -- A run begins by connecting, and goes no further.
    rintro lifecycle absent rfl rfl repository branch
    obtain ⟨ended, broken, _⟩ := connect_of_error absent failed
    exact result_of_error (bind_of_error broken _)

end Connection

end ContainerScan
