import ContainerScan.Proofs.Client.EntryPoint

/-! A daemon at which no client can be opened, for everything that begins by opening one, from a check
and a lifecycle to the commands: all of it ends in the same failure, and the commands tell it. -/

namespace ContainerScan

open Step

namespace CommandLine

/-- What is printed about a failure. -/
def complaint (label : String) (failure : Failure) : Display.Block :=
  .text ("[red]" ++ label ++ "[/red] " ++ failure.text)

section OrComplain

variable {α : Type} {handles : Failure → Bool} {label : String} {act : Step World (Option α)}
  {world ended : World} {failure : Failure}

/-- After a complaint that can be shown there is no value. -/
theorem orComplain_of_handled {lines : List String} (failed : act world = .error failure ended)
    (handled : handles failure = true) (shown : (complaint label failure).lines = .ok lines) :
    orComplain handles label act world =
      .ok none { ended with printed := ended.printed ++ lines } := by
  -- The complaint is all that the handler does before it gives up on a value.
  have printed : complain label failure ended =
      .ok () { ended with printed := ended.printed ++ lines } := by
    change World.print (complaint label failure) ended = _
    simp only [World.print, shown]
  exact (handling_of_error failed _ _).trans ((if_pos handled).trans (bind_of_ok printed _))

/-- A failure that nobody complains about is passed on. -/
theorem orComplain_of_other (failed : act world = .error failure ended)
    (other : handles failure = false) : orComplain handles label act world = .error failure ended :=
  (handling_of_error failed _ _).trans (if_neg (by rw [other]; decide))

/-- A command without a value to go on with ends in exit code one. -/
theorem ends_of_none {next : Option α → Step World ExitCode} (gone : act world = .ok none ended)
    (without : next none = pure 1) : (act >>= next) world = .ok 1 ended := by
  rw [bind_of_ok gone, without]
  rfl

end OrComplain

/-- The label behind which a request tells a failure that stops it, unless it passes that on. -/
def Request.label? (failure : Failure) : Request → Option String
  | .run _ =>
    if failure.isOwn then some "Scan aborted:"
    else if failure.isStorage then some storeLabel else none
  | .health => if failure.isOwn then some "Docker API unhealthy:" else none
  | .listImages | .removeImage _ | .stopContainer _ | .removeContainer _ =>
    if failure.isOwn then some "Error:" else none
  | .showRecord _ | .prepareStore => if failure.isStorage then some storeLabel else none

/-- What is done for a request before a client is opened, if it needs one. -/
def Request.preparation? : Request → Option (Step World Unit)
  | .run scan => some do
    announce scan
    Keeping.prepare
  | .health | .listImages | .removeImage _ | .stopContainer _ | .removeContainer _ =>
    some (pure ())
  | .showRecord _ | .prepareStore => none

/-- What a request makes of a failure that stops it. -/
structure Request.Tells (present : String → Bool) (request : Request) (world : World)
    (failure : Failure) : Prop where
  /-- A failure with a label ends in exit code one, and what is printed last is what it says. -/
  told : ∀ label lines, request.label? failure = some label →
    (complaint label failure).lines = .ok lines →
      ∃ ended earlier, perform present request world = .ok 1 ended ∧
        ended.printed = earlier ++ lines
  /-- A failure without a label is passed on. -/
  passed : request.label? failure = none →
    result (perform present request) world = .error failure

variable {present : String → Bool} {world : World} {failure : Failure}

/-- A request that complains about the library's own failures tells a failure of its activity. -/
theorem Request.tells_of_error {α : Type} {request : Request} {label : String}
    {act : Step World (Option α)} {next : Option α → Step World ExitCode} {ended : World}
    (performed : perform present request = orComplain Failure.isOwn label act >>= next)
    (without : next none = pure 1)
    (labelled : request.label? failure = if failure.isOwn then some label else none)
    (failed : act world = .error failure ended) : request.Tells present world failure := by
  -- Only what is the library's own has a label.
  cases own : failure.isOwn with
  | true =>
    rw [own, if_pos rfl] at labelled
    refine ⟨fun other lines same shown => ?_, fun none => absurd (labelled.symm.trans none) nofun⟩
    cases labelled.symm.trans same
    have told := ends_of_none (orComplain_of_handled failed own shown) without
    exact ⟨_, ended.printed, performed ▸ told, rfl⟩
  | false =>
    rw [own, if_neg (by decide)] at labelled
    refine ⟨fun _ _ same => absurd (labelled.symm.trans same) nofun, fun _ => ?_⟩
    rw [performed]
    exact result_of_error (bind_of_error (orComplain_of_other failed own) next)

/-- A scan that is announced tells a failure of its performance. -/
theorem runScan_tells {scan : ScanRequest} {begun ended : World}
    (announced : announce scan world = .ok () begun)
    (failed : performScan present scan begun = .error failure ended) :
    (Request.run scan).Tells present world failure := by
  let inner := orComplain Failure.isOwn "Scan aborted:" (some <$> performScan present scan)
  obtain ⟨next, performed, without⟩ : ∃ next : Option ScanOutcome → Step World ExitCode,
      perform present (.run scan) world =
        (orComplain Failure.isStorage storeLabel inner >>= next) begun ∧ next none = pure 1 :=
    ⟨_, bind_of_ok announced _, rfl⟩
  have broken : (some <$> performScan present scan) begun = .error failure ended :=
    map_of_error failed some
  -- The library's own failures come before those of the store.
  refine ⟨fun label lines same shown => ?_, fun none => ?_⟩
  · rw [performed]
    cases own : failure.isOwn with
    | true =>
      rw [Request.label?, own, if_pos rfl] at same
      cases same
      have told : inner begun = _ := orComplain_of_handled broken own shown
      exact ⟨_, ended.printed, ends_of_none (handling_of_ok told _ _) without, rfl⟩
    | false =>
      rw [Request.label?, own, if_neg (by decide)] at same
      cases kept : failure.isStorage with
      | true =>
        rw [kept, if_pos rfl] at same
        cases same
        have other : inner begun = _ := orComplain_of_other broken own
        have told := orComplain_of_handled other kept shown
        exact ⟨_, ended.printed, ends_of_none told without, rfl⟩
      | false =>
        rw [kept, if_neg (by decide)] at same
        cases same
  · -- A failure of neither kind has no label, and passes both complaints.
    have neither : failure.isOwn = false ∧ failure.isStorage = false := by
      cases own : failure.isOwn <;> cases kept : failure.isStorage <;>
        simp_all [Request.label?]
    rw [result_of_eq performed]
    have other : inner begun = _ := orComplain_of_other broken neither.1
    exact result_of_error (bind_of_error (orComplain_of_other other neither.2) next)

/-- A request for an activity on the daemon tells what its client cannot be opened for. -/
theorem administer_tells {α : Type} {request : Request} {act : Step Session α}
    {next : Option α → Step World ExitCode} {final : World}
    (performed : perform present request = administer present act >>= next)
    (without : next none = pure 1)
    (labelled : request.label? failure = if failure.isOwn then some "Error:" else none)
    (failed : Connection.secured present world.settings world = .error failure final) :
    request.Tells present world failure := by
  let lifecycle : Lifecycle :=
    .fresh { name := "admin" } "" world.settings (Connection.secured present)
  obtain ⟨ended, broken, _⟩ := @Connection.connect_of_error lifecycle _ _ _ rfl failed
  -- Without a client the activity itself is never begun.
  have stopped : withLifecycle lifecycle (do Session.connect; Step.ensuring act Session.close)
      world = .error failure ended.world := by
    simp only [withLifecycle, bind_of_error broken]
  exact Request.tells_of_error performed without labelled (bind_of_error stopped _)

/-- A scan breaks off where its client cannot be opened. -/
theorem performScan_of_error (scan : ScanRequest) {ready : World}
    (prepared : Keeping.prepare world = .ok () ready)
    (failed : ∀ events, ∃ final, Connection.secured present ready.settings
      { ready with events := events } = .error failure final) :
    ∃ ended, performScan present scan world = .error failure ended := by
  let lifecycle : Lifecycle :=
    .fresh scan.image scan.template ready.settings (Connection.secured present)
  -- The scan says that it starts, and then its lifecycle connects.
  obtain ⟨events, logged⟩ := World.log_apply
    (Scan.logger lifecycle.container.image RetireJs.analyzer scan.target) .info "Scan started" []
    ready
  obtain ⟨final, refused⟩ := failed events
  obtain ⟨ended, broken, same⟩ := @Connection.connect_of_error lifecycle _ _ _ rfl refused
  have started : Session.inWorld (World.log (Scan.logger lifecycle.container.image RetireJs.analyzer
      scan.target) .info "Scan started") ⟨lifecycle, ready⟩ =
        .ok () ⟨lifecycle, { ready with events := events }⟩ := by
    simp only [Session.inWorld, logged]
  -- Without a client there is none to give back.
  have closed : Session.close ended = .ok () ended :=
    Session.close_of_disconnected (by rw [same]; rfl)
  have stopped : Scan.runContainer scan.target ⟨lifecycle, { ready with events := events }⟩ =
      .error failure ended := ensuring_of_error (bind_of_error broken _) closed
  have scanned : withLifecycle lifecycle (Scan.run RetireJs.analyzer scan.target) ready =
      .error failure ended.world := by
    have run : Scan.run RetireJs.analyzer scan.target ⟨lifecycle, ready⟩ = .error failure ended :=
      (bind_of_ok started _).trans (bind_of_error stopped _)
    simp only [withLifecycle, run]
  exact ⟨ended.world, (bind_of_ok prepared _).trans scanned⟩

/-- What every command makes of a failure that opening a client ends in. -/
def CommandsTell (present : String → Bool) (world : World) (failure : Failure) : Prop :=
  -- What comes before a client is opened may fail by itself.
  ∀ request preparation ready, request.preparation? = some preparation →
    preparation world = .ok () ready → Request.Tells present request world failure

/-- Where the daemon refuses a client every command tells what becomes of that. -/
theorem commandsTell_of_refused {fault : DaemonFault} {text : String} {final : World}
    (told : Connection.Told present world.settings fault text world failure final)
    (refused : (world.nextOutcome .connect).result = .error (.daemon fault text)) :
    CommandsTell present world failure := by
  -- Neither printing nor preparing the store changes what the daemon answers.
  have fails (other : World) (same : other.settings = world.settings)
      (script : other.script = world.script) (calls : other.calls = world.calls) :
      ∃ final, Connection.secured present other.settings other = .error failure final := by
    have answer : other.nextOutcome .connect = world.nextOutcome .connect := by
      rw [World.nextOutcome, World.callCount, script, calls]
      rfl
    rw [← answer] at refused
    obtain ⟨cause, ended, failed, told'⟩ :=
      Connection.secured_told present other.settings refused
    rw [same] at told'
    rw [told.failure_eq told']
    exact ⟨ended, failed⟩
  intro request preparation ready needs prepared
  obtain ⟨ended, failed⟩ := fails world rfl rfl rfl
  cases request with
  | run scan =>
    cases needs
    obtain ⟨_, begun, announced, stored⟩ := bind_ok_iff.mp prepared
    have printed := (announce_follows scan).leads world
    rw [after_of_ok announced] at printed
    obtain ⟨requests, events, same⟩ := prepare_ok stored
    have settings : ready.settings = world.settings := by rw [same, printed]
    have script : ready.script = world.script := by rw [same, printed]
    have calls : ready.calls = world.calls := by rw [same, printed]
    obtain ⟨stopped, broken⟩ := performScan_of_error scan stored fun events =>
      fails { ready with events := events } settings script calls
    exact runScan_tells announced broken
  -- The other commands ask for the client first, and find the world as it was.
  | health =>
    exact Request.tells_of_error rfl rfl rfl (bind_of_error (bind_of_error failed _) _)
  | listImages => exact administer_tells rfl rfl rfl failed
  | removeImage id => exact administer_tells rfl rfl rfl failed
  | stopContainer cid => exact administer_tells rfl rfl rfl failed
  | removeContainer cid => exact administer_tells rfl rfl rfl failed
  | showRecord cid => cases needs
  | prepareStore => cases needs

end CommandLine

namespace Connection

/-- A daemon that refuses a client makes everything that begins by opening one fail, from a check to the
commands: with a failure of the library's own if the certificates cannot be used or the fault does not
lie on the way to the daemon, and otherwise with that fault as it is. -/
theorem secured_comesOut (present : String → Bool) (settings : Settings) {world : World}
    {fault : DaemonFault} {text : String}
    (refused : (world.nextOutcome .connect).result = .error (.daemon fault text)) :
    ∃ failure final, secured present settings world = .error failure final ∧
      Told present settings fault text world failure final ∧
      ComesOut (secured present) settings world failure ∧
      (world.settings = settings → CommandLine.CommandsTell present world failure) ∧
      (failure.isOwn = true ↔
        ¬((options settings present).isOk ∧ fault.isTransport = true)) := by
  obtain ⟨failure, final, failed, told⟩ := secured_told present settings refused
  refine ⟨failure, final, failed, told, comesOut_of_error failed, ?_, ?_⟩
  · rintro rfl
    exact CommandLine.commandsTell_of_refused told refused
  -- Whether a failure is the library's own follows from what it was told as.
  cases usable : options settings present with
  | error message =>
    obtain ⟨rfl, _⟩ := told.certificates message usable
    exact iff_of_true rfl fun both => absurd both.1 nofun
  | ok found =>
    have fine : (options settings present).isOk := by
      rw [usable]
      rfl
    cases way : fault.isTransport with
    -- A failure of the transport is not the library's own, and only that is passed on raw.
    | true =>
      obtain ⟨rfl, _⟩ := told.unreached fine way
      exact iff_of_false nofun fun neither => neither ⟨rfl, rfl⟩
    | false =>
      obtain ⟨rfl, _⟩ := told.answered fine way
      exact iff_of_true rfl fun both => absurd both.2 nofun

/-- A daemon at which no client can be opened. -/
def refusing (fault : DaemonFault) (text : String) : Script
  | .connect, _ => some ⟨0, .error (.daemon fault text)⟩
  | _, _ => none

/-- Settings without certificates, for a daemon that nobody verifies. -/
def unverified : Settings :=
  { Settings.standard with host := "h", verifiesTls := false }

/-- A version that the daemon does not have is told as a connection that cannot be set up. -/
theorem secured_comesOut_invalidVersion :
    let world : World := { settings := unverified, script := refusing .invalidVersion "bad" }
    ∃ final, secured (fun _ => false) unverified world =
        .error (.connectionSetup "cannot connect to tcp://h:2376: bad") final ∧
      final.events.length = 1 := by
  -- Without certificates to check the daemon is asked, and its answer is no fault of the way.
  intro world
  obtain ⟨failure, final, failed, told, -⟩ := @secured_comesOut (fun _ => false) unverified world
    .invalidVersion "bad" rfl
  obtain ⟨rfl, events⟩ := told.answered rfl rfl
  exact ⟨final, failed, by rw [events]; rfl⟩

/-- A connection that is refused on the way is passed on as it is, and nothing tells of it. -/
theorem secured_passes_transport :
    let world : World := { settings := unverified, script := refusing .connection "refused" }
    (world.nextOutcome .connect).result = .error (.daemon .connection "refused") ∧
      result (secured (fun _ => false) unverified) world =
        .error (.daemon .connection "refused") ∧
      (∀ reason, result (secured (fun _ => false) unverified) world ≠
        .error (.connectionSetup reason)) ∧
      (after (secured (fun _ => false) unverified) world).events = [] :=
  ⟨rfl, rfl, nofun, rfl⟩

end Connection

end ContainerScan
