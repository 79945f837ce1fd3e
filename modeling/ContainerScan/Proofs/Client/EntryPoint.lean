import ContainerScan.Proofs.Client.Lease
import ContainerScan.Proofs.CommandLine.Run

/-! Everything that opens a client by itself, from a scan to the commands: however it goes, the
client is given back exactly once, and nothing is asked behind that. -/

namespace ContainerScan

open Step

/-- Printing asks nothing. -/
theorem World.silent_of_onlyPrints {α : Type} {act : Step World α}
    (prints : Follows OnlyPrints act) : Follows Silent act := by
  -- The worlds differ in what was printed, and calls are not among that.
  refine ⟨fun world => ?_⟩
  have same : after act world = { world with printed := (after act world).printed } :=
    prints.leads world
  rw [Silent, same]

/-- A plain text is printed without asking. -/
theorem World.printPlain_silent (content : String) : Follows Silent (printPlain content) :=
  ⟨fun _ => rfl⟩

/-- Preparing the store asks nothing of the daemon. -/
theorem Keeping.prepare_silent : Follows World.Silent prepare :=
  (changeStore_silent _).bind fun _ => World.log_silent ..

/-- What asks nothing of the surroundings asks nothing of a session. -/
theorem Session.inWorld_quiet {α : Type} {act : Step World α} (silent : Follows World.Silent act) :
    Follows (fun before after => calls after = calls before) (inWorld act) := by
  refine ⟨fun session => ?_⟩
  rw [after_inWorld]
  exact silent.leads session.world

namespace Scan

/-- The part of a scan with which it gets its client. -/
def opening (analyzer : Analyzer) (target : Target) : Step Session Unit := do
  let lifecycle := (← get).lifecycle
  Session.inWorld
    (World.log (logger lifecycle.container.image analyzer target) .info "Scan started")
  Session.connect

/-- A scan releases its client before there is anything to judge. -/
theorem run_releases (analyzer : Analyzer) (target : Target) {session : Session}
    (connecting : session.lifecycle.connector.OnlyConnects) :
    Releases Session.calls (opening analyzer target) (run analyzer target) session := by
  have looked : Session.calls (after get session) = Session.calls session := rfl
  refine Releases.behind looked fun _ _ same => ?_
  cases same
  refine Releases.behind ((Session.inWorld_quiet (World.log_silent ..)).leads session)
    fun _ middle logged => ?_
  -- The beginning is logged by the same lifecycle that then connects.
  have still : middle.lifecycle = session.lifecycle := by
    rw [← after_of_ok logged, Session.after_inWorld]
  exact (Session.runContainer_releases target (still ▸ connecting)).before
    fun container => Session.inWorld_quiet (judge_silent ..)

end Scan

namespace Health

/-- A sign of life is all that is asked for. -/
theorem ping_follows : Follows (World.Asks [.ping]) ping :=
  (World.asOperation_follows (World.call_follows (List.mem_singleton.mpr rfl) ..) ..).discard

/-- A check releases its client, whether or not the daemon answers. -/
theorem check_releases (settings : Settings) {connector : Connector}
    (connecting : connector.OnlyConnects) (world : World) :
    Releases World.calls (connector settings) (check settings connector) world := by
  obtain ⟨sought, grown, within⟩ := ((connecting settings).leads world).made
  have connects : ∀ call ∈ sought, call.method = .connect :=
    fun call member => List.mem_singleton.mp (within call member)
  cases opened : connector settings world with
  -- Without a client there is nothing to give back.
  | error failure final =>
    rw [after_of_error opened] at grown
    have failed : check settings connector world = _ := bind_of_error opened _
    rw [Releases, after_of_error failed, clientsOf_error opened]
    exact ⟨sought, grown, .none connects⟩
  | ok nothing ready =>
    rw [after_of_ok opened] at grown
    -- Whatever becomes of the sign of life, the client is given back behind it.
    have onward : check settings connector world = ensuring ping World.closeClient ready :=
      bind_of_ok opened _
    obtain ⟨used, further, asking⟩ := (ping_follows.leads ready).made
    have needs : ∀ call ∈ used, call.method.needsClient = true :=
      fun call member => by rw [List.mem_singleton.mp (asking call member)]; rfl
    let closing : Call := ⟨(after ping ready).clock.time, .close, [], []⟩
    have closed : (after World.closeClient (after ping ready)).calls =
        (after ping ready).calls ++ [closing] := rfl
    rw [Releases, after_of_eq onward, after_ensuring, clientsOf_ok opened, closed, further, grown]
    exact ⟨sought ++ used ++ [closing], by simp only [List.append_assoc],
      .one connects needs rfl⟩

end Health

namespace CommandLine

/-- What an activity of a lifecycle leaves behind is what it leaves of the surroundings. -/
theorem after_withLifecycle {α : Type} (lifecycle : Lifecycle) (act : Step Session α)
    (world : World) :
    after (withLifecycle lifecycle act) world = (after act ⟨lifecycle, world⟩).world := by
  cases ended : act ⟨lifecycle, world⟩ <;> simp only [after, withLifecycle, ended]

/-- What comes of an activity of a lifecycle comes of it for its surroundings. -/
theorem result_withLifecycle {α : Type} (lifecycle : Lifecycle) (act : Step Session α)
    (world : World) :
    result (withLifecycle lifecycle act) world = result act ⟨lifecycle, world⟩ := by
  cases ended : act ⟨lifecycle, world⟩ <;> simp only [result, withLifecycle, ended]

/-- A client that a lifecycle releases is released for its surroundings. -/
theorem withLifecycle_releases {α : Type} {lifecycle : Lifecycle} {opening : Step Session Unit}
    {act : Step Session α} {world : World}
    (releases : Releases Session.calls opening act ⟨lifecycle, world⟩) :
    Releases World.calls (withLifecycle lifecycle opening) (withLifecycle lifecycle act) world := by
  -- Calls and results are those of the session, seen from outside.
  obtain ⟨made, grown, leased⟩ := releases
  refine ⟨made, ?_, ?_⟩
  · rw [after_withLifecycle]
    exact grown
  · rwa [clientsOf, result_withLifecycle]

/-- The lifecycle of a command is fresh, and connects as it should. -/
theorem lifecycleOf_connects {present : String → Bool} {image : Image} {template : String}
    {world middle : World} {lifecycle : Lifecycle}
    (made : lifecycleOf present image template world = .ok lifecycle middle) :
    lifecycle.connector.OnlyConnects := by
  cases made
  exact Connection.secured_onlyConnects present

/-- A complaint asks nothing. -/
theorem complain_silent (label : String) (failure : Failure) :
    Follows World.Silent (complain label failure) :=
  World.silent_of_onlyPrints (World.print_follows _)

/-- A client is released whether or not there is something to complain about. -/
theorem orComplain_releases {α : Type} {opening : Step World Unit} {act : Step World (Option α)}
    {world : World} (handles : Failure → Bool) (label : String)
    (releases : Releases World.calls opening act world) :
    Releases World.calls opening (orComplain handles label act) world :=
  releases.handling handles fun failure =>
    (complain_silent label failure).bind fun _ => follows_pure none

/-- A result is shown without asking. -/
theorem showing_silent {α : Type} (value : Option α) (blocks : α → List Display.Block) :
    Follows World.Silent (showing value blocks) := by
  -- Blocks are printed, which asks nothing, or nothing is done.
  cases value with
  | none => exact follows_pure _
  | some value =>
    exact (World.silent_of_onlyPrints (World.printAll_follows _)).bind fun _ => follows_pure _

/-- The part of a scan's performance with which it gets its client. -/
def scanOpening (present : String → Bool) (scan : ScanRequest) : Step World Unit := do
  Keeping.prepare
  let lifecycle ← lifecycleOf present scan.image scan.template
  withLifecycle lifecycle (Scan.opening RetireJs.analyzer scan.target)

/-- The part of an activity on the daemon with which it gets its client. -/
def adminOpening (present : String → Bool) : Step World Unit := do
  let lifecycle ← lifecycleOf present { name := "admin" } ""
  withLifecycle lifecycle Session.connect

/-- A scan that is performed releases its client. -/
theorem performScan_releases (present : String → Bool) (scan : ScanRequest) (world : World) :
    Releases World.calls (scanOpening present scan) (performScan present scan) world :=
  .behind (Keeping.prepare_silent.leads world) fun _ _ _ =>
    .behind rfl fun _ _ made =>
      withLifecycle_releases (Scan.run_releases _ _ (lifecycleOf_connects made))

/-- An activity on the daemon releases the client over which it is done. -/
theorem administer_releases {α : Type} (present : String → Bool) {act : Step Session α}
    (uses : Follows Session.Uses act) (world : World) :
    Releases World.calls (adminOpening present) (administer present act) world :=
  orComplain_releases _ _ (.behind rfl fun _ _ made =>
    (withLifecycle_releases (Session.connect_ensuring_releases (lifecycleOf_connects made)
      uses)).before fun _ => follows_pure _)

/-- The part of a scan on the command line with which it gets its client. -/
def runOpening (present : String → Bool) (scan : ScanRequest) : Step World Unit := do
  announce scan
  scanOpening present scan

/-- A scan on the command line releases its client. -/
theorem runScan_releases (present : String → Bool) (scan : ScanRequest) (world : World) :
    Releases World.calls (runOpening present scan) (runScan present scan) world := by
  refine .behind ((World.silent_of_onlyPrints (announce_follows scan)).leads world)
    fun _ begun _ => ?_
  have performed : Releases World.calls (scanOpening present scan)
      (some <$> performScan present scan) begun :=
    (performScan_releases present scan begun).before fun _ => follows_pure _
  -- Two kinds of failures are complained about, and what is left is shown.
  refine (orComplain_releases _ _ (orComplain_releases _ _ performed)).before fun outcome => ?_
  cases outcome with
  | none => exact follows_pure _
  | some outcome =>
    exact (World.silent_of_onlyPrints (World.printAll_follows _)).bind fun _ => follows_pure _

/-- A check on the command line releases its client. -/
theorem checkHealth_releases (present : String → Bool) (world : World) :
    Releases World.calls (do Connection.secured present (← get).settings) (checkHealth present)
      world := by
  -- Complaints and the last line come behind the check, which releases the client itself.
  have looked : (after get world).calls = world.calls := rfl
  refine (orComplain_releases _ _ (.behind looked fun _ _ same => ?_)).before
    fun answered => showing_silent answered _
  cases same
  exact (Health.check_releases world.settings (Connection.secured_onlyConnects present)
    world).before fun _ => follows_pure _

/-- A list of images on the command line releases its client. -/
theorem listImages_releases (present : String → Bool) (world : World) :
    Releases World.calls (adminOpening present) (listImages present) world := by
  refine (administer_releases present Session.listImages_uses world).before fun listed => ?_
  cases listed with
  | none => exact follows_pure _
  | some reply =>
    -- What was listed is shown, or it cannot be shown.
    change Follows World.Silent _
    refine Follows.bind ?_ fun rows =>
      (World.silent_of_onlyPrints (World.print_follows _)).bind fun _ => follows_pure _
    cases Display.imageRows reply with
    | ok rows => exact follows_pure rows
    | error failure => exact follows_throw failure

/-- The part of a command with which it gets a client, if it is one that needs a client. -/
def Request.opening? (present : String → Bool) : Request → Option (Step World Unit)
  | .run scan => some (runOpening present scan)
  | .health => some do Connection.secured present (← get).settings
  | .listImages | .removeImage _ | .stopContainer _ | .removeContainer _ =>
    some (adminOpening present)
  | .showRecord _ | .prepareStore => none

/-- The part of a command line with which it gets a client, if it asks for something that needs
one. -/
def opening? (present : String → Bool) (arguments : List String) : Option (Step World Unit) :=
  match Meaning.ofArguments arguments with
  | .request request => request.opening? present
  | .help | .version | .misuse _ => none

/-- The record of a container is shown without asking. -/
theorem showRecord_silent (cid : String) : Follows World.Silent (showRecord cid) := by
  -- The record is read from the store, and then something is printed or nothing.
  refine Follows.bind (Follows.handling ((Keeping.changeStore_silent _).map _) _ fun failure =>
    (complain_silent _ failure).bind fun _ => follows_pure none) fun found => ?_
  match found with
  | none => exact follows_pure _
  | some none =>
    exact (World.silent_of_onlyPrints (World.print_follows _)).bind fun _ => follows_pure _
  | some (some record) =>
    exact (World.silent_of_onlyPrints (World.printAll_follows _)).bind fun _ => follows_pure _

/-- The store is prepared on the command line without asking. -/
theorem prepareStore_silent : Follows World.Silent prepareStore :=
  (Follows.handling (Keeping.prepare_silent.map _) _ fun failure =>
    (complain_silent _ failure).bind fun _ => follows_pure none).bind fun prepared =>
      showing_silent prepared _

/-- A command releases the client that it gets, if it needs one. -/
theorem perform_leased (present : String → Bool) (request : Request) (world : World) :
    ∃ made, (after (perform present request) world).calls = world.calls ++ made ∧
      Leased (clientsOf? (request.opening? present) world) made := by
  -- Two commands need no client, and each of the others has released its own.
  cases request with
  | run scan => exact (runScan_releases present scan world).leased
  | health => exact (checkHealth_releases present world).leased
  | listImages => exact (listImages_releases present world).leased
  | removeImage id =>
    exact ((administer_releases present (Session.removeImage_uses id) world).before
      fun removed => showing_silent removed _).leased
  | stopContainer cid =>
    exact ((administer_releases present (Session.stop_uses (.string cid)) world).before
      fun stopped => showing_silent stopped _).leased
  | removeContainer cid =>
    exact ((administer_releases present (Session.remove_uses (.string cid) true) world).before
      fun removed => showing_silent removed _).leased
  | showRecord cid => exact leased_of_quiet ((showRecord_silent cid).leads world)
  | prepareStore => exact leased_of_quiet (prepareStore_silent.leads world)

/-- A command line releases the client that it gets, if it asks for something that needs one. -/
theorem run_leased (present : String → Bool) (arguments : List String) (world : World) :
    ∃ made, (after (run present arguments) world).calls = world.calls ++ made ∧
      Leased (clientsOf? (opening? present arguments) world) made := by
  -- Only a request may need a client; all other meanings are printed.
  unfold opening? run
  cases Meaning.ofArguments arguments with
  | request request => exact perform_leased present request world
  | help | version | misuse =>
    exact leased_of_quiet (((World.printPlain_silent _).bind fun _ => follows_pure _).leads world)

end CommandLine

/-- Something that may open a client for the daemon by itself. -/
inductive EntryPoint where
  | scan (lifecycle : Lifecycle) (analyzer : Analyzer) (target : Target)
  | health (settings : Settings) (connector : Connector)
  | commandLine (present : String → Bool) (arguments : List String)

namespace EntryPoint

/-- What is done, where the value that comes of it does not matter. -/
def act : EntryPoint → Step World Unit
  | scan lifecycle analyzer target =>
    discard (CommandLine.withLifecycle lifecycle (Scan.run analyzer target))
  | health settings connector => Health.check settings connector
  | commandLine present arguments => discard (CommandLine.run present arguments)

/-- The part with which it gets a client, if it needs one. -/
def opening? : EntryPoint → Option (Step World Unit)
  | scan lifecycle analyzer target =>
    some (CommandLine.withLifecycle lifecycle (Scan.opening analyzer target))
  | health settings connector => some (connector settings)
  | commandLine present arguments => CommandLine.opening? present arguments

/-- How many clients it gets: one if it needs one and the part up to there succeeds, which it does
at once where a lifecycle brings its client along. -/
def clients (entry : EntryPoint) (world : World) : Nat :=
  clientsOf? entry.opening? world

/-- The connector that is given, if there is one, does nothing but connect. -/
def OnlyConnects : EntryPoint → Prop
  | scan lifecycle _ _ => lifecycle.connector.OnlyConnects
  | health _ connector => connector.OnlyConnects
  | commandLine _ _ => True

/-- Without its value an activity releases the same client. -/
theorem releases_discard {α : Type} {opening : Step World Unit} {act : Step World α} {world : World}
    (releases : Releases World.calls opening act world) :
    Releases World.calls opening (discard act : Step World Unit) world :=
  releases.of_calls (by rw [after_discard])

/-- However it goes, and whatever the daemon answers, clients are given back as often as there is
one: once, or not at all where none could be opened. Before that the daemon is asked over the
client, and afterwards nothing. -/
theorem act_releases (entry : EntryPoint) (connecting : entry.OnlyConnects) (world : World) :
    ∃ made, (after entry.act world).calls = world.calls ++ made ∧
      made.countP (fun call => call.method = .close) = entry.clients world ∧
      (∀ earlier call later, made = earlier ++ call :: later → call.method = .close → later = []) ∧
      Leased (entry.clients world) made := by
  have leased : ∃ made, (after entry.act world).calls = world.calls ++ made ∧
      Leased (entry.clients world) made := by
    cases entry with
    | scan lifecycle analyzer target =>
      exact (releases_discard (CommandLine.withLifecycle_releases
        (Scan.run_releases analyzer target connecting))).leased
    | health settings connector => exact (Health.check_releases settings connecting world).leased
    | commandLine present arguments =>
      rw [act, after_discard]
      exact CommandLine.run_leased present arguments world
  -- How often and when clients are given back can be read off the shape of the calls.
  obtain ⟨made, grown, leased⟩ := leased
  exact ⟨made, grown, leased.countP_close, fun _ _ _ => leased.nothing_after_close, leased⟩

/-- A scan that breaks off while it cleans up has given its client back all the same. -/
theorem act_releases_broken :
    let fresh :=
      Lifecycle.fresh { name := "retirejs" } "scan %GIT_REPO%" .standard Connection.direct
    let entry := scan fresh RetireJs.analyzer ⟨"repository", "main"⟩
    let script : Script := fun
      | .logs, _ | .removeContainer, _ => some ⟨0, .error (.runtime "broken")⟩
      | _, _ => none
    let world : World := { settings := .standard, script := script }
    result entry.act world = .error (.runtime "broken") ∧
      ∃ made, (after entry.act world).calls = made ∧
        made.countP (fun call => call.method = .close) = 1 ∧ Leased 1 made := by
  intro fresh entry script world
  -- Both the reading of the output and the removal break, at a time when a client is open.
  have one : entry.clients world = 1 := by decide +kernel
  obtain ⟨made, grown, closes, -, leased⟩ :=
    act_releases entry Connection.direct_onlyConnects world
  rw [one] at closes leased
  exact ⟨by decide +kernel, made, grown, closes, leased⟩

end EntryPoint

end ContainerScan
