import ContainerScan.Proofs.Alongside.Scan
import ContainerScan.Proofs.Lifecycle.Operations
import Mathlib.Data.List.Forall2

/-! The private key reaches the command of a container and nothing else: what two scans with
different keys do and keep is the same. -/

namespace ContainerScan

/-- Calls at one time that ask the same, but perhaps for containers with different commands. -/
structure Call.SameButCommand (first second : Call) : Prop where
  time : second.time = first.time
  query : second.query = first.query ∨ ∃ reference one two,
    first.query = .creation reference one ∧ second.query = .creation reference two

/-- Calls that ask the same but for a command are calls of one method. -/
theorem Call.SameButCommand.method {first second : Call} (same : first.SameButCommand second) :
    second.method = first.method := by
  rcases same.query with query | ⟨reference, one, two, left, right⟩
  · exact congrArg Query.method query
  · exact (congrArg Query.method right).trans (congrArg Query.method left).symm

namespace World

/-- Two worlds that have each some private key, and otherwise differ at most in their events and in
the commands with which containers were asked for. -/
structure Twins (left right : World) : Prop where
  settings : left.settings.SameButKey right.settings
  keys : left.settings.sshKey ≠ "" ∧ right.settings.sshKey ≠ ""
  script : right.script = left.script
  clock : right.clock = left.clock
  calls : List.Forall₂ Call.SameButCommand left.calls right.calls
  updates : right.updates = left.updates
  store : right.store = left.store
  outages : right.outages = left.outages
  requests : right.requests = left.requests
  printed : right.printed = left.printed

variable {left right : World}

/-- Twins have had as many calls of each method. -/
theorem Twins.callCount (twins : Twins left right) (method : Method) :
    right.callCount method = left.callCount method := by
  -- Calls that ask the same but for a command are counted for the same method.
  have counted {first second : List Call} (same : List.Forall₂ Call.SameButCommand first second) :
      (second.countP fun call => call.method = method) =
        first.countP fun call => call.method = method := by
    induction same with
    | nil => rfl
    | cons head _ ih => rw [List.countP_cons, List.countP_cons, ih, head.method]
  exact counted twins.calls

/-- The daemon will answer twins alike. -/
theorem Twins.nextOutcome (twins : Twins left right) (method : Method) :
    right.nextOutcome method = left.nextOutcome method := by
  rw [World.nextOutcome, World.nextOutcome, twins.script, twins.callCount]

/-- Twins remain twins after calls that ask the same but for a command. -/
theorem Twins.afterCall (twins : Twins left right) {method other : Method}
    {positional otherPositional : List Json} {named otherNamed : List (String × Json)}
    (same : Call.SameButCommand ⟨left.clock.time, method, positional, named⟩
      ⟨left.clock.time, other, otherPositional, otherNamed⟩) (seconds : Rat) :
    Twins (left.afterCall method positional named seconds)
      (right.afterCall other otherPositional otherNamed seconds) := by
  -- The clocks agree, so both calls are made at the same time.
  unfold World.afterCall
  rw [twins.clock]
  exact { twins with
    clock := rfl
    calls := List.rel_append twins.calls (.cons same .nil) }

open Step

/-- Twins remain twins over a call that asks the same but for a command, and get the same reply. -/
theorem Twins.call_ends (twins : Twins left right) {method : Method}
    {positional otherPositional : List Json} {named otherNamed : List (String × Json)}
    (same : Call.SameButCommand ⟨left.clock.time, method, positional, named⟩
      ⟨left.clock.time, method, otherPositional, otherNamed⟩) :
    Ends Twins Eq (call method positional named left)
      (call method otherPositional otherNamed right) := by
  -- The daemon answers by the number of the call, and that is the same for both.
  unfold call
  rw [twins.nextOutcome]
  dsimp only
  cases (left.nextOutcome method).result with
  | ok reply => exact .ok rfl (twins.afterCall same _)
  | error failure => exact .error failure (twins.afterCall same _)

/-- Calls that ask the same go together for twins. -/
theorem call_twins (method : Method) (positional : List Json) (named : List (String × Json)) :
    Alongside Twins Eq (call method positional named) (call method positional named) :=
  ⟨fun _ _ twins => twins.call_ends ⟨rfl, Or.inl rfl⟩⟩

/-- A call that may be given up goes together with itself for twins. -/
theorem callWithin_twins (limit : Rat) (method : Method) (positional : List Json)
    (named : List (String × Json)) :
    Alongside Twins Eq (callWithin limit method positional named)
      (callWithin limit method positional named) := by
  -- What the daemon answers, and when, does not depend on the key.
  refine ⟨fun left right twins => ?_⟩
  have asked (seconds : Rat) := @Twins.afterCall left right twins method method positional
    positional named named ⟨rfl, Or.inl rfl⟩ seconds
  unfold callWithin
  rw [twins.nextOutcome, twins.clock]
  dsimp only
  split
  · cases (left.nextOutcome method).result with
    | ok reply => exact .ok rfl (asked _)
    | error failure => exact .error failure (asked _)
  · exact .ok rfl (asked limit)

/-- An event changes nothing in which twins are the same. -/
theorem log_twins (logger : Logger) (level : Level) (message : String) (fields : Event) :
    Alongside Twins Eq (log logger level message fields) (log logger level message fields) := by
  -- Whether an event is written depends on the level, and that is not the key.
  refine ⟨fun left right twins => ?_⟩
  obtain ⟨key, settings⟩ := twins.settings
  have levels : right.settings.logLevel = left.settings.logLevel := by rw [settings]
  unfold log
  rw [levels]
  split
  · exact .ok rfl twins
  · exact .ok rfl { twins with }

/-- A request to the store ends alike for twins. -/
theorem changeStore_twins {α : Type} (change : Store → Except Failure (Store × α)) :
    Alongside Twins Eq (Keeping.changeStore change) (Keeping.changeStore change) := by
  refine ⟨fun left right twins => ?_⟩
  have asked (store : Store) : Twins { left with requests := left.requests + 1, store := store }
      { right with requests := left.requests + 1, outages := left.outages, store := store } :=
    { twins with requests := rfl, outages := rfl, store := rfl }
  -- Both have the same table, and the same request to it fails or does not.
  unfold Keeping.changeStore
  rw [twins.requests, twins.outages, twins.store]
  dsimp only
  cases left.outages left.requests with
  | some failure => exact .error failure (asked left.store)
  | none =>
    cases change left.store with
    | ok changed => exact .ok rfl (asked changed.1)
    | error failure => exact .error failure (asked left.store)

/-- A client is opened alike for twins. -/
theorem openClient_twins : Alongside Twins Eq openClient openClient := by
  -- The scripts are the same, and so is the number of calls before.
  refine ⟨fun left right twins => ?_⟩
  unfold openClient
  rw [twins.script, twins.callCount]
  cases left.script .connect (left.callCount .connect) with
  | none => exact .ok rfl twins
  | some outcome => exact (call_twins .connect [] []).discard.ends left right twins

/-- A template resolves for twins to commands of which none is empty, or both are. -/
theorem resolve_twins (repository branch template : String) :
    Alongside Twins (fun first second => first = "" ↔ second = "")
      (Command.resolveLogged repository branch template none)
      (Command.resolveLogged repository branch template none) := by
  refine ⟨fun left right twins => ?_⟩
  -- The commands may differ, but a key that is not empty makes no command empty.
  obtain ⟨_, one⟩ := Command.resolveLogged_apply repository branch template none left
  obtain ⟨_, two⟩ := Command.resolveLogged_apply repository branch template none right
  rw [one, two]
  refine .ok ?_ { twins with }
  exact (Command.resolve_eq_empty_iff twins.keys.1).trans
    (Command.resolve_eq_empty_iff twins.keys.2).symm

/-- Twins stay twins, whatever is done in both of them. -/
def twinBond : Bond where
  together := Twins
  settings := Settings.SameButKey
  -- Commands may differ by the key that is in them, but both have something to do or neither has.
  commands first second := first = "" ↔ second = ""
  process twins := twins.settings
  sameButKey same := same
  clock twins := twins.clock.symm
  -- Twins may differ in their events, so that nothing is to be shown of what is logged.
  log := log_twins
  call := call_twins
  callWithin := callWithin_twins
  sleep seconds := ⟨fun _ _ twins => .ok rfl
    { twins with clock := congrArg (Clock.after · seconds) twins.clock }⟩
  openClient := openClient_twins
  closeClient := ⟨fun _ _ twins => .ok rfl (twins.afterCall ⟨rfl, Or.inl rfl⟩ 0)⟩
  noteUpdate cid fields := ⟨fun _ _ twins => .ok rfl
    { twins with updates := congrArg (· ++ [(cid, fields)]) twins.updates }⟩
  changeStore := changeStore_twins
  print block := by
    refine ⟨fun left right twins => ?_⟩
    unfold print
    cases block.lines with
    | ok lines => exact .ok rfl { twins with printed := congrArg (· ++ lines) twins.printed }
    | error failure => exact .error failure twins
  printPlain content := ⟨fun _ _ twins => .ok rfl { twins with
    printed := congrArg (· ++ Display.printedLines content.toList) twins.printed }⟩
  resolve := resolve_twins
  given same := same
  -- The one call that takes a command is where the twins may differ.
  creation reference first second _ := ⟨fun _ _ twins =>
    twins.call_ends ⟨rfl, Or.inr ⟨reference, first, second, rfl, rfl⟩⟩⟩

end World

/-- A connector that connects alike whatever the private key is. -/
def Connector.BlindToKey (connector : Connector) : Prop :=
  World.twinBond.Connects connector

namespace Connection

/-- The direct connector does not look at the private key. -/
theorem direct_blindToKey : Connector.BlindToKey direct :=
  World.twinBond.connects_direct

/-- The connector with certificates does not look at the private key. -/
theorem secured_blindToKey (present : String → Bool) : Connector.BlindToKey (secured present) :=
  World.twinBond.connects_secured present

end Connection

namespace Scan

open Step

/-- What is left behind alike: the table, the updates asked of it and the calls to the daemon, but
for the command with which a container was asked for, and which its record in memory has. -/
structure LeftAlike (left right : Session) : Prop where
  store : right.world.store = left.world.store
  updates : right.world.updates = left.world.updates
  calls : List.Forall₂ Call.SameButCommand left.world.calls right.world.calls
  container : left.lifecycle.container.SameButCommand right.lifecycle.container

/-- Two scans that differ in nothing but their private keys end with the same verdict or the same
failure, and leave everything behind alike. -/
theorem run_blindToKey (analyzer : Analyzer) (target : Target) (lifecycle : Lifecycle)
    {settings : Settings} (same : lifecycle.settings.SameButKey settings)
    (connects : lifecycle.connector.BlindToKey) (world : World) {key : String}
    (one : world.settings.sshKey ≠ "") (other : key ≠ "") :
    Ends LeftAlike ScanOutcome.SameButCommand
      (run analyzer target ⟨lifecycle, world⟩)
      (run analyzer target ⟨{ lifecycle with settings := settings },
        { world with settings := { world.settings with sshKey := key } }⟩) := by
  -- The worlds are twins to begin with, and a scan keeps them so.
  have twins : World.Twins world
      { world with settings := { world.settings with sshKey := key } } :=
    { settings := ⟨key, rfl⟩, keys := ⟨one, other⟩, script := rfl, clock := rfl,
      calls := List.forall₂_same.mpr fun call _ => ⟨rfl, Or.inl rfl⟩, updates := rfl, store := rfl,
      outages := rfl, requests := rfl, printed := rfl }
  have sessions : World.twinBond.Sessions ⟨lifecycle, world⟩
      ⟨{ lifecycle with settings := settings },
        { world with settings := { world.settings with sshKey := key } }⟩ :=
    ⟨twins, same, rfl, rfl, .refl _, rfl, rfl, connects⟩
  refine ((World.twinBond.scan analyzer target).ends _ _ sessions).mono fun left right states => ?_
  exact ⟨states.world.store, states.world.updates, states.world.calls, states.container⟩

/-- Two keys make two commands, which is all that can be seen of them. -/
theorem run_blindToKey_usual :
    let settings : Settings := { Settings.standard with sshKey := "first" }
    let lifecycle : Lifecycle := .fresh { name := "retirejs" }
      "clone.sh GIT_PRIVATE_SSH_KEY %GIT_REPO% %GIT_BRANCH%" settings
      (Connection.secured fun _ => true)
    Ends LeftAlike ScanOutcome.SameButCommand
      (run RetireJs.analyzer ⟨"repository", "main"⟩ ⟨lifecycle, { settings := settings }⟩)
      (run RetireJs.analyzer ⟨"repository", "main"⟩
        ⟨{ lifecycle with settings := { settings with sshKey := "second" } },
          { settings := { settings with sshKey := "second" } }⟩) := by
  intro settings lifecycle
  exact run_blindToKey _ _ lifecycle ⟨"second", rfl⟩ (Connection.secured_blindToKey _)
    { settings := settings } (by decide) (by decide)

end Scan

end ContainerScan
