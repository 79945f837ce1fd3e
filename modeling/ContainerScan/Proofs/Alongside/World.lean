import ContainerScan.Analyzer.Basic
import ContainerScan.Command
import ContainerScan.Display.Screen
import ContainerScan.Health
import ContainerScan.Proofs.Alongside
import ContainerScan.Record.Keeping

/-! Worlds that stay together: whatever goes together for the clock, the log, the daemon and the
store does so for every activity that is made of these. -/

namespace ContainerScan

open Step

/-- The second settings are the first ones, with another private key perhaps. -/
def Settings.SameButKey (first second : Settings) : Prop :=
  ∃ key, second = { first with sshKey := key }

/-- The second container is the first one, with another command perhaps. -/
def Container.SameButCommand (first second : Container) : Prop :=
  ∃ command, second = { first with command := command }

/-- Settings are the same as themselves. -/
theorem Settings.SameButKey.refl (settings : Settings) : settings.SameButKey settings :=
  ⟨settings.sshKey, rfl⟩

/-- Settings that are equal are the same but for the key. -/
theorem Settings.sameButKey_of_eq {first second : Settings} (same : first = second) :
    first.SameButKey second :=
  same ▸ .refl first

/-- A container is the same as itself. -/
theorem Container.SameButCommand.refl (container : Container) :
    container.SameButCommand container :=
  ⟨container.command, rfl⟩

namespace World

/-- Of equal commands none is empty, or both are. -/
theorem given_of_eq {first second : String} (same : first = second) :
    first = "" ↔ second = "" := by
  rw [same]

/-- A way in which two worlds can be together that nothing of what activities are made of ends, but
for removals perhaps. Beside the worlds there are settings and commands that go together in them. -/
structure Link where
  together : World → World → Prop
  settings : Settings → Settings → Prop
  commands : String → String → Prop
  process : ∀ {left right}, together left right → settings left.settings right.settings
  sameButKey : ∀ {first second}, settings first second → first.SameButKey second
  clock : ∀ {left right}, together left right → left.clock = right.clock
  log : ∀ logger level message fields,
    Alongside together Eq (log logger level message fields) (log logger level message fields)
  /-- Whatever is asked of the daemon goes together, but for the removal of a container. -/
  ask : ∀ {method}, method ≠ .removeContainer → ∀ positional named,
    Alongside together Eq (call method positional named) (call method positional named)
  askWithin : ∀ {method}, method ≠ .removeContainer → ∀ limit positional named,
    Alongside together Eq (callWithin limit method positional named)
      (callWithin limit method positional named)
  sleep : ∀ seconds, Alongside together Eq (sleep seconds) (sleep seconds)
  openClient : Alongside together Eq openClient openClient
  closeClient : Alongside together Eq closeClient closeClient
  noteUpdate : ∀ cid fields, Alongside together Eq (noteUpdate cid fields) (noteUpdate cid fields)
  changeStore : ∀ {α : Type} (change : Store → Except Failure (Store × α)),
    Alongside together Eq (Keeping.changeStore change) (Keeping.changeStore change)
  print : ∀ block, Alongside together Eq (print block) (print block)
  printPlain : ∀ content, Alongside together Eq (printPlain content) (printPlain content)
  /-- A template resolves to commands that go together. -/
  resolve : ∀ repository branch template, Alongside together commands
    (Command.resolveLogged repository branch template none)
    (Command.resolveLogged repository branch template none)
  /-- Of commands that go together none is empty, or both are. -/
  given : ∀ {first second}, commands first second → (first = "" ↔ second = "")
  /-- A container may be asked for with commands that go together. -/
  creation : ∀ (reference : String) {first second}, commands first second → Alongside together Eq
    (World.call .createContainer [.string reference]
      [("command", .array [.string "/bin/sh", .string "-c", .string first]), ("tty", .bool true)])
    (World.call .createContainer [.string reference]
      [("command", .array [.string "/bin/sh", .string "-c", .string second]), ("tty", .bool true)])

/-- A way in which two worlds can be together that nothing at all of what activities are made of
ends. -/
structure Bond extends Link where
  call : ∀ method positional named,
    Alongside together Eq (call method positional named) (call method positional named)
  callWithin : ∀ limit method positional named,
    Alongside together Eq (callWithin limit method positional named)
      (callWithin limit method positional named)
  ask := fun _ => call _
  askWithin := fun _ limit => callWithin limit _

namespace Link

variable (link : Link)

/-- An activity that goes together with itself. -/
abbrev Steady {α : Type} (act : Step World α) : Prop :=
  Alongside link.together Eq act act

/-- A connector that goes together with itself under settings that go together. -/
def Connects (connector : Connector) : Prop :=
  ∀ {first second}, link.settings first second →
    Alongside link.together Eq (connector first) (connector second)

/-- The clocks of worlds that are together show the same moment. -/
theorem now : link.Steady World.now :=
  ⟨fun _ _ states => .ok (congrArg Clock.now (link.clock states)) states⟩

/-- An event that is followed by a failure. -/
theorem log_throw {α : Type} (logger : Logger) (level : Level) (message : String) (fields : Event)
    (failure : Failure) :
    link.Steady (World.log logger level message fields >>= fun _ =>
      (throw failure : Step World α)) :=
  (link.log ..).andThen fun _ => alongside_throw failure

/-- A named operation goes together with itself if the activity in it does. -/
theorem asOperation {α : Type} {act : Step World α} (steady : link.Steady act) (logger : Logger)
    (message : String) (fields : Event) (name : String) (cid : Json) :
    link.Steady (World.asOperation logger message fields name cid act) :=
  steady.onDaemonFailure fun _ _ => link.log_throw ..

/-! Waiting for an image. -/

section Availability

variable (wanted : Availability)

/-- An image is looked up alike. -/
theorem isLoaded : link.Steady wanted.isLoaded := by
  -- The reply is the same, so it has parts on both sides or on neither.
  refine (link.asOperation (link.ask (by decide) ..) ..).andThen fun images => ?_
  cases images.length? with
  | some count => exact alongside_pure rfl
  | none => exact alongside_throw _

/-- An image is checked for alike. -/
theorem check : link.Steady wanted.check := by
  -- The image is there on both sides or on neither.
  refine (link.isLoaded wanted).andThen fun loaded => ?_
  cases loaded with
  | true => exact alongside_pure rfl
  | false => exact alongside_throw _

/-- An image is present alike. -/
theorem isPresent : link.Steady wanted.isPresent :=
  ((link.check wanted).andThen fun _ => alongside_pure rfl).handling _ fun _ => alongside_pure rfl

/-- An image is found alike. -/
theorem found (number : Nat) : link.Steady (wanted.found number) :=
  (link.isPresent wanted).andThen fun _ => (link.log ..).andThen fun _ => alongside_pure rfl

/-- The same time remains. -/
theorem remaining (deadline : Deadline) : link.Steady (Availability.remaining deadline) :=
  alongside_get.bind fun left right states => alongside_pure (by rw [link.clock states])

/-- An image is pulled alike. -/
theorem pullWithin (limit : Option Rat) : link.Steady (wanted.pullWithin limit) := by
  -- With and without a limit the same call is made.
  refine (link.log ..).andThen fun _ => (link.asOperation ?_ ..).andThen fun _ => alongside_pure rfl
  cases limit with
  | some seconds => exact link.askWithin (by decide) ..
  | none => exact (link.ask (by decide) ..).map fun _ _ => congrArg some

/-- Whether a pull ends by itself is alike. -/
theorem pullInTime (limit : Option Rat) : link.Steady (wanted.pullInTime limit) :=
  (link.pullWithin wanted limit).handling _ fun _ => alongside_pure rfl

/-- A pause is made alike. -/
theorem pause (interval : Binary64) (rest : Option Rat) :
    link.Steady (Availability.pause interval rest) := by
  unfold Availability.pause
  -- The interval and the rest are the same on both sides, so the same one is the shorter.
  split
  · exact link.sleep _
  · cases interval.toRat? with
    | some seconds => cases rest <;> exact link.sleep _
    | none =>
      cases rest with
      | some rest => exact link.sleep _
      | none => exact alongside_throw _

/-- A pull and a pause are made alike. -/
theorem pullAndPause (deadline : Deadline) (number : Nat) :
    link.Steady (wanted.pullAndPause deadline number) := by
  -- Both pulls end by themselves, or both are given up.
  refine (link.remaining deadline).andThen fun rest => (link.pullInTime wanted _).andThen ?_
  intro pulled
  cases pulled with
  | true =>
    exact (link.remaining deadline).andThen fun _ => (link.pause ..).andThen fun _ =>
      alongside_pure rfl
  | false => exact (link.log ..).andThen fun _ => alongside_pure rfl

/-- An attempt is made alike. -/
theorem attempt (deadline : Deadline) (number : Nat) :
    link.Steady (wanted.attempt deadline number) := by
  -- The image is found on both sides, or the same time is left on both.
  refine (link.found wanted number).andThen fun present => ?_
  cases present with
  | true => exact alongside_pure rfl
  | false =>
    refine (link.remaining deadline).andThen fun rest => ?_
    split
    · exact alongside_pure rfl
    · exact link.pullAndPause wanted deadline number

/-- Attempts are made alike, however many there are. -/
theorem attempts (deadline : Deadline) (left number : Nat) :
    link.Steady (wanted.attempts deadline left number) := by
  -- The number of the attempt rises while the attempts that are left get fewer.
  induction left generalizing number with
  | zero => exact alongside_throw _
  | succ left ih =>
    refine (link.attempt wanted deadline number).andThen fun attempt => ?_
    cases attempt with
    | available => exact alongside_pure rfl
    | expired => exact link.log_throw ..
    | again => exact ih (number + 1)

/-- An image is waited for alike. -/
theorem ensure : link.Steady wanted.ensure := by
  refine alongside_get.bind fun left right states => ?_
  -- The deadline is told by the clock, and both worlds have the same one.
  rw [link.clock states]
  exact link.attempts ..

end Availability

/-! Connections. -/

/-- The direct connector goes together with itself. -/
theorem connects_direct : link.Connects Connection.direct :=
  fun _ => link.openClient

/-- The connector with certificates goes together with itself. -/
theorem connects_secured (present : String → Bool) :
    link.Connects (Connection.secured present) := by
  intro first second same
  -- No certificate and no address depends on the private key.
  obtain ⟨key, rfl⟩ := link.sameButKey same
  have alike : Connection.options { first with sshKey := key } present =
      Connection.options first present := rfl
  unfold Connection.secured
  rw [alike]
  cases Connection.options first present with
  | error message => exact link.log_throw ..
  | ok options =>
    refine (link.openClient.onDaemonFailure fun fault text => ?_).andThen fun _ => link.log ..
    split
    · exact alongside_throw _
    · exact link.log_throw ..

/-- The daemon's health is checked alike. -/
theorem health {first second : Settings} (same : link.settings first second) {connector : Connector}
    (connects : link.Connects connector) :
    Alongside link.together Eq (Health.check first connector) (Health.check second connector) :=
  (connects same).andThen fun _ =>
    (link.asOperation (link.ask (by decide) ..) ..).discard.ensuring link.closeClient

/-! Keeping records. -/

/-- What is refused is refused alike. -/
theorem refusing {α : Type} {act : Step World α} (steady : link.Steady act) (message : String)
    (cid : Json) : link.Steady (Keeping.refusing message cid act) :=
  steady.handling _ fun _ => link.log_throw ..

/-- Containers that are the same but for their command are recorded alike. -/
theorem save {first second : Container} (same : first.SameButCommand second)
    (origin : Record.Origin) :
    Alongside link.together Eq (Keeping.save first origin) (Keeping.save second origin) := by
  -- What is recorded of the command is its template.
  obtain ⟨command, rfl⟩ := same
  have saved : link.Steady (Keeping.save first origin) := by
    unfold Keeping.save
    split
    · exact alongside_throw _
    · exact (link.refusing (link.changeStore _) ..).andThen fun _ =>
        (link.log ..).andThen fun _ => alongside_pure rfl
  exact saved

/-- A record changes alike. -/
theorem update (cid : String) (fields : Fields) : link.Steady (Keeping.update cid fields) := by
  -- Whether a name is unknown or a field is there is seen from the fields alone.
  refine (link.noteUpdate cid fields).andThen fun _ => ?_
  dsimp only
  split
  · exact alongside_throw _
  · split
    · refine (link.refusing (link.changeStore _) ..).andThen fun matched => ?_
      cases matched with
      | true => exact alongside_pure rfl
      | false => exact link.log ..
    · exact alongside_pure rfl

/-- A record is read alike. -/
theorem get (cid : String) : link.Steady (Keeping.get cid) :=
  link.changeStore _

/-- The table is prepared alike. -/
theorem prepare : link.Steady Keeping.prepare :=
  (link.changeStore _).andThen fun _ => link.log ..

/-! Judging an output. -/

/-- Notes are logged alike. -/
theorem logNotes (logger : Logger) (notes : List (Level × String × Event)) :
    link.Steady (Analyzer.logNotes logger notes) := by
  induction notes with
  | nil => exact alongside_pure rfl
  | cons note rest ih => exact (link.log ..).andThen fun _ => ih

/-- An output is judged alike, whatever gateway goes together with itself. -/
theorem evaluate {gateway : Gateway} (steady : ∀ cid fields, link.Steady (gateway cid fields))
    (analyzer : Analyzer) (cid raw : String) :
    link.Steady (analyzer.evaluate gateway cid raw) := by
  -- The judgement is made of the text alone, so the same change is attempted.
  refine (link.logNotes ..).andThen fun _ => Alongside.andThen ?_ fun _ => alongside_pure rfl
  cases (analyzer.judge raw).update with
  | none => exact alongside_pure rfl
  | some fields => exact (steady cid fields).handling _ fun _ => link.log ..

end Link

end World

end ContainerScan
