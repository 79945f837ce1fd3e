import ContainerScan.Proofs.Alongside.Clock
import ContainerScan.Proofs.Lifecycle.Configuration

/-! What is left alone while a container is attended to: the client stays, the command stays as it was
noted, and the clock shows no earlier moment behind what is done than before it. -/

namespace ContainerScan

open Step

/-- A daemon whose outcomes do not arrive before they are asked for. -/
def Script.NeverEarly (script : Script) : Prop :=
  ∀ method index, 0 ≤ (script.outcome method index).delay

/-- One world comes of another in the course of time, where neither the clock nor the daemon turns it
back. -/
structure World.Later (before after : World) : Prop where
  script : after.script = before.script
  steady : World.Steady before after
  later : before.script.NeverEarly → before.clock.NeverGoesBack →
    before.clock.now.instant ≤ after.clock.now.instant

/-- What comes later than something later comes later. -/
instance : IsPreorder World World.Later where
  -- The script is the same all along, so its delays are those of one daemon.
  refl _ := ⟨rfl, id, fun _ _ => Int.le_refl _⟩
  trans _ _ _ one two :=
    ⟨two.script.trans one.script, two.steady ∘ one.steady, fun timely forward =>
      Int.le_trans (one.later timely forward) (two.later (one.script ▸ timely) (one.steady forward))⟩

/-- Where the clock and the daemon are the same, no time has passed. -/
theorem World.later_of_still {before after : World} (script : after.script = before.script)
    (clock : after.clock = before.clock) : World.Later before after :=
  ⟨script, fun forward => clock ▸ forward, fun _ _ => clock ▸ Int.le_refl _⟩

/-- A call comes to its end later than it began. -/
theorem World.call_later (method : Method) (positional : List Json)
    (named : List (String × Json)) : Follows World.Later (World.call method positional named) := by
  -- A call takes its delay, whether it is answered or refused.
  refine ⟨fun world => ?_⟩
  have ended := World.call_apply ⟨method, positional, named⟩ world
  have passed : World.Later world (world.afterQuery ⟨method, positional, named⟩) :=
    ⟨rfl, fun forward => forward.after _, fun timely forward => forward.le (timely ..)⟩
  cases answered : (world.nextOutcome method).result with
  | ok reply =>
    rw [answered] at ended
    rwa [after_of_ok ended]
  | error failure =>
    rw [answered] at ended
    rwa [after_of_error ended]

namespace Session

/-- One session comes of another while its container is attended to. -/
structure Attends (before after : Session) : Prop where
  connected : after.lifecycle.connected = before.lifecycle.connected
  command : SameCommand before after
  world : World.Later before.world after.world

/-- A container is attended to in one step after the other. -/
instance : IsPreorder Session Attends where
  refl session := ⟨rfl, refl session, refl session.world⟩
  trans _ _ _ one two := ⟨two.connected.trans one.connected,
    IsTrans.trans _ _ _ one.command two.command, IsTrans.trans _ _ _ one.world two.world⟩

/-- What happens in the surroundings in the course of time is part of attending to a container. -/
theorem inWorld_attends {α : Type} {act : Step World α} (later : Follows World.Later act) :
    Follows Attends (inWorld act) := by
  refine ⟨fun session => ?_⟩
  rw [after_inWorld]
  exact ⟨rfl, rfl, later.leads session.world⟩

/-- Writing an event takes no time. -/
theorem log_attends (level : Level) (message : String) (fields : Event) :
    Follows Attends (log level message fields) := by
  refine follows_get.bind fun session => inWorld_attends ⟨fun world => ?_⟩
  rw [after_of_ok (World.log_written ..)]
  exact World.later_of_still rfl rfl

/-- A call is part of attending to a container. -/
theorem call_attends (method : Method) (positional : List Json) (named : List (String × Json)) :
    Follows Attends (call method positional named) := by
  -- Without a client no call is made.
  refine follows_get.bind fun session => ?_
  split
  · exact inWorld_attends (World.call_later ..)
  · exact follows_throw _

/-- The moment is looked at in no time. -/
theorem now_attends : Follows Attends now :=
  ⟨fun session => refl session⟩

/-- A status is noted or refused in no time. -/
theorem advance_attends (status : Status) : Follows Attends (advance status) := by
  -- The status changes or is refused, and nothing else is touched.
  refine ⟨fun session => ?_⟩
  rcases session.lifecycle.container.advance_cases status with ⟨next, -⟩ | ⟨failure, back⟩
  · rw [after_of_ok (advance_apply next)]
    exact ⟨rfl, rfl, refl session.world⟩
  · rw [after_of_error (advance_of_error back)]
    exact refl session

/-- A change of the container beside its command is part of attending to it, with what follows. -/
theorem amend_attends {α : Type} {change : Container → Container}
    {next : Container → Step Session α}
    (same : ∀ container, (change container).command = container.command)
    (following : ∀ container, Follows Attends (next container)) :
    Follows Attends (do
      let before ← container
      setContainer (change before)
      next before) := by
  -- The change keeps the command, and what follows goes on from it.
  refine ⟨fun session => ?_⟩
  have changed : Attends session (session.withContainer (change session.lifecycle.container)) :=
    ⟨rfl, same session.lifecycle.container, refl session.world⟩
  exact IsTrans.trans _ _ _ changed ((following _).leads _)

/-- Looking at the container changes nothing. -/
theorem container_attends : Follows Attends container :=
  ⟨fun session => refl session⟩

/-- A failure that is named after an operation is part of attending to a container. -/
theorem failAs_attends {α : Type} (message name : String) (fields : Event) (cid : Json)
    (text : String) :
    Follows Attends (failAs message name fields cid text : Step Session α) :=
  (log_attends ..).bind fun _ => follows_throw _

/-- A failure that ends the container's life is part of attending to it. -/
theorem endAs_attends {α : Type} (message name text : String) :
    Follows Attends (endAs message name text : Step Session α) :=
  (advance_attends _).bind fun _ => container_attends.bind fun _ => failAs_attends ..

/-- Starting a container is part of attending to it. -/
theorem start_attends : Follows Attends start := by
  -- The moment is noted before the call and the status changed behind it.
  refine now_attends.bind fun moment => amend_attends (fun _ => rfl) fun _ => ?_
  refine container_attends.bind fun _ => Follows.bind ?_ fun _ =>
    (advance_attends .running).bind fun _ => log_attends ..
  exact (call_attends ..).discard.onDaemonFailure fun _ _ => endAs_attends ..

/-- A wait that is cut off is part of attending to a container. -/
theorem cutOff_attends {α : Type} (bound : Int) :
    Follows Attends (cutOff bound : Step Session α) :=
  (advance_attends _).bind fun _ => (log_attends ..).bind fun _ =>
    container_attends.bind fun _ => follows_throw _

/-- Noting an exit is part of attending to a container. -/
theorem noteExit_attends (members : List (String × Json)) :
    Follows Attends (noteExit members) := by
  -- With and without an exit code the container changes in other fields than its command.
  refine (follows_ofExcept _).bind fun code => amend_attends (fun _ => rfl) fun _ => ?_
  dsimp only
  split
  · exact (follows_ofExcept _).bind fun _ => (log_attends ..).bind fun _ => follows_pure _
  · exact follows_pure _

/-- Waiting for a container is part of attending to it. -/
theorem wait_attends : Follows Attends wait := by
  -- The handler of the call comes last: it is cut off, or fails at the daemon.
  refine Follows.bind ?_ fun reply => (follows_ofExcept _).bind fun members => noteExit_attends _
  refine follows_get.bind fun session => container_attends.bind fun _ => ?_
  refine (call_attends ..).onDaemonFailure fun fault text => ?_
  split
  · exact cutOff_attends _
  · exact endAs_attends ..

/-- Reading a container's output is part of attending to it. -/
theorem readOutput_attends : Follows Attends readOutput := by
  -- The clean-up advances the status, which keeps the command too.
  refine now_attends.bind fun moment => amend_attends (fun _ => rfl) fun _ => ?_
  refine Follows.bind ?_ fun reply => (follows_ofExcept _).bind fun bytes =>
    amend_attends (fun _ => rfl) fun _ => container_attends.bind fun _ =>
      (log_attends ..).bind fun _ => follows_pure _
  exact (container_attends.bind fun _ =>
    (call_attends ..).onDaemonFailure fun _ _ => failAs_attends ..).ensuring (advance_attends _)

/-- Nothing but attending to a container is done once it is there. -/
theorem execute_attends : Follows Attends execute :=
  start_attends.bind fun _ => wait_attends.discard.bind fun _ => readOutput_attends.discard

end Session

end ContainerScan
