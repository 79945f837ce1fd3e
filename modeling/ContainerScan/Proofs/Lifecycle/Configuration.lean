import ContainerScan.Proofs.Lifecycle.Sequence

/-! Which configuration a command comes from: it is filled in with the key of the process, whatever
key the lifecycle itself has. -/

namespace ContainerScan.Session

open Step

/-- The container is to run the same command in two sessions. -/
def SameCommand (before after : Session) : Prop :=
  after.lifecycle.container.command = before.lifecycle.container.command

/-- A command stays the same over any number of sessions. -/
instance : IsPreorder Session SameCommand where
  refl _ := rfl
  trans _ _ _ one two := two.trans one

/-- What spares the whole record spares the command. -/
theorem sameCommand_of_spares {α : Type} {act : Step Session α} (spares : Follows Spares act) :
    Follows SameCommand act :=
  ⟨fun session => congrArg Container.command (spares.leads session)⟩

/-- Resolving a command leaves the record as it is. -/
theorem resolveCommand_spares (repository branch : String) :
    Follows Spares (resolveCommand repository branch) := by
  -- An empty command is logged and refused, and any other one is returned.
  refine follows_get.bind fun session => (inWorld_spares _).bind fun command => ?_
  split
  · exact (log_spares ..).bind fun _ => follows_throw _
  · exact follows_pure _

/-- Asking for a container leaves the command as it is noted. -/
theorem requestContainer_sameCommand (command : String) :
    Follows SameCommand (requestContainer command) :=
  Follows.bind ⟨fun _ => rfl⟩ fun _ => sameCommand_of_spares (ask_spares (call_spares ..) ..)

/-- A status that is noted or refused has no part in the command. -/
theorem advance_sameCommand (status : Status) : Follows SameCommand (advance status) := by
  -- The status changes or is refused.
  refine ⟨fun session => ?_⟩
  rcases session.lifecycle.container.advance_cases status with ⟨next, -⟩ | ⟨failure, back⟩
  · rw [after_of_ok (advance_apply next)]
    rfl
  · rw [after_of_error (advance_of_error back)]
    rfl

/-- Introducing a container leaves its command as it is. -/
theorem introduce_sameCommand (cid : Json) : Follows SameCommand (introduce cid) := by
  -- An id that cannot be shortened is refused before anything is written.
  unfold introduce
  split
  · exact follows_throw _
  · refine Follows.bind ⟨fun _ => rfl⟩ fun _ => ?_
    exact (sameCommand_of_spares (log_spares ..)).bind fun _ => follows_pure _

/-- Adopting an identifier leaves the command as it is. -/
theorem adopt_sameCommand (cid : Json) : Follows SameCommand (adopt cid) := by
  -- The identifier is written into the record beside the command.
  refine ⟨fun session => ?_⟩
  have introduced : Follows SameCommand (advance .created >>= fun _ => introduce cid) :=
    (advance_sameCommand .created).bind fun _ => introduce_sameCommand cid
  exact introduced.leads
    (session.withContainer { session.lifecycle.container with cid := cid })

/-- From the request on the command stays as it is, whatever becomes of the container. -/
theorem request_adopt_sameCommand (command : String) :
    Follows SameCommand (requestContainer command >>= fun reply =>
      Step.ofExcept reply.newCid >>= adopt) := by
  -- A reply without an id is refused before it is adopted.
  refine (requestContainer_sameCommand command).bind fun reply => ?_
  cases reply.newCid with
  | error failure => exact follows_throw failure
  | ok cid => exact adopt_sameCommand cid

/-- The command that would be filled in with the key of the lifecycle's own settings. -/
def ownCommand (session : Session) (repository branch : String) : String :=
  Command.resolve repository branch session.lifecycle.template session.lifecycle.settings.sshKey

/-- A container is asked for, and noted, with the command that has the key of the process. That is
the command with the lifecycle's own key exactly if the two keys are the same, or if the text with
repository and branch filled in does not ask for a key. -/
theorem create_command (session : Session) (repository branch : String) :
    let command := session.commandFor repository branch
    let final := after (create repository branch) session
    World.Asked
      (if session.lifecycle.connected = true ∧ command ≠ "" then
        [.creation session.lifecycle.container.image.reference command] else [])
      session.world final.world ∧
    final.lifecycle.container.command =
      (if command = "" then session.lifecycle.container.command else command) ∧
    (command = session.ownCommand repository branch ↔
      session.world.settings.sshKey = session.lifecycle.settings.sshKey ∨
        Text.contains (Command.fill repository branch session.lifecycle.template)
          Command.keyToken = false) := by
  intro command final
  have keys := Command.resolve_eq_iff repository branch session.lifecycle.template
    session.world.settings.sshKey session.lifecycle.settings.sshKey
  refine and_assoc.mp ⟨?_, keys⟩
  -- An empty command is refused before anything is asked; any other one is noted and asked for.
  rcases create_noted repository branch session with
    ⟨empty, failure, after, failed, quiet⟩ | ⟨given, noted, opened, kept, same⟩
  · have ended : final = after := after_of_error failed
    rw [if_neg fun both => both.2 empty, if_pos empty, ended]
    exact ⟨quiet.world, quiet.command⟩
  · rw [if_neg given, show final = _ from after_of_eq opened]
    refine ⟨?_, ((request_adopt_sameCommand _).leads noted).trans (by rw [same])⟩
    cases connected : session.lifecycle.connected with
    | false =>
      -- Without a client no container is asked for.
      have refused := bind_of_error (requestContainer_of_disconnected
        (kept.connected.trans connected) (session.commandFor repository branch))
        fun reply => Step.ofExcept reply.newCid >>= adopt
      rw [if_neg fun both => Bool.false_ne_true both.1, after_of_error refused]
      exact kept.world
    | true =>
      rw [if_pos ⟨rfl, given⟩]
      have image : noted.lifecycle.container.image = session.lifecycle.container.image := kept.image
      -- The request is made once, whether or not the container can be adopted.
      rcases requestContainer_adopt_cases (session.commandFor repository branch)
        (kept.connected.trans connected) with
        ⟨cid, after, -, -, -, made, asked, -⟩ | ⟨failure, after, -, failed, asked⟩
      · rw [image] at asked
        rw [after_of_ok made]
        exact (kept.trans asked).world
      · rw [image] at asked
        rw [after_of_error failed]
        exact (kept.trans asked).world

/-- A lifecycle with a key of its own has its container run a command with that of the process. -/
theorem create_ignores_own_key :
    let fresh := Lifecycle.fresh { name := "retirejs" }
      "echo GIT_PRIVATE_SSH_KEY %GIT_REPO% %GIT_BRANCH%"
      { Settings.standard with sshKey := "injected" } Connection.direct
    let world : World := { settings := { Settings.standard with sshKey := "process" } }
    let session : Session := ⟨{ fresh with connected := true }, world⟩
    let final := after (create "r" "b") session
    session.ownCommand "r" "b" = "echo injected r b" ∧
      final.lifecycle.container.command = "echo process r b" ∧
      (final.world.calls.map fun call => call.query) =
        [.creation "retirejs:latest" "echo process r b"] := by
  decide +kernel

end ContainerScan.Session
