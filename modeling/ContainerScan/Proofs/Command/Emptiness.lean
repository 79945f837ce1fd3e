import ContainerScan.Proofs.Lifecycle.Order

/-! Commands of which nothing is left: when that happens, and how the making of a container is refused
then, before anything is asked of the daemon. -/

namespace ContainerScan

namespace Command

/-- With repository and branch filled in a template is empty exactly if one of the three is. -/
theorem fill_eq_empty_iff {repository branch template : String} :
    fill repository branch template = "" ↔ repository = "" ∨ branch = "" ∨ template = "" := by
  unfold fill
  by_cases missing : repository = "" ∨ branch = "" ∨ template = ""
  · rw [if_pos missing]
    exact iff_of_true rfl missing
  · -- What takes the place of a token is not empty, and everything else stays.
    rw [if_neg missing]
    push Not at missing
    obtain ⟨address, name, given⟩ := missing
    rw [Text.replace_eq_empty_iff name, Text.replace_eq_empty_iff address]
    simp [address, name]

/-- What leaves nothing of a command: an empty repository, branch or template, or a text that is the
token of the key, once or several times, where there is no key. -/
def LeavesNothing (repository branch template key : String) : Prop :=
  repository = "" ∨ branch = "" ∨ template = "" ∨ key = "" ∧ ∃ count,
    (fill repository branch template).toList = Text.copies (count + 1) keyToken.toList

/-- Without a key nothing is left of a command exactly if it is the token of the key, once or several
times. -/
theorem insertKey_nothing_iff {command : String} (nonempty : command ≠ "") :
    insertKey "" command = "" ↔
      ∃ count, command.toList = Text.copies (count + 1) keyToken.toList := by
  rw [← String.toList_inj, insertKey, Text.replace, String.toList_ofList]
  refine (Text.replaceAll_nothing_eq_nil_iff (by decide)).trans (Iff.intro ?_ ?_)
  · rintro ⟨count, same⟩
    -- No copy at all would be an empty command.
    cases count with
    | zero => exact absurd (String.toList_eq_nil_iff.mp same) nonempty
    | succ count => exact ⟨count, same⟩
  · rintro ⟨count, same⟩
    exact ⟨count + 1, same⟩

/-- Nothing is left of a command in these cases alone. -/
theorem resolve_eq_empty_iff_leavesNothing (repository branch template key : String) :
    resolve repository branch template key = "" ↔
      LeavesNothing repository branch template key := by
  unfold LeavesNothing
  by_cases missing : repository = "" ∨ branch = "" ∨ template = ""
  · -- Nothing is filled in, so there is nothing for the key to be put into.
    rw [resolve, if_pos (fill_eq_empty_iff.mpr missing)]
    exact iff_of_true rfl (by tauto)
  · have filled : fill repository branch template ≠ "" := fun empty =>
      missing (fill_eq_empty_iff.mp empty)
    push Not at missing
    obtain ⟨address, name, given⟩ := missing
    by_cases keyless : key = ""
    · rw [resolve, if_neg filled, keyless, insertKey_nothing_iff filled]
      simp [address, name, given]
    · rw [resolve_eq_empty_iff keyless]
      simp [address, name, given, filled, keyless]

end Command

/-- Whether a failure is the refusal of a command. -/
def Failure.isInvalidCommand : Failure → Bool
  | .invalidCommand _ => true
  | _ => false

namespace Session

open Step

/-- A reply without an identifier is no refusal of a command. -/
theorem isInvalidCommand_of_newCid {reply : Reply} {failure : Failure}
    (unnamed : reply.newCid = .error failure) : failure.isInvalidCommand = false := by
  -- Either the identifier is missing, or the reply has no members at all.
  unfold Reply.newCid at unnamed
  split at unnamed
  · split at unnamed
    · cases unnamed
    · cases unnamed
      rfl
  · cases unnamed
    rfl

/-- That a container cannot be adopted is no refusal of a command. -/
theorem isInvalidCommand_of_adopt {cid : Json} {session final : Session} {failure : Failure}
    (failed : adopt cid session = .error failure final) : failure.isInvalidCommand = false := by
  let named := session.withContainer { session.lifecycle.container with cid := cid }
  have opened : adopt cid session = (advance .created >>= fun _ => introduce cid) named := rfl
  rw [opened] at failed
  cases unbegun : named.lifecycle.container.isUnbegun with
  | false =>
    -- The container has got past its creation, and that is a wrong value.
    obtain ⟨current, back⟩ := Container.advance_created_of_begun unbegun
    rw [bind_of_error (advance_of_error back)] at failed
    obtain ⟨rfl, -⟩ := EStateM.Result.error.inj failed
    rfl
  -- All that can go wrong now is that the identifier has no short form.
  | true =>
    rw [bind_of_ok (advance_apply (Container.advance_created unbegun))] at failed
    rcases introduce_cases cid (named.withContainer { named.lifecycle.container with
      status := some .created }) with ⟨after, -, done, -⟩ | ⟨-, refused⟩
    · rw [done] at failed
      cases failed
    · rw [refused] at failed
      cases failed
      rfl

/-- The refusal of a command that comes while a container is asked for is the daemon's own. -/
theorem requestContainer_invalidCommand_iff {command : String} {session : Session}
    {failure : Failure} (invalid : failure.isInvalidCommand = true) :
    (∃ final, requestContainer command session = .error failure final) ↔
      session.lifecycle.connected = true ∧
        (session.world.nextOutcome .createContainer).result = .error failure := by
  cases connected : session.lifecycle.connected with
  | false =>
    -- Without a client the daemon is not asked, and the failure says so.
    rw [requestContainer_of_disconnected connected]
    refine iff_of_false ?_ fun both => Bool.false_ne_true both.1
    rintro ⟨final, ⟨⟩⟩
    cases invalid
  | true =>
    let query := Query.creation session.lifecycle.container.image.reference command
    have asked := call_apply connected query
    have opened : requestContainer command session =
        onDaemonFailure (call query.method query.positional query.named)
          (fun _ text => failAs "Container create failed" "create" [] .null text) session := rfl
    rw [opened]
    change _ ↔ _ ∧ (session.world.nextOutcome query.method).result = _
    cases answered : (session.world.nextOutcome query.method).result with
    | ok reply =>
      rw [answered] at asked
      rw [onDaemonFailure_of_ok asked]
      simp
    | error cause =>
      rw [answered] at asked
      by_cases daemons : ∃ fault text, cause = .daemon fault text
      · -- A failure of the daemon gets the name of the operation.
        obtain ⟨fault, text, rfl⟩ := daemons
        obtain ⟨final, failed, -⟩ :=
          @failAs_apply Reply "Container create failed" "create" [] .null text
            (session.afterQuery query)
        rw [onDaemonFailure_of_daemon asked, failed]
        refine iff_of_false ?_ ?_
        · rintro ⟨_, ⟨⟩⟩
          cases invalid
        · rintro ⟨-, ⟨⟩⟩
          cases invalid
      · -- Any other one is passed on as it is.
        push Not at daemons
        rw [onDaemonFailure_of_other asked daemons]
        simp

/-- Where a command is left, its refusal can only be the daemon's own. -/
theorem create_invalidCommand_iff {repository branch : String} {session : Session}
    {failure : Failure} (given : session.commandFor repository branch ≠ "")
    (invalid : failure.isInvalidCommand = true) :
    (∃ final, create repository branch session = .error failure final) ↔
      session.lifecycle.connected = true ∧
        (session.world.nextOutcome .createContainer).result = .error failure := by
  rcases create_noted repository branch session with
    ⟨empty, -⟩ | ⟨-, noted, opened, kept, -⟩
  · exact absurd empty given
  · have daemon : (∃ final, requestContainer (session.commandFor repository branch) noted =
        .error failure final) ↔ _ := requestContainer_invalidCommand_iff invalid
    rw [opened, ← kept.connected, ← kept.world.nextOutcome nofun, ← daemon]
    cases asked : requestContainer (session.commandFor repository branch) noted with
    -- What the daemon refuses with is what the creation fails with.
    | error cause middle =>
      rw [bind_of_error asked]
      simp only [EStateM.Result.error.injEq]
    | ok reply middle =>
      -- From here on nothing fails as the refusal of a command.
      rw [bind_of_ok asked]
      refine iff_of_false ?_ (by simp)
      rintro ⟨final, failed⟩
      cases unnamed : reply.newCid with
      | error cause =>
        rw [unnamed] at failed
        cases failed
        rw [isInvalidCommand_of_newCid unnamed] at invalid
        cases invalid
      | ok cid =>
        rw [unnamed] at failed
        rw [isInvalidCommand_of_adopt failed] at invalid
        cases invalid

/-- Nothing is left of a command exactly if repository, branch or template is empty, or if there is
no key and the text is nothing but the token of the key. Then a container is refused before the daemon
is asked, with the lifecycle as it was; and otherwise a command is only refused if the daemon itself
answers so. -/
theorem leavesNothing_refused :
    (∀ (repository branch template : String) (key : Option String) (world : World),
      ∃ command final,
        Command.resolveLogged repository branch template key world = .ok command final ∧
        (command = "" ↔ Command.LeavesNothing repository branch template
          (key.getD world.settings.sshKey))) ∧
    ∀ (repository branch : String) (session : Session),
      let nothing := Command.LeavesNothing repository branch session.lifecycle.template
        session.world.settings.sshKey
      (nothing → ∃ final, create repository branch session = .error nothingToRun final ∧
        World.Asked [] session.world final.world ∧ final.lifecycle = session.lifecycle) ∧
      ((∃ failure final, create repository branch session = .error failure final ∧
          failure.isInvalidCommand = true) ↔
        nothing ∨ session.lifecycle.connected = true ∧ ∃ failure,
          (session.world.nextOutcome .createContainer).result = .error failure ∧
          failure.isInvalidCommand = true) := by
  -- The two halves are about the filling of the template and about the creation.
  constructor
  · intro repository branch template key world
    obtain ⟨events, resolved⟩ := Command.resolveLogged_apply repository branch template key world
    exact ⟨_, _, resolved, Command.resolve_eq_empty_iff_leavesNothing ..⟩
  · intro repository branch session nothing
    have emptied : session.commandFor repository branch = "" ↔ nothing :=
      Command.resolve_eq_empty_iff_leavesNothing ..
    have refused : nothing → ∃ final,
        create repository branch session = .error nothingToRun final ∧
        World.Asked [] session.world final.world ∧ final.lifecycle = session.lifecycle := by
      intro gone
      obtain ⟨final, failed, quiet, same⟩ := create_of_empty (emptied.mpr gone)
      exact ⟨final, failed, quiet.world, same⟩
    refine ⟨refused, ?_⟩
    -- Where something is left, only the daemon can refuse the command.
    by_cases gone : nothing
    · obtain ⟨final, failed, -⟩ := refused gone
      exact iff_of_true ⟨_, final, failed, rfl⟩ (Or.inl gone)
    · have given : session.commandFor repository branch ≠ "" := fun empty => gone (emptied.mp empty)
      constructor
      · rintro ⟨failure, final, failed, invalid⟩
        obtain ⟨connected, answered⟩ := (create_invalidCommand_iff given invalid).mp ⟨final, failed⟩
        exact Or.inr ⟨connected, failure, answered, invalid⟩
      · rintro (absent | ⟨connected, failure, answered, invalid⟩)
        · exact absurd absent gone
        · obtain ⟨final, failed⟩ :=
            (create_invalidCommand_iff given invalid).mpr ⟨connected, answered⟩
          exact ⟨failure, final, failed, invalid⟩

/-- Without a key a template with characters can vanish, if the repository is named after the token of
the key. -/
theorem leavesNothing_refused_keyless :
    let fresh := Lifecycle.fresh { name := "retirejs" } "%GIT_REPO%%GIT_REPO%" .standard
      Connection.direct
    let session : Session := ⟨{ fresh with connected := true }, { settings := .standard }⟩
    ∃ final, create "GIT_PRIVATE_SSH_KEY" "main" session = .error nothingToRun final ∧
      World.Asked [] session.world final.world ∧ final.lifecycle = session.lifecycle :=
  (leavesNothing_refused.2 _ _ _).1 (Or.inr (Or.inr (Or.inr ⟨rfl, 1, by decide +kernel⟩)))

end Session

end ContainerScan
