import ContainerScan.Lifecycle.Run
import ContainerScan.Proofs.Alongside.World
import ContainerScan.Proofs.Lifecycle.Session

/-! Lifecycles in worlds that stay together: whatever is done with both of them, they stay the same
but for the commands of their containers. -/

namespace ContainerScan

open Step

/-- Containers that are the same but for their command come to a later status alike. -/
theorem Container.SameButCommand.advance {first second : Container}
    (same : first.SameButCommand second) (status : Status) :
    (∃ failure, first.advance status = .error failure ∧ second.advance status = .error failure) ∨
      ∃ left right, first.advance status = .ok left ∧ second.advance status = .ok right ∧
        left.SameButCommand right := by
  -- Whether a status may follow is decided by the present one, in which the two agree.
  obtain ⟨command, rfl⟩ := same
  unfold Container.advance
  cases first.status with
  | none => exact Or.inr ⟨_, _, rfl, rfl, command, rfl⟩
  | some current =>
    by_cases back : status.rank < current.rank
    · exact Or.inl ⟨_, if_pos back, if_pos back⟩
    · exact Or.inr ⟨_, _, if_neg back, if_neg back, command, rfl⟩

namespace World.Link

variable (link : Link)

/-- Two sessions in worlds that are together, with lifecycles that are the same but for settings
that go together and for the command of the container. -/
structure Sessions (left right : Session) : Prop where
  world : link.together left.world right.world
  settings : link.settings left.lifecycle.settings right.lifecycle.settings
  template : right.lifecycle.template = left.lifecycle.template
  connector : right.lifecycle.connector = left.lifecycle.connector
  container : left.lifecycle.container.SameButCommand right.lifecycle.container
  connected : right.lifecycle.connected = left.lifecycle.connected
  logger : right.lifecycle.logger = left.lifecycle.logger
  connects : link.Connects left.lifecycle.connector

/-- An activity of a session that goes together with itself. -/
abbrev Tied {α : Type} (act : Step Session α) : Prop :=
  Alongside link.Sessions Eq act act

variable {link}

/-- Activities of the surroundings go together as parts of sessions. -/
theorem inWorld {α β : Type} {values : α → β → Prop} {act : Step World α} {other : Step World β}
    (steady : Alongside link.together values act other) :
    Alongside link.Sessions values (Session.inWorld act) (Session.inWorld other) := by
  -- The world ends as it does by itself, and the lifecycles around it have not changed.
  refine ⟨fun left right sessions => ?_⟩
  have ends := steady.ends _ _ sessions.world
  unfold Session.inWorld
  generalize act left.world = one at ends ⊢
  generalize other right.world = two at ends ⊢
  cases ends with
  | ok agree states => exact .ok agree { sessions with world := states }
  | error failure states => exact .error failure { sessions with world := states }

/-- Containers of sessions that are together are the same but for their command. -/
theorem container :
    Alongside link.Sessions Container.SameButCommand Session.container Session.container :=
  ⟨fun _ _ sessions => .ok sessions.container sessions⟩

/-- What follows from a container without regard to its command is the same for both. -/
theorem ofContainer {α : Type} {next : Container → Step Session α}
    (blind : ∀ container command, next { container with command := command } = next container)
    (tied : ∀ container, Alongside link.Sessions Eq (next container) (next container)) :
    Alongside link.Sessions Eq (Session.container >>= next) (Session.container >>= next) := by
  -- The containers differ in the command alone, which what follows does not look at.
  refine container.bind fun first second same => ?_
  obtain ⟨command, rfl⟩ := same
  rw [blind first command]
  exact tied first

/-- Containers may be replaced by others that are the same but for their command. -/
theorem setContainer {first second : Container} (same : first.SameButCommand second) :
    Alongside link.Sessions Eq (Session.setContainer first) (Session.setContainer second) :=
  ⟨fun _ _ sessions => .ok rfl { sessions with container := same }⟩

variable (link)

/-- A client comes or goes in both sessions. -/
theorem setConnected (connected : Bool) : link.Tied (Session.setConnected connected) :=
  ⟨fun _ _ sessions => .ok rfl { sessions with connected := rfl }⟩

/-- Whoever writes about the lifecycles gets the same further values. -/
theorem bindLogger (fields : Event) : link.Tied (Session.bindLogger fields) := by
  refine ⟨fun left right sessions => .ok rfl { sessions with logger := ?_ }⟩
  exact congrArg (Logger.bind · fields) sessions.logger

/-- An event about both lifecycles. -/
theorem sessionLog (level : Level) (message : String) (fields : Event) :
    link.Tied (Session.log level message fields) := by
  refine alongside_get.bind fun left right sessions => ?_
  rw [sessions.logger]
  exact inWorld (link.log ..)

/-- Activities that go together are done over a client that is there in both sessions or in none. -/
theorem sessionCall {act other : Step World Reply} (steady : Alongside link.together Eq act other) :
    Alongside link.Sessions Eq
      (do
        if (← MonadState.get).lifecycle.connected then Session.inWorld act
        else throw (.connectionSetup "not connected; call connect() first") : Step Session Reply)
      (do
        if (← MonadState.get).lifecycle.connected then Session.inWorld other
        else throw (.connectionSetup "not connected; call connect() first")) := by
  -- There is a client on both sides or on neither.
  refine alongside_get.bind fun left right sessions => ?_
  rw [sessions.connected]
  split
  · exact inWorld steady
  · exact alongside_throw _

/-- The daemon is asked in both sessions or in none. -/
theorem tiedAsk {method : Method} (other : method ≠ .removeContainer) (positional : List Json)
    (named : List (String × Json)) : link.Tied (Session.call method positional named) :=
  link.sessionCall (link.ask other positional named)

/-- Both containers come to a later status, or neither does. -/
theorem advance (status : Status) : link.Tied (Session.advance status) := by
  -- Both containers go on to the status, or neither does and the failure is the same.
  refine container.bind fun first second same => ?_
  rcases same.advance status with ⟨failure, one, two⟩ | ⟨left, right, one, two, same⟩
  · rw [one, two]
    exact alongside_throw failure
  · rw [one, two]
    exact setContainer same

variable {link}

/-- The same change is made to both containers, which stay the same but for their command. -/
theorem amend {α : Type} {change : Container → Container} {next onward : Container → Step Session α}
    (same : ∀ container command, change { container with command := command } =
      { change container with command := (change { container with command := command }).command })
    (following : ∀ first second, first.SameButCommand second →
      Alongside link.Sessions Eq (next first) (onward second)) :
    Alongside link.Sessions Eq
      (Session.container >>= fun before =>
        Session.setContainer (change before) >>= fun _ => next before)
      (Session.container >>= fun before =>
        Session.setContainer (change before) >>= fun _ => onward before) := by
  -- The change is made on both sides alike, because it does not look at the command.
  refine container.bind fun first second alike => ?_
  have changed : (change first).SameButCommand (change second) := by
    obtain ⟨command, rfl⟩ := alike
    exact ⟨_, same first command⟩
  exact (setContainer changed).andThen fun _ => following first second alike

variable (link)

/-! The operations. -/

/-- An operation fails alike. -/
theorem failAs {α : Type} (message name : String) (fields : Event) (cid : Json) (text : String) :
    link.Tied (Session.failAs message name fields cid text : Step Session α) :=
  (link.sessionLog ..).andThen fun _ => alongside_throw _

/-- An operation that ends the container's life fails alike. -/
theorem endAs {α : Type} (message name text : String) :
    link.Tied (Session.endAs message name text : Step Session α) :=
  (link.advance _).andThen fun _ => ofContainer (fun _ _ => rfl) fun _ => link.failAs ..

/-- A client is opened alike. -/
theorem connect : link.Tied Session.connect := by
  -- Both sessions have a client, or both of them open one with the same connector.
  refine alongside_get.bind fun left right sessions => ?_
  dsimp only
  rw [sessions.connected, sessions.connector]
  split
  · refine Alongside.andThen ?_ fun _ => link.setConnected true
    exact (inWorld (sessions.connects sessions.settings)).handling _ fun _ =>
      (link.sessionLog ..).andThen fun _ => alongside_throw _
  · exact alongside_pure rfl

/-- A client is given back alike. -/
theorem close : link.Tied Session.close := by
  -- There is a client to give back on both sides or on neither.
  refine alongside_get.bind fun left right sessions => ?_
  rw [sessions.connected]
  split
  · exact (inWorld link.closeClient).andThen fun _ => link.setConnected false
  · exact alongside_pure rfl

/-- A client is asked for alike. -/
theorem requireClient : link.Tied Session.requireClient := by
  -- There is a client on both sides or on neither.
  refine alongside_get.bind fun left right sessions => ?_
  rw [sessions.connected]
  split
  · exact alongside_throw _
  · exact alongside_pure rfl

/-- Commands are resolved that go together, or both are refused. -/
theorem resolveCommand (repository branch : String) :
    Alongside link.Sessions link.commands (Session.resolveCommand repository branch)
      (Session.resolveCommand repository branch) := by
  -- The commands may differ, but if one of them is empty then so is the other.
  refine alongside_get.bind fun left right sessions => ?_
  rw [sessions.template]
  refine (inWorld (link.resolve ..)).bind fun first second agree => ?_
  have given := link.given agree
  by_cases empty : first = ""
  · rw [if_pos empty, if_pos (given.mp empty)]
    exact (link.sessionLog ..).andThen fun _ => alongside_throw _
  · rw [if_neg empty, if_neg (empty ∘ given.mpr)]
    exact alongside_pure agree

/-- Containers are asked for alike, with commands that go together. -/
theorem requestContainer {first second : String} (agree : link.commands first second) :
    Alongside link.Sessions Eq (Session.requestContainer first)
      (Session.requestContainer second) := by
  refine container.bind fun one two same => ?_
  obtain ⟨command, rfl⟩ := same
  exact (link.sessionCall (link.creation _ agree)).onDaemonFailure fun _ _ => link.failAs ..

/-- A container is adopted alike. -/
theorem adopt (cid : Json) : link.Tied (Session.adopt cid) := by
  -- The id comes from the reply, so it is the same on both sides.
  refine amend (fun _ _ => rfl) fun _ _ _ => (link.advance _).andThen fun _ => ?_
  unfold Session.introduce
  cases shortened? cid with
  | none => exact alongside_throw _
  | some short =>
    exact (link.bindLogger _).andThen fun _ => (link.sessionLog ..).andThen fun _ =>
      alongside_pure rfl

/-- Containers are created alike, with commands that go together. -/
theorem create (repository branch : String) : link.Tied (Session.create repository branch) := by
  -- From here on the containers may differ in their commands, and the calls may show them.
  refine (link.resolveCommand repository branch).bind fun first second agree => ?_
  refine container.bind fun one two same => ?_
  obtain ⟨command, rfl⟩ := same
  refine (setContainer ⟨second, rfl⟩).andThen fun _ => ?_
  exact (link.requestContainer agree).andThen fun reply =>
    (alongside_ofExcept _).andThen fun cid => link.adopt cid

/-- A container is started alike. -/
theorem start : link.Tied Session.start := by
  -- The moment is the same, and the container is asked for by its id alone.
  refine (inWorld link.now).andThen fun moment => amend (fun _ _ => rfl) fun _ _ _ => ?_
  refine ofContainer (fun _ _ => rfl) fun _ => Alongside.andThen ?_ fun _ =>
    (link.advance _).andThen fun _ => link.sessionLog ..
  exact (link.tiedAsk (by decide) ..).discard.onDaemonFailure fun _ _ => link.endAs ..

/-- An exit is noted alike. -/
theorem noteExit (members : List (String × Json)) : link.Tied (Session.noteExit members) := by
  -- The reply decides whether there is an exit code, and it is the same on both sides.
  refine (alongside_ofExcept _).andThen fun code => amend (fun _ _ => rfl) fun _ _ _ => ?_
  dsimp only
  split
  · exact (alongside_ofExcept _).andThen fun _ => (link.sessionLog ..).andThen fun _ =>
      alongside_pure rfl
  · exact alongside_pure rfl

/-- A wait that took too long is cut off alike. -/
theorem cutOff {α : Type} (bound : Int) : link.Tied (Session.cutOff bound : Step Session α) :=
  (link.advance _).andThen fun _ => (link.sessionLog ..).andThen fun _ =>
    ofContainer (fun _ _ => rfl) fun _ => alongside_throw _

/-- A container is waited for alike. -/
theorem wait : link.Tied Session.wait := by
  refine Alongside.andThen ?_ fun reply => (alongside_ofExcept _).andThen fun _ => link.noteExit _
  refine alongside_get.bind fun left right sessions => ?_
  -- The time to wait does not depend on the private key.
  obtain ⟨key, same⟩ := link.sameButKey sessions.settings
  have bound : right.lifecycle.settings.waitTimeout = left.lifecycle.settings.waitTimeout := by
    rw [same]
  rw [bound]
  refine ofContainer (fun _ _ => rfl) fun _ =>
    (link.tiedAsk (by decide) ..).onDaemonFailure fun fault text => ?_
  split
  · exact link.cutOff _
  · exact link.endAs ..

/-- Output is read alike. -/
theorem readOutput : link.Tied Session.readOutput := by
  -- The outermost steps come first; what is cleaned up afterwards does not look at the command.
  refine (inWorld link.now).andThen fun moment => amend (fun _ _ => rfl) fun _ _ _ => ?_
  refine Alongside.andThen ?_ fun reply => (alongside_ofExcept _).andThen fun bytes =>
    amend (fun _ _ => rfl) fun _ _ _ => ofContainer (fun _ _ => rfl) fun _ =>
      (link.sessionLog ..).andThen fun _ => alongside_pure rfl
  refine Alongside.ensuring (ofContainer (fun _ _ => rfl) fun _ => ?_) (link.advance _)
  exact (link.tiedAsk (by decide) ..).onDaemonFailure fun _ _ => link.failAs ..

/-- An operation is about the same container in both. -/
theorem target (cid : Json) : link.Tied (Session.target cid) := by
  -- A given id is taken as it is, and otherwise it is that of the container, which both have.
  unfold Session.target
  split
  · exact alongside_pure rfl
  · exact ofContainer (fun _ _ => rfl) fun _ => alongside_pure rfl

/-- A container is stopped alike. -/
theorem stop (cid : Json) : link.Tied (Session.stop cid) :=
  (link.target cid).andThen fun _ =>
    ((link.tiedAsk (by decide) ..).discard.onDaemonFailure fun _ _ => link.failAs ..).andThen fun _ =>
      link.sessionLog ..

/-- Images are listed alike. -/
theorem listImages : link.Tied Session.listImages :=
  (link.tiedAsk (by decide) ..).onDaemonFailure fun _ _ => link.failAs ..

/-- An image is removed alike. -/
theorem removeImage (id : String) : link.Tied (Session.removeImage id) :=
  ((link.tiedAsk (by decide) ..).discard.onDaemonFailure fun _ _ => link.failAs ..).andThen fun _ =>
    link.sessionLog ..

/-- The image is made available alike. -/
theorem ensureImage : link.Tied Session.ensureImage := by
  refine alongside_get.bind fun left right sessions => ?_
  obtain ⟨key, settings⟩ := link.sameButKey sessions.settings
  obtain ⟨command, container⟩ := sessions.container
  -- Neither the image nor the time to wait for it depends on what may differ.
  have wanted : Availability.of right.lifecycle.container.image right.lifecycle.settings
      right.lifecycle.logger = Availability.of left.lifecycle.container.image
        left.lifecycle.settings left.lifecycle.logger := by
    rw [settings, container, sessions.logger]
    rfl
  dsimp only
  rw [wanted]
  exact inWorld (link.ensure _)

/-- Fresh lifecycles in worlds that are together make sessions that are. -/
theorem sessions_fresh {first second : Settings} (settings : link.settings first second)
    {connector : Connector} (connects : link.Connects connector) {left right : World}
    (together : link.together left right) (image : Image) (template : String) :
    link.Sessions ⟨.fresh image template first connector, left⟩
      ⟨.fresh image template second connector, right⟩ :=
  ⟨together, settings, rfl, rfl, .refl _, rfl, rfl, connects⟩

/-- A container that is there is attended to alike. -/
theorem execute : link.Tied Session.execute :=
  link.start.andThen fun _ => link.wait.discard.andThen fun _ => link.readOutput.discard

end World.Link

namespace World.Bond

variable (bond : Bond)

/-- A container is removed alike. -/
theorem remove (cid : Json) (force : Bool) : bond.Tied (Session.remove cid force) :=
  (bond.target cid).andThen fun _ =>
    ((bond.sessionCall (bond.call ..)).discard.onDaemonFailure fun _ _ =>
      bond.failAs ..).andThen fun _ => bond.sessionLog ..

/-- What is left is cleared up alike. -/
theorem cleanup : bond.Tied Session.cleanup :=
  (bond.remove .null true).handling _ fun _ => alongside_pure rfl

/-- A scanner is run alike, and the containers that come of it are the same but for their
command. -/
theorem run (repository branch : String) :
    Alongside bond.Sessions Container.SameButCommand (Session.run repository branch)
      (Session.run repository branch) :=
  bond.connect.andThen fun _ => bond.ensureImage.andThen fun _ =>
    (bond.create repository branch).discard.andThen fun _ =>
      (bond.execute.ensuring bond.cleanup).andThen fun _ => Link.container

end World.Bond

end ContainerScan
