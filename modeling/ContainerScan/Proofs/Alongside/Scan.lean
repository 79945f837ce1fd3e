import ContainerScan.CommandLine.Run
import ContainerScan.Proofs.Alongside.Lifecycle
import ContainerScan.Scan

/-! Scans and command lines in worlds that stay together. -/

namespace ContainerScan

open Step

/-- Outcomes with the same verdict, on containers that are the same but for their command. -/
structure ScanOutcome.SameButCommand (first second : ScanOutcome) : Prop where
  container : first.container.SameButCommand second.container
  verdict : second.verdict = first.verdict

/-- The summary of an outcome does not show the command. -/
theorem ScanOutcome.SameButCommand.summary {first second : ScanOutcome}
    (same : first.SameButCommand second) :
    Display.containerSummary second.container (second.verdict.map Verdict.text) =
      Display.containerSummary first.container (first.verdict.map Verdict.text) := by
  obtain ⟨command, container⟩ := same.container
  rw [container, same.verdict]
  rfl

/-- Outcomes with the same verdict are passed alike. -/
theorem ScanOutcome.SameButCommand.passed {first second : ScanOutcome}
    (same : first.SameButCommand second) : second.passed = first.passed := by
  unfold ScanOutcome.passed
  rw [same.verdict]

namespace World.Bond

open Link

variable (bond : Bond)

/-- Containers that are the same but for their command are recorded and judged alike. -/
theorem judge {first second : Container} (same : first.SameButCommand second) (template : String)
    (analyzer : Analyzer) (target : Target) :
    Alongside bond.together ScanOutcome.SameButCommand (Scan.judge template analyzer target first)
      (Scan.judge template analyzer target second) := by
  refine (bond.save same _).andThen fun record => ?_
  -- Neither the output nor what is logged of a container is its command.
  have outcomes (verdict : Option Verdict) :
      (ScanOutcome.mk first verdict).SameButCommand ⟨second, verdict⟩ := ⟨same, rfl⟩
  obtain ⟨command, rfl⟩ := same
  exact (bond.evaluate bond.update ..).andThen fun verdict => (bond.log ..).andThen fun _ =>
    alongside_pure (outcomes verdict)

/-- A scan is made alike. -/
theorem scan (analyzer : Analyzer) (target : Target) :
    Alongside bond.Sessions ScanOutcome.SameButCommand (Scan.run analyzer target)
      (Scan.run analyzer target) := by
  -- The logger is made of the image, which is the same on both sides.
  refine alongside_get.bind fun left right sessions => ?_
  obtain ⟨command, container⟩ := sessions.container
  have image : right.lifecycle.container.image = left.lifecycle.container.image := by
    rw [container]
  dsimp only
  rw [image, sessions.template]
  exact (inWorld (bond.log ..)).andThen fun _ =>
    ((bond.run _ _).ensuring bond.close).bind fun first second same =>
      inWorld (bond.judge same ..)

/-! Command lines. -/

/-- Lifecycles that make sessions that are together of any worlds that are. -/
def Lifecycles (first second : Lifecycle) : Prop :=
  ∀ left right, bond.together left right → bond.Sessions ⟨first, left⟩ ⟨second, right⟩

/-- Lifecycles under the settings of their worlds go together. -/
theorem lifecycleOf (present : String → Bool) (image : Image) (template : String) :
    Alongside bond.together bond.Lifecycles (CommandLine.lifecycleOf present image template)
      (CommandLine.lifecycleOf present image template) :=
  alongside_get.bind fun _ _ states => alongside_pure fun _ _ together =>
    bond.sessions_fresh (bond.process states) (bond.connects_secured present) together
      image template

variable {bond}

/-- Activities of lifecycles that go together do so as activities of their surroundings. -/
theorem withLifecycle {α β : Type} {values : α → β → Prop} {first second : Lifecycle}
    {act : Step Session α} {other : Step Session β} (lifecycles : bond.Lifecycles first second)
    (tied : Alongside bond.Sessions values act other) :
    Alongside bond.together values (CommandLine.withLifecycle first act)
      (CommandLine.withLifecycle second other) := by
  -- The lifecycles are forgotten in the end, and their worlds are together.
  refine ⟨fun left right states => ?_⟩
  have ends := tied.ends _ _ (lifecycles left right states)
  unfold CommandLine.withLifecycle
  generalize act _ = one at ends ⊢
  generalize other _ = two at ends ⊢
  cases ends with
  | ok agree sessions => exact .ok agree sessions.world
  | error failure sessions => exact .error failure sessions.world

variable (bond)

/-- Blocks are printed alike. -/
theorem printAll (blocks : List Display.Block) : bond.Steady (World.printAll blocks) := by
  induction blocks with
  | nil => exact alongside_pure rfl
  | cons block rest ih => exact (bond.print block).andThen fun _ => ih

variable {bond}

/-- What is left of values that agree, where a failure leaves nothing. -/
theorem orComplain {α β : Type} {values : Option α → Option β → Prop} {act : Step World (Option α)}
    {other : Step World (Option β)} (steady : Alongside bond.together values act other)
    (nothing : values none none) (handles : Failure → Bool) (label : String) :
    Alongside bond.together values (CommandLine.orComplain handles label act)
      (CommandLine.orComplain handles label other) :=
  steady.handling _ fun _ => (bond.print _).andThen fun _ => alongside_pure nothing

/-- The daemon is administered alike. -/
theorem administer {α : Type} {act : Step Session α} (tied : bond.Tied act)
    (present : String → Bool) : bond.Steady (CommandLine.administer present act) := by
  -- The client is given back on both sides, whether or not the activity succeeds.
  have within : bond.Tied (Session.connect >>= fun _ => ensuring act Session.close) :=
    bond.connect.andThen fun _ => tied.ensuring bond.close
  refine orComplain ?_ rfl ..
  exact (bond.lifecycleOf ..).bind fun _ _ lifecycles =>
    (withLifecycle lifecycles within).andThen fun _ => alongside_pure rfl

variable (bond)

/-- What came of a command is shown alike. -/
theorem showing {α : Type} (result : Option α) (blocks : α → List Display.Block) :
    bond.Steady (CommandLine.showing result blocks) := by
  cases result with
  | none => exact alongside_pure rfl
  | some value => exact (bond.printAll _).andThen fun _ => alongside_pure rfl

/-- A scan is made and summed up alike. -/
theorem runScan (present : String → Bool) (scan : CommandLine.ScanRequest) :
    bond.Steady (CommandLine.runScan present scan) := by
  -- What is shown in the end is made of a container without a look at its command.
  have performed : Alongside bond.together
      (fun one two => Option.Rel ScanOutcome.SameButCommand one two)
      (some <$> CommandLine.performScan present scan)
      (some <$> CommandLine.performScan present scan) := by
    refine Alongside.map ?_ fun _ _ => Option.Rel.some
    exact bond.prepare.andThen fun _ => (bond.lifecycleOf ..).bind fun _ _ lifecycles =>
      withLifecycle lifecycles (bond.scan ..)
  refine (bond.printAll _).andThen fun _ => Alongside.bind
    (orComplain (orComplain performed .none ..) .none ..) fun first second same => ?_
  rcases same with agree | _
  · dsimp only
    rw [agree.summary, agree.passed]
    exact (bond.printAll _).andThen fun _ => alongside_pure rfl
  · exact alongside_pure rfl

/-- A command line is carried out alike. -/
theorem commandLine (present : String → Bool) (arguments : List String) :
    bond.Steady (CommandLine.run present arguments) := by
  -- The arguments mean the same on both sides, and each meaning has a lemma of its own.
  unfold CommandLine.run
  cases CommandLine.Meaning.ofArguments arguments with
  | help => exact (bond.printPlain _).andThen fun _ => alongside_pure rfl
  | version => exact (bond.printPlain _).andThen fun _ => alongside_pure rfl
  | misuse misuse => exact (bond.printPlain _).andThen fun _ => alongside_pure rfl
  | request request =>
    cases request with
    | run scan => exact bond.runScan present scan
    -- The check makes a client of its own, so that no administrator is around it.
    | health =>
      refine Alongside.andThen (orComplain ?_ rfl ..) fun _ => bond.showing ..
      exact alongside_get.bind fun _ _ states =>
        (bond.health (bond.process states) (bond.connects_secured present)).andThen fun _ =>
          alongside_pure rfl
    | listImages =>
      refine (administer bond.listImages present).andThen fun listed => ?_
      cases listed with
      | none => exact alongside_pure rfl
      | some reply =>
        exact (alongside_ofExcept _).andThen fun _ => (bond.print _).andThen fun _ =>
          alongside_pure rfl
    | removeImage id =>
      exact (administer (bond.removeImage id) present).andThen fun _ => bond.showing ..
    | stopContainer cid =>
      exact (administer (bond.stop _) present).andThen fun _ => bond.showing ..
    | removeContainer cid =>
      exact (administer (bond.remove _ _) present).andThen fun _ => bond.showing ..
    | showRecord cid =>
      refine Alongside.andThen (orComplain ((bond.get cid).map fun _ _ => congrArg some) rfl ..)
        fun found => ?_
      rcases found with _ | _ | record
      · exact alongside_pure rfl
      · exact (bond.print _).andThen fun _ => alongside_pure rfl
      · exact (bond.printAll _).andThen fun _ => alongside_pure rfl
    | prepareStore =>
      exact (orComplain (bond.prepare.map fun _ _ => congrArg some) rfl ..).andThen fun _ =>
        bond.showing ..

end World.Bond

end ContainerScan
