import ContainerScan.Log.Event
import ContainerScan.Proofs.Alongside.Scan
import ContainerScan.Proofs.Lifecycle.Sequence
import ContainerScan.Proofs.Record.Requests
import ContainerScan.Proofs.Text.Masking
import Mathlib.Data.List.Forall2

/-! Redaction: no event that is written shows the private key at its top. -/

namespace ContainerScan

/-- A key that can be told from what is logged in its place: not empty, without a bracket, and no
part of the word between them. -/
structure Redactable (key : String) : Prop where
  nonempty : key ≠ ""
  opening : '[' ∉ key.toList
  closing : ']' ∉ key.toList
  word : Text.contains "redacted" key = false

/-- No text at the top of an event holds the key. -/
def Event.Hides (key : String) (event : Event) : Prop :=
  ∀ member ∈ event, ∀ text, member.2 = .string text → Text.contains text key = false

/-- What redaction does to a value: unless it is a text with the key in it, nothing. -/
def Json.KeptWithout (key : String) (before after : Json) : Prop :=
  (∀ text, before = .string text → Text.contains text key = false) → after = before

/-- What redaction makes of a text does not hold the key. -/
theorem Redactable.contains_replace {key : String} (redactable : Redactable key) (text : String) :
    Text.contains (Text.replace key redaction text) key = false := by
  -- The key is not in the word itself, and the marks around it join to no part of the key.
  have nonempty : key.toList ≠ [] := fun empty =>
    redactable.nonempty (String.toList_eq_nil_iff.mp empty)
  have absent : ¬key.toList <:+: "redacted".toList := by
    rw [← Text.occursIn_iff, Bool.not_eq_true]
    exact redactable.word
  rw [Text.contains, Text.replace, String.toList_ofList, Bool.eq_false_iff, ne_eq,
    Text.occursIn_iff]
  exact Text.not_infix_replaceAll nonempty redactable.opening redactable.closing absent text.toList

/-- A redacted value is no text that holds the key. -/
theorem Redactable.hidden {key : String} (redactable : Redactable key) {value : Json}
    {text : String} (redacted : redactValue key value = .string text) :
    Text.contains text key = false := by
  -- What is redacted is a text, in which the key was replaced or was not found.
  cases value with
  | string before =>
    unfold redactValue at redacted
    dsimp only at redacted
    split at redacted
    · cases redacted
      exact redactable.contains_replace before
    · rename_i absent
      cases redacted
      simpa using absent
  | _ => cases redacted

/-- A value stays as it is, unless it is a text with the key in it. -/
theorem redactValue_kept (key : String) (value : Json) :
    value.KeptWithout key (redactValue key value) := by
  -- Only a text that has the key in it is changed.
  intro absent
  unfold redactValue
  cases value with
  | string text =>
    dsimp only
    rw [if_neg (by simp [absent text rfl])]
  | _ => rfl

/-- A key that can be redacted is redacted value by value. -/
theorem Redactable.redact_eq {key : String} (redactable : Redactable key) (event : Event) :
    redact key event = event.map fun member => (member.1, redactValue key member.2) :=
  if_neg redactable.nonempty

/-- What redaction makes of an event. -/
structure Redacts (key : String) (event : Event) : Prop where
  /-- The key does not show in any text at the top. -/
  hides : (redact key event).Hides key
  /-- All names are as they were, and so are all values that are no texts with the key in them. -/
  keeps : List.Forall₂ (fun before after => after.1 = before.1 ∧ before.2.KeptWithout key after.2)
    event (redact key event)
  /-- Another redaction changes nothing. -/
  again : redact key (redact key event) = redact key event

/-- Redaction hides a key that can be redacted, and leaves all else as it is. -/
theorem Redactable.redacts {key : String} (redactable : Redactable key) (event : Event) :
    Redacts key event := by
  have hides : (redact key event).Hides key := by
    intro member there text named
    rw [redactable.redact_eq] at there
    obtain ⟨before, _, rfl⟩ := List.mem_map.mp there
    exact redactable.hidden named
  refine ⟨hides, ?_, ?_⟩
  · rw [redactable.redact_eq, List.forall₂_map_right_iff, List.forall₂_same]
    exact fun member _ => ⟨rfl, redactValue_kept key member.2⟩
  · -- Where the key does not show any more, every value is kept.
    have same : ∀ member ∈ redact key event,
        (member.1, redactValue key member.2) = id member := fun member there =>
      congrArg (Prod.mk member.1) (redactValue_kept key member.2 (hides member there))
    rw [redactable.redact_eq (redact key event), List.map_congr_left same, List.map_id]

namespace World

/-- Between two worlds nothing was logged that shows the private key, if that can be redacted. -/
structure Masked (before after : World) : Prop where
  settings : after.settings = before.settings
  events : ∃ written, after.events = before.events ++ written ∧
    (Redactable before.settings.sshKey → ∀ event ∈ written, event.Hides before.settings.sshKey)

/-- What is masked stays so by going on in the same way. -/
instance : IsPreorder World Masked where
  -- Events are added behind one another, and the key stays the same.
  refl world := ⟨rfl, [], (List.append_nil _).symm, by simp⟩
  trans first second third one two := by
    obtain ⟨earlier, grown, hides⟩ := one.events
    obtain ⟨later, grownOn, hidesOn⟩ := two.events
    rw [one.settings] at hidesOn
    refine ⟨two.settings.trans one.settings, earlier ++ later, ?_, ?_⟩
    · rw [grownOn, grown, List.append_assoc]
    · intro redactable event member
      rcases List.mem_append.mp member with member | member
      · exact hides redactable event member
      · exact hidesOn redactable event member

open Step

/-- An activity that writes no event and leaves the settings is masked. -/
theorem masked_of_quiet {α : Type} {act : Step World α}
    (settings : ∀ world, (after act world).settings = world.settings)
    (events : ∀ world, (after act world).events = world.events) : Follows Masked act :=
  ⟨fun world => ⟨settings world, [], by rw [events, List.append_nil], by simp⟩⟩

/-- An event is redacted before it is written. -/
theorem log_masked (logger : Logger) (level : Level) (message : String) (fields : Event) :
    Follows Masked (log logger level message fields) := by
  -- What the level drops is not written, and all else is redacted on its way.
  refine ⟨fun world => ?_⟩
  by_cases dropped : level.rank < world.settings.logLevel.rank
  · have logged : log logger level message fields world = .ok () world := if_pos dropped
    rw [after_of_ok logged]
    exact refl world
  · have logged : log logger level message fields world = .ok () { world with
        events := world.events ++
          [redact world.settings.sshKey (logger.event level message fields)] } := if_neg dropped
    rw [after_of_ok logged]
    refine ⟨rfl, _, rfl, fun redactable event member => ?_⟩
    obtain rfl := List.mem_singleton.mp member
    exact (redactable.redacts _).hides

/-- A call writes no event. -/
theorem call_masked (method : Method) (positional : List Json) (named : List (String × Json)) :
    Follows Masked (call method positional named) := by
  -- Answered or refused, a call writes nothing.
  have ended (world : World) : after (call method positional named) world =
      world.afterCall method positional named (world.nextOutcome method).delay := by
    cases answered : (world.nextOutcome method).result <;> simp [after, call, answered]
  exact masked_of_quiet (fun world => by rw [ended]; rfl) (fun world => by rw [ended]; rfl)

/-- A call that may be given up writes no event. -/
theorem callWithin_masked (limit : Rat) (method : Method) (positional : List Json)
    (named : List (String × Json)) :
    Follows Masked (callWithin limit method positional named) := by
  refine masked_of_quiet (fun world => ?_) (fun world => ?_) <;>
    obtain ⟨seconds, ended⟩ := after_callWithin limit method positional named world <;>
      rw [ended] <;> rfl

/-- A request to the store writes no event. -/
theorem changeStore_masked {α : Type} (change : Store → Except Failure (Store × α)) :
    Follows Masked (Keeping.changeStore change) := by
  -- Whether the store is down, refuses or changes, nothing is written.
  have quiet (world : World) :
      (after (Keeping.changeStore change) world).settings = world.settings ∧
        (after (Keeping.changeStore change) world).events = world.events := by
    unfold after Keeping.changeStore
    cases world.outages world.requests with
    | some failure => exact ⟨rfl, rfl⟩
    | none => cases change world.store <;> exact ⟨rfl, rfl⟩
  exact masked_of_quiet (fun world => (quiet world).1) fun world => (quiet world).2

/-- A client is opened without an event. -/
theorem openClient_masked : Follows Masked openClient := by
  -- Without a word in the script no call is made.
  refine ⟨fun world => ?_⟩
  cases named : world.script .connect (world.callCount .connect) with
  | none => simpa [after, openClient, named] using refl world
  | some outcome =>
    have masked := (call_masked .connect [] []).discard.leads world
    simpa [after, openClient, named] using masked

/-- A block is printed without an event. -/
theorem print_masked (block : Display.Block) : Follows Masked (print block) := by
  -- What is printed goes elsewhere, and so does what is refused.
  have quiet (world : World) : (after (print block) world).settings = world.settings ∧
      (after (print block) world).events = world.events := by
    unfold after print
    cases block.lines <;> exact ⟨rfl, rfl⟩
  exact masked_of_quiet (fun world => (quiet world).1) fun world => (quiet world).2

/-- A command gets its private key with a warning at most. -/
theorem withKey_masked (command : String) (key : Option String) :
    Follows Masked (Command.withKey command key) := by
  -- An insertion is logged by its own event, which is redacted like all others.
  refine follows_get.bind fun world => ?_
  unfold Command.insertKeyLogged
  split
  · exact (log_masked ..).bind fun _ => follows_pure _
  · exact follows_pure _

/-- A template is resolved with a warning at most. -/
theorem resolveLogged_masked (repository branch template : String) (key : Option String) :
    Follows Masked (Command.resolveLogged repository branch template key) := by
  -- An empty command gets no key.
  unfold Command.resolveLogged
  dsimp only
  split
  · exact follows_pure _
  · exact withKey_masked _ key

/-- A world and itself stay together as long as everything that is logged since some start is
masked. -/
def maskBond (start : World) : Bond where
  together left right := left = right ∧ Masked start left
  settings := Eq
  commands := Eq
  process states := congrArg World.settings states.1
  sameButKey := @Settings.sameButKey_of_eq
  clock states := congrArg World.clock states.1
  -- Whatever writes to the log goes through the same redaction, and the rest writes nothing.
  log _ _ _ _ := alongside_of_follows (log_masked ..) start
  call _ _ _ := alongside_of_follows (call_masked ..) start
  callWithin _ _ _ _ := alongside_of_follows (callWithin_masked ..) start
  sleep _ := alongside_of_follows (masked_of_quiet (fun _ => rfl) fun _ => rfl) start
  openClient := alongside_of_follows openClient_masked start
  closeClient := alongside_of_follows (masked_of_quiet (fun _ => rfl) fun _ => rfl) start
  noteUpdate _ _ := alongside_of_follows (masked_of_quiet (fun _ => rfl) fun _ => rfl) start
  changeStore change := alongside_of_follows (changeStore_masked change) start
  print block := alongside_of_follows (print_masked block) start
  printPlain _ := alongside_of_follows (masked_of_quiet (fun _ => rfl) fun _ => rfl) start
  resolve _ _ _ := alongside_of_follows (resolveLogged_masked ..) start
  given := @given_of_eq
  creation _ _ _ same := by
    rw [same]
    exact alongside_of_follows (call_masked ..) start

/-- An activity that is steady from every start is masked. -/
theorem masked_of_steady {α : Type} {act : Step World α}
    (steady : ∀ start, (maskBond start).Steady act) : Follows Masked act :=
  ⟨fun world =>
    have together : (maskBond world).together world world := ⟨rfl, refl world⟩
    ((steady world).ends world world together).after.2⟩

/-- Every action on a lifecycle is taken alike. -/
theorem Bond.act (bond : Bond) (action : Session.Action) : bond.Tied action.act := by
  -- Each action has a lemma of its own.
  cases action with
  | connect => exact bond.connect
  | requireClient => exact bond.requireClient
  | create repository branch => exact (bond.create repository branch).discard
  | start => exact bond.start
  | wait => exact bond.wait.discard
  | readOutput => exact bond.readOutput.discard
  | run repository branch => exact (bond.run repository branch).discard
  | cleanup => exact bond.cleanup
  | stop cid => exact bond.stop cid
  | remove cid force => exact bond.remove cid force
  | listImages => exact bond.listImages.discard
  | removeImage id => exact bond.removeImage id
  | close => exact bond.close
  | advance status => exact bond.advance status

/-- Sessions that are together stay so over any number of actions. -/
theorem Bond.pursue (bond : Bond) (actions : List Session.Action) {left right : Session}
    (sessions : bond.Sessions left right) :
    bond.Sessions (Session.pursue actions left) (Session.pursue actions right) := by
  induction actions generalizing left right with
  | nil => exact sessions
  | cons action rest ih => exact ih ((bond.act action).ends _ _ sessions).after

end World

open Step

/-- A connector that logs nothing which shows the private key. -/
def Connector.Masks (connector : Connector) : Prop :=
  ∀ settings, Follows World.Masked (connector settings)

namespace Connection

/-- The direct connector logs nothing. -/
theorem direct_masks : Connector.Masks direct :=
  fun _ => World.openClient_masked

/-- The connector with certificates logs nothing which shows the private key. -/
theorem secured_masks (present : String → Bool) : Connector.Masks (secured present) :=
  fun _ => World.masked_of_steady fun start => (World.maskBond start).connects_secured present rfl

end Connection

/-- A connector that masks the private key goes together with itself. -/
theorem Connector.Masks.connects {connector : Connector} (masks : connector.Masks) (start : World) :
    (World.maskBond start).Connects connector := by
  rintro settings _ rfl
  exact alongside_of_follows (masks settings) start

/-! Everything that the program does. -/

/-- Something that the program does, by itself or as a part of something larger. -/
inductive Operation where
  | log (logger : Logger) (level : Level) (message : String) (fields : Event)
  | insertKey (command : String) (key : Option String)
  | resolve (repository branch template : String) (key : Option String)
  | isLoaded (wanted : Availability)
  | check (wanted : Availability)
  | pull (wanted : Availability)
  | ensure (wanted : Availability)
  | health (settings : Settings) (connector : Connector)
  | live (lifecycle : Lifecycle) (actions : List Session.Action)
  | keep (request : Keeping.Request)
  | prepare
  | evaluate (analyzer : Analyzer) (cid raw : String)
  | scan (lifecycle : Lifecycle) (analyzer : Analyzer) (target : Target)
  | commandLine (present : String → Bool) (arguments : List String)

namespace Operation

/-- What is done, where the value that comes of it does not matter. -/
def act : Operation → Step World Unit
  | log logger level message fields => World.log logger level message fields
  | insertKey command key => discard (Command.withKey command key)
  | resolve repository branch template key =>
    discard (Command.resolveLogged repository branch template key)
  | isLoaded wanted => discard wanted.isLoaded
  | check wanted => wanted.check
  | pull wanted => wanted.pull
  | ensure wanted => wanted.ensure
  | health settings connector => Health.check settings connector
  | live lifecycle actions => fun world =>
    .ok () (Session.pursue actions ⟨lifecycle, world⟩).world
  | keep request => discard request.act
  | prepare => Keeping.prepare
  | evaluate analyzer cid raw => discard (analyzer.evaluate Keeping.update cid raw)
  | scan lifecycle analyzer target =>
    discard (CommandLine.withLifecycle lifecycle (Scan.run analyzer target))
  | commandLine present arguments => discard (CommandLine.run present arguments)

/-- The connectors that are used log nothing which shows the private key. -/
def ConnectorsMask : Operation → Prop
  | health _ connector => connector.Masks
  | live lifecycle _ => lifecycle.connector.Masks
  | scan lifecycle _ _ => lifecycle.connector.Masks
  | _ => True

/-- A lifecycle goes together with itself in a world that is together with itself. -/
theorem lifecycles {lifecycle : Lifecycle} (masks : lifecycle.connector.Masks) (start : World) :
    (World.maskBond start).Lifecycles lifecycle lifecycle :=
  fun _ _ together => ⟨together, rfl, rfl, rfl, .refl _, rfl, rfl, masks.connects start⟩

/-- Whatever the program does, it logs nothing which shows the private key. -/
theorem act_masked {operation : Operation} (masks : operation.ConnectorsMask) :
    Follows World.Masked operation.act := by
  -- Most operations run alongside themselves with masked events; the others write nothing but what
  -- is logged.
  cases operation with
  | log logger level message fields => exact World.log_masked ..
  | insertKey command key => exact (World.withKey_masked command key).discard
  | resolve repository branch template key => exact (World.resolveLogged_masked ..).discard
  | isLoaded wanted =>
    exact World.masked_of_steady fun start => ((World.maskBond start).isLoaded wanted).discard
  | check wanted => exact World.masked_of_steady fun start => (World.maskBond start).check wanted
  | pull wanted =>
    exact World.masked_of_steady fun start =>
      ((World.maskBond start).pullWithin wanted none).discard
  | ensure wanted => exact World.masked_of_steady fun start => (World.maskBond start).ensure wanted
  | health settings connector =>
    exact World.masked_of_steady fun start =>
      (World.maskBond start).health rfl (Connector.Masks.connects masks start)
  | live lifecycle actions =>
    refine ⟨fun world => ?_⟩
    have together : (World.maskBond world).together world world := ⟨rfl, refl world⟩
    have sessions := lifecycles masks world world world together
    exact ((World.maskBond world).pursue actions sessions).world.2
  | keep request =>
    cases request with
    | save container origin =>
      exact World.masked_of_steady fun start =>
        (((World.maskBond start).save (.refl _) origin).map fun _ _ => congrArg some).discard
    | update cid fields =>
      exact World.masked_of_steady fun start =>
        (((World.maskBond start).update cid fields).andThen fun _ => alongside_pure rfl).discard
    | get cid => exact World.masked_of_steady fun start => ((World.maskBond start).get cid).discard
  | prepare => exact World.masked_of_steady fun start => (World.maskBond start).prepare
  | evaluate analyzer cid raw =>
    exact World.masked_of_steady fun start =>
      ((World.maskBond start).evaluate (World.maskBond start).update analyzer cid raw).discard
  | scan lifecycle analyzer target =>
    exact World.masked_of_steady fun start =>
      (World.Bond.withLifecycle (lifecycles masks start)
        ((World.maskBond start).scan analyzer target)).discard
  | commandLine present arguments =>
    exact World.masked_of_steady fun start =>
      ((World.maskBond start).commandLine present arguments).discard

/-- A world after operations, of which any may have failed. -/
def perform (operations : List Operation) (world : World) : World :=
  operations.foldl (fun world operation => after operation.act world) world

/-- Whatever the program does one after the other, it logs nothing which shows the private key. -/
theorem perform_masked {operations : List Operation}
    (masks : ∀ operation ∈ operations, operation.ConnectorsMask) (world : World) :
    World.Masked world (perform operations world) := by
  -- The induction follows the operations, each from the world that the one before has left.
  induction operations generalizing world with
  | nil => exact refl world
  | cons operation rest ih =>
    have first := (act_masked (masks operation List.mem_cons_self)).leads world
    exact IsTrans.trans _ _ _ first
      (ih (fun other member => masks other (List.mem_cons_of_mem _ member)) _)

end Operation

/-- Redaction of a key is complete: an event that went through it hides the key and is otherwise the
same, and whatever the program does, all the events that it writes hide the key. -/
structure RedactionComplete (key : String) : Prop where
  redacts : ∀ event, Redacts key event
  written : ∀ (operations : List Operation) (world : World), world.settings.sshKey = key →
    (∀ operation ∈ operations, operation.ConnectorsMask) →
    ∃ events, (Operation.perform operations world).events = world.events ++ events ∧
      ∀ event ∈ events, event.Hides key

/-- Redaction is complete for every key that can be told from what is logged in its place. -/
theorem redactionComplete_of_redactable {key : String} (redactable : Redactable key) :
    RedactionComplete key := by
  -- One part is about a single event, and the other about all that operations write.
  refine ⟨redactable.redacts, ?_⟩
  rintro operations world rfl masks
  obtain ⟨events, grown, hides⟩ := (Operation.perform_masked masks world).events
  exact ⟨events, grown, hides redactable⟩

/-- A key that begins as it ends is redacted, and does not come to light in a scanner's output that
cannot be read. -/
theorem redactionComplete_of_overlap :
    Redactable "aba" ∧ RedactionComplete "aba" ∧
      redact "aba" [("raw_output", .string "ababa [aba]"), ("cid", .int 7)] =
        [("raw_output", .string "[redacted]ba [[redacted]]"), ("cid", .int 7)] := by
  have redactable : Redactable "aba" := ⟨by decide, by decide, by decide, by decide⟩
  exact ⟨redactable, redactionComplete_of_redactable redactable, by decide +kernel⟩

end ContainerScan
