import ContainerScan.Availability
import ContainerScan.Connection
import ContainerScan.Proofs.World

/-! Before there is a container: a client is opened, and the image looked up and pulled. -/

namespace ContainerScan

open Step World

/-- A named operation asks what the activity in it asks. -/
theorem World.asOperation_asked {α : Type} {queries : List Query} {act : Step World α}
    {world : World} (asked : Asked queries world (after act world)) (logger : Logger)
    (message : String) (fields : Event) (name : String) (cid : Json) :
    Asked queries world (after (asOperation logger message fields name cid act) world) :=
  -- Behind a failure of the daemon there is only an event.
  asked.onDaemonFailure fun _ _ middle =>
    (log_asked _ _ _ _ middle).bind fun _ final => Asked.refl final

/-- A named operation asks with the methods of the activity in it. -/
theorem World.asOperation_follows {α : Type} {methods : List Method} {act : Step World α}
    (asks : Follows (Asks methods) act) (logger : Logger) (message : String) (fields : Event)
    (name : String) (cid : Json) :
    Follows (Asks methods) (asOperation logger message fields name cid act) := by
  refine ⟨fun world => ?_⟩
  obtain ⟨queries, asked, within⟩ := asks.leads world
  exact (asOperation_asked asked ..).asks within

namespace Availability

/-- The methods with which an image is waited for. -/
def methods : List Method := [.images, .pull]

variable (wanted : Availability)

/-- What a check for the image asks. -/
def lookup : Query :=
  ⟨.images, [], [("name", .string wanted.image.reference)]⟩

/-- What a pull of the image asks. -/
def pulling : Query :=
  ⟨.pull, wanted.pullArguments.1, wanted.pullArguments.2⟩

/-- What may be asked for the image: whether it is there, or that it is pulled. -/
def IsOwn (query : Query) : Prop :=
  query = wanted.lookup ∨ query = wanted.pulling

/-- Looking an image up asks for it once. -/
theorem isLoaded_asked (world : World) :
    Asked [wanted.lookup] world (after wanted.isLoaded world) := by
  -- Behind the one call its reply is only looked at.
  refine (asOperation_asked (call_asked wanted.lookup world) ..).bind fun images middle => ?_
  cases images.length? with
  | some count => exact Asked.refl middle
  | none => exact Asked.refl middle

/-- A check asks for the image. -/
theorem check_asksOnly : Follows (AsksOnly wanted.IsOwn) wanted.check := by
  -- A check is a lookup, and what it makes of the answer asks nothing.
  have asks : Follows (AsksOnly wanted.IsOwn) wanted.isLoaded :=
    ⟨fun world => ⟨_, wanted.isLoaded_asked world, by simp [IsOwn]⟩⟩
  refine asks.bind fun loaded => ?_
  cases loaded with
  | true => exact follows_pure _
  | false => exact follows_throw _

/-- A pull asks for itself once, whether or not it is given up. -/
theorem pullWithin_asked (limit : Option Rat) (world : World) :
    Asked [wanted.pulling] world (after (wanted.pullWithin limit) world) := by
  obtain ⟨events, announced⟩ :
      ∃ events, wanted.announcePull world = .ok () { world with events := events } :=
    log_apply ..
  let ready : World := { world with events := events }
  have called : Asked [wanted.pulling] ready (after (wanted.pullCall limit) ready) := by
    -- With a limit the pull may be given up, and without one it is waited for.
    cases limit with
    | some seconds => exact callWithin_asked seconds wanted.pulling ready
    | none => exact (call_asked wanted.pulling ready).bind fun _ middle => Asked.refl middle
  have onward : wanted.pullWithin limit world = _ := bind_of_ok announced _
  rw [after_of_eq onward]
  exact (asked_events world events).trans
    ((asOperation_asked called ..).bind fun _ middle => Asked.refl middle)

/-- A pause asks nothing. -/
theorem pause_asksOnly (kind : Query → Prop) (interval : Binary64) (rest : Option Rat) :
    Follows (AsksOnly kind) (pause interval rest) := by
  -- Whichever length the pause has, it is slept, and one without end is not begun.
  unfold pause
  split
  · exact sleep_asksOnly ..
  · split
    · exact sleep_asksOnly ..
    · exact sleep_asksOnly ..
    · exact sleep_asksOnly ..
    · exact follows_throw _

/-- The time that is left is known without asking. -/
theorem remaining_asksOnly (kind : Query → Prop) (deadline : Deadline) :
    Follows (AsksOnly kind) (remaining deadline) :=
  follows_get.bind fun _ => follows_pure _

/-- Whether the image is there is found out by a check. -/
theorem found_asksOnly (number : Nat) : Follows (AsksOnly wanted.IsOwn) (wanted.found number) := by
  refine Follows.bind ?_ fun _ => (log_asksOnly ..).bind fun _ => follows_pure _
  exact (wanted.check_asksOnly.bind fun _ => follows_pure _).handling _ fun _ => follows_pure _

/-- A pull and a pause ask for nothing but the pull. -/
theorem pullAndPause_asksOnly (deadline : Deadline) (number : Nat) :
    Follows (AsksOnly wanted.IsOwn) (wanted.pullAndPause deadline number) := by
  have pulls (limit : Option Rat) : Follows (AsksOnly wanted.IsOwn) (wanted.pullInTime limit) := by
    -- That a pull reports to have taken too long is made of it without asking.
    have asks : Follows (AsksOnly wanted.IsOwn) (wanted.pullWithin limit) :=
      ⟨fun world => ⟨_, wanted.pullWithin_asked limit world, by simp [IsOwn]⟩⟩
    exact asks.handling _ fun _ => follows_pure _
  refine (remaining_asksOnly _ deadline).bind fun rest => (pulls _).bind fun pulled => ?_
  cases pulled with
  | true =>
    exact (remaining_asksOnly _ deadline).bind fun _ =>
      (pause_asksOnly ..).bind fun _ => follows_pure _
  | false => exact (log_asksOnly ..).bind fun _ => follows_pure _

/-- An attempt asks for the image, and to pull it at most. -/
theorem attempt_asksOnly (deadline : Deadline) (number : Nat) :
    Follows (AsksOnly wanted.IsOwn) (wanted.attempt deadline number) := by
  -- Only an image that is not there is pulled, and only before the deadline.
  refine (wanted.found_asksOnly number).bind fun present => ?_
  cases present with
  | true => exact follows_pure _
  | false =>
    refine (remaining_asksOnly _ deadline).bind fun rest => ?_
    split
    · exact follows_pure _
    · exact wanted.pullAndPause_asksOnly deadline number

/-- Attempts ask for the image and pull it alone, however many there are. -/
theorem attempts_asksOnly (deadline : Deadline) (left number : Nat) :
    Follows (AsksOnly wanted.IsOwn) (wanted.attempts deadline left number) := by
  -- Each attempt leaves one fewer, and the last one gives up without asking.
  induction left generalizing number with
  | zero => exact follows_throw _
  | succ left ih =>
    refine (wanted.attempt_asksOnly deadline number).bind fun attempt => ?_
    cases attempt with
    | available => exact follows_pure _
    | expired => exact (log_asksOnly ..).bind fun _ => follows_throw _
    | again => exact ih (number + 1)

/-- Waiting for an image asks for that image and pulls it alone. -/
theorem ensure_asksOnly : Follows (AsksOnly wanted.IsOwn) wanted.ensure :=
  follows_get.bind fun _ => wanted.attempts_asksOnly ..

/-- Waiting for an image asks for images and pulls alone. -/
theorem ensure_follows : Follows (Asks methods) wanted.ensure := by
  -- The queries of a wait are lookups and pulls, each by its own method.
  refine wanted.ensure_asksOnly.mono fun _ _ asks => asks.asks fun query own => ?_
  rcases own with rfl | rfl
  · exact List.mem_cons_self
  · exact List.mem_cons_of_mem _ List.mem_cons_self

end Availability

/-- A connector that does nothing but connect: it has no part in records or in containers. -/
def Connector.OnlyConnects (connector : Connector) : Prop :=
  ∀ settings, Follows (Asks [.connect]) (connector settings)

/-- Opening a client asks for a connection alone. -/
theorem World.openClient_follows : Follows (Asks [.connect]) openClient := by
  -- Without a word of the script on it a client is opened by itself, and nothing is asked.
  refine ⟨fun world => ?_⟩
  cases named : world.script .connect (world.callCount .connect) with
  | none => simpa [after, openClient, named] using refl world
  | some outcome =>
    have asks : Follows (Asks [.connect]) (discard (call .connect)) :=
      (call_follows (by decide) [] []).discard
    have asks := asks.leads world
    simpa [after, openClient, named] using asks

namespace Connection

/-- The direct connector only connects. -/
theorem direct_onlyConnects : Connector.OnlyConnects direct :=
  fun _ => openClient_follows

/-- A connection that is given up asks nothing. -/
theorem giveUp_follows (message : String) (fields : Event) (reason : String) :
    Follows (Asks [.connect]) (giveUp message fields reason) :=
  (log_follows ..).bind fun _ => follows_throw _

/-- The connector with certificates only connects. -/
theorem secured_onlyConnects (present : String → Bool) :
    Connector.OnlyConnects (secured present) := by
  intro settings
  -- Certificates that are missing end it before a client is opened.
  unfold secured
  cases options settings present with
  | error message => exact giveUp_follows ..
  | ok found =>
    refine (openClient_follows.onDaemonFailure fun fault text => ?_).bind fun _ => log_follows ..
    split
    · exact follows_throw _
    · exact giveUp_follows ..

end Connection

end ContainerScan
