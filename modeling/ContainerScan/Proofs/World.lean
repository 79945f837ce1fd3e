import ContainerScan.Proofs.Step

/-! What an activity asks of the daemon, and what it leaves as it was. -/

namespace ContainerScan

/-- What is asked of the daemon in one call, whenever that is. -/
structure Query where
  method : Method
  positional : List Json := []
  named : List (String × Json) := []
  deriving DecidableEq, Repr

/-- What a call asks. -/
def Call.query (call : Call) : Query :=
  ⟨call.method, call.positional, call.named⟩

namespace World

/-- Two worlds with the same settings, the same daemon and the same records. -/
structure Alike (before after : World) : Prop where
  settings : after.settings = before.settings
  script : after.script = before.script
  updates : after.updates = before.updates
  store : after.store = before.store
  outages : after.outages = before.outages
  requests : after.requests = before.requests

/-- One world comes of another by exactly some queries to the daemon, and no change of records. -/
structure Asked (queries : List Query) (before after : World) : Prop
    extends Alike before after where
  calls : ∃ made, after.calls = before.calls ++ made ∧ made.map Call.query = queries

/-- One world comes of another by queries of one kind alone, and no change of records. -/
def AsksOnly (kind : Query → Prop) (before after : World) : Prop :=
  ∃ queries, Asked queries before after ∧ ∀ query ∈ queries, kind query

/-- One world comes of another by queries with some methods alone, and no change of records. -/
def Asks (methods : List Method) (before after : World) : Prop :=
  ∃ queries, Asked queries before after ∧ ∀ query ∈ queries, query.method ∈ methods

/-- A world is like itself. -/
theorem Alike.refl (world : World) : Alike world world :=
  ⟨rfl, rfl, rfl, rfl, rfl, rfl⟩

/-- What is like something like a world is like that world. -/
theorem Alike.trans {first second third : World} (one : Alike first second)
    (two : Alike second third) : Alike first third :=
  ⟨two.settings.trans one.settings, two.script.trans one.script, two.updates.trans one.updates,
    two.store.trans one.store, two.outages.trans one.outages, two.requests.trans one.requests⟩

/-- Nothing is asked where nothing happens. -/
theorem Asked.refl (world : World) : Asked [] world world :=
  ⟨Alike.refl world, [], by simp, rfl⟩

/-- Queries are asked one after the other. -/
theorem Asked.trans {earlier later : List Query} {first second third : World}
    (one : Asked earlier first second) (two : Asked later second third) :
    Asked (earlier ++ later) first third := by
  -- The later queries stand behind the earlier ones.
  obtain ⟨made, grown, same⟩ := one.calls
  obtain ⟨more, grownMore, sameMore⟩ := two.calls
  exact ⟨one.toAlike.trans two.toAlike, made ++ more,
    by rw [grownMore, grown, List.append_assoc], by rw [List.map_append, same, sameMore]⟩

/-- Each query adds one call of its method. -/
theorem Asked.callCount {queries : List Query} {before after : World}
    (asked : Asked queries before after) (method : Method) :
    after.callCount method =
      before.callCount method + queries.countP fun query => query.method = method := by
  -- Calls are counted by their method, which is the method of their query.
  obtain ⟨made, grown, same⟩ := asked.calls
  rw [World.callCount, World.callCount, grown, List.countP_append, ← same, List.countP_map]
  rfl

/-- What the daemon will answer to a method stays open until that method is called. -/
theorem Asked.nextOutcome {queries : List Query} {before after : World}
    (asked : Asked queries before after) {method : Method}
    (others : ∀ query ∈ queries, query.method ≠ method) :
    after.nextOutcome method = before.nextOutcome method := by
  -- The method was not asked, so the number of its next call has not changed.
  have none : (queries.countP fun query => query.method = method) = 0 := by
    simpa [List.countP_eq_zero] using others
  rw [World.nextOutcome, World.nextOutcome, asked.script, asked.callCount method, none,
    Nat.add_zero]

/-- Asking queries of one kind alone is kept by going on in the same way. -/
instance (kind : Query → Prop) : IsPreorder World (AsksOnly kind) where
  -- Each query is one of the first or of the second activity.
  refl world := ⟨[], Asked.refl world, by simp⟩
  trans := by
    rintro first second third ⟨earlier, one, withinOne⟩ ⟨later, two, withinTwo⟩
    refine ⟨earlier ++ later, one.trans two, fun query member => ?_⟩
    rcases List.mem_append.mp member with member | member
    · exact withinOne query member
    · exact withinTwo query member

/-- Queries whose kind tells their methods have these methods alone. -/
theorem AsksOnly.asks {kind : Query → Prop} {methods : List Method} {before after : World}
    (asks : AsksOnly kind before after) (within : ∀ query, kind query → query.method ∈ methods) :
    Asks methods before after := by
  obtain ⟨queries, asked, inside⟩ := asks
  exact ⟨queries, asked, fun query member => within query (inside query member)⟩

/-- Queries of one kind add calls of that kind alone. -/
theorem AsksOnly.made {kind : Query → Prop} {before after : World}
    (asks : AsksOnly kind before after) :
    ∃ made, after.calls = before.calls ++ made ∧ ∀ call ∈ made, kind call.query := by
  obtain ⟨queries, asked, within⟩ := asks
  obtain ⟨made, grown, rfl⟩ := asked.calls
  exact ⟨made, grown, fun call member => within call.query (List.mem_map_of_mem member)⟩

/-- Queries with some methods alone. -/
theorem Asked.asks {queries : List Query} {methods : List Method} {before after : World}
    (asked : Asked queries before after) (within : ∀ query ∈ queries, query.method ∈ methods) :
    Asks methods before after :=
  ⟨queries, asked, within⟩

/-- Asking with some methods alone is kept by going on in the same way. -/
instance (methods : List Method) : IsPreorder World (Asks methods) :=
  inferInstanceAs (IsPreorder World (AsksOnly fun query => query.method ∈ methods))

/-- More methods allow more. -/
theorem Asks.mono {fewer more : List Method} {before after : World} (asks : Asks fewer before after)
    (within : fewer ⊆ more) : Asks more before after := by
  obtain ⟨queries, asked, inside⟩ := asks
  exact ⟨queries, asked, fun query member => within (inside query member)⟩

/-- Asking leaves settings, daemon and records alone. -/
theorem Asks.alike {methods : List Method} {before after : World}
    (asks : Asks methods before after) : Alike before after :=
  asks.choose_spec.1.toAlike

/-- What is asked adds calls with these methods alone. -/
theorem Asks.made {methods : List Method} {before after : World}
    (asks : Asks methods before after) :
    ∃ made, after.calls = before.calls ++ made ∧ ∀ call ∈ made, call.method ∈ methods :=
  AsksOnly.made asks

/-- Where nothing is asked there are no calls. -/
theorem Asks.silent {before after : World} (asks : Asks [] before after) :
    after.calls = before.calls := by
  -- There is no method that a call could have.
  obtain ⟨made, grown, within⟩ := asks.made
  obtain rfl : made = [] := List.eq_nil_iff_forall_not_mem.mpr fun call member => by
    simpa using within call member
  simpa using grown

/-- What the daemon will answer to a method stays open while only others are called. -/
theorem Asks.nextOutcome {methods : List Method} {before after : World}
    (asks : Asks methods before after) {method : Method} (other : method ∉ methods) :
    after.nextOutcome method = before.nextOutcome method := by
  -- None of the queries in between has that method, so its calls are as many as before.
  obtain ⟨queries, asked, within⟩ := asks
  refine asked.nextOutcome fun query member same => other ?_
  rw [← same]
  exact within query member

/-- What is written of an event: the event without the private key, or nothing below the level of the
process. -/
def written (world : World) (logger : Logger) (level : Level) (message : String)
    (fields : Event) : List Event :=
  if level.rank < world.settings.logLevel.rank then []
  else [redact world.settings.sshKey (logger.event level message fields)]

/-- Logging adds what is written of the event. -/
theorem log_written (logger : Logger) (level : Level) (message : String) (fields : Event)
    (world : World) :
    log logger level message fields world =
      .ok () { world with events := world.events ++ world.written logger level message fields } := by
  -- An event that the level drops adds nothing.
  unfold log written
  split
  · rw [List.append_nil]
  · rfl

/-- An event is written without fail, and nothing is asked. -/
theorem log_apply (logger : Logger) (level : Level) (message : String) (fields : Event)
    (world : World) :
    ∃ events, log logger level message fields world = .ok () { world with events := events } :=
  ⟨_, log_written ..⟩

/-- After the last event of an activity its value is handed out. -/
theorem log_pure_apply {α : Type} (logger : Logger) (level : Level) (message : String)
    (fields : Event) (value : α) (world : World) :
    ∃ events, (log logger level message fields >>= fun _ => (pure value : Step World α)) world =
      .ok value { world with events := events } := by
  obtain ⟨events, logged⟩ := log_apply logger level message fields world
  exact ⟨events, Step.bind_of_ok logged _⟩

/-- Nothing was asked of the daemon between two worlds, whatever else happened. -/
def Silent (before after : World) : Prop :=
  after.calls = before.calls

/-- Silence is kept by going on in the same way. -/
instance : IsPreorder World Silent where
  refl _ := rfl
  trans _ _ _ one two := two.trans one

/-- Logging is silent. -/
theorem log_silent (logger : Logger) (level : Level) (message : String) (fields : Event) :
    Step.Follows Silent (log logger level message fields) := by
  -- The worlds differ in their events alone.
  refine ⟨fun world => ?_⟩
  obtain ⟨events, logged⟩ := log_apply logger level message fields world
  rw [Step.after_of_ok logged]
  rfl

/-- A world that differs in its events alone has been asked nothing. -/
theorem asked_events (world : World) (events : List Event) :
    Asked [] world { world with events := events } :=
  ⟨⟨rfl, rfl, rfl, rfl, rfl, rfl⟩, [], by simp, rfl⟩

/-- After a call its query has been asked. -/
theorem asked_afterCall (world : World) (query : Query) (seconds : Rat) :
    Asked [query] world (world.afterCall query.method query.positional query.named seconds) :=
  ⟨⟨rfl, rfl, rfl, rfl, rfl, rfl⟩, [_], rfl, rfl⟩

/-- After an event nothing has been asked. -/
theorem log_asked (logger : Logger) (level : Level) (message : String) (fields : Event)
    (world : World) : Asked [] world (Step.after (log logger level message fields) world) := by
  obtain ⟨events, logged⟩ := log_apply logger level message fields world
  rw [Step.after_of_ok logged]
  exact asked_events world events

/-- Logging asks nothing of whatever kind. -/
theorem log_asksOnly (kind : Query → Prop) (logger : Logger) (level : Level) (message : String)
    (fields : Event) : Step.Follows (AsksOnly kind) (log logger level message fields) :=
  ⟨fun world => ⟨[], log_asked logger level message fields world, by simp⟩⟩

/-- Logging asks nothing. -/
theorem log_follows (methods : List Method) (logger : Logger) (level : Level) (message : String)
    (fields : Event) : Step.Follows (Asks methods) (log logger level message fields) :=
  log_asksOnly (fun query => query.method ∈ methods) logger level message fields

/-- The world after a query that the daemon has answered in whatever way. -/
def afterQuery (world : World) (query : Query) : World :=
  world.afterCall query.method query.positional query.named (world.nextOutcome query.method).delay

/-- A call ends as the daemon has it. -/
theorem call_apply (query : Query) (world : World) :
    call query.method query.positional query.named world =
      match (world.nextOutcome query.method).result with
      | .ok reply => .ok reply (world.afterQuery query)
      | .error failure => .error failure (world.afterQuery query) := by
  cases ended : (world.nextOutcome query.method).result <;> simp [call, afterQuery, ended]

/-- A call that may be given up leaves the world after it, however long it took. -/
theorem after_callWithin (limit : Rat) (method : Method) (positional : List Json)
    (named : List (String × Json)) (world : World) :
    ∃ seconds, Step.after (callWithin limit method positional named) world =
      world.afterCall method positional named seconds := by
  -- In time it takes as long as the answer does, and otherwise as long as it was given.
  by_cases inTime : world.clock.isWithin limit (world.nextOutcome method).delay
  · refine ⟨(world.nextOutcome method).delay, ?_⟩
    cases ended : (world.nextOutcome method).result <;>
      simp [Step.after, callWithin, inTime, ended]
  · exact ⟨limit, by simp [Step.after, callWithin, inTime]⟩

/-- After a call its query has been asked, whether the daemon answers it or refuses. -/
theorem call_asked (query : Query) (world : World) :
    Asked [query] world
      (Step.after (call query.method query.positional query.named) world) := by
  -- Answered or refused, the call was made.
  have ended := call_apply query world
  cases answered : (world.nextOutcome query.method).result with
  | ok reply =>
    rw [answered] at ended
    rw [Step.after_of_ok ended]
    exact asked_afterCall world query _
  | error failure =>
    rw [answered] at ended
    rw [Step.after_of_error ended]
    exact asked_afterCall world query _

/-- A call asks with its own method alone. -/
theorem call_follows {methods : List Method} {method : Method} (member : method ∈ methods)
    (positional : List Json) (named : List (String × Json)) :
    Step.Follows (Asks methods) (call method positional named) :=
  ⟨fun world => (call_asked ⟨method, positional, named⟩ world).asks (by simpa using member)⟩

/-- After a call that may be given up its query has been asked all the same. -/
theorem callWithin_asked (limit : Rat) (query : Query) (world : World) :
    Asked [query] world
      (Step.after (callWithin limit query.method query.positional query.named) world) := by
  -- In time or not, the call was made, and only its length differs.
  obtain ⟨seconds, reached⟩ :=
    after_callWithin limit query.method query.positional query.named world
  rw [reached]
  exact asked_afterCall world query _

/-- What has been asked stays so where nothing more is asked behind it. -/
theorem Asked.bind {α β : Type} {queries : List Query} {act : Step World α}
    {next : α → Step World β} {world : World} (asked : Asked queries world (Step.after act world))
    (quiet : ∀ value middle, Asked [] middle (Step.after (next value) middle)) :
    Asked queries world (Step.after (act >>= next) world) := by
  -- What follows starts where the activity ended, or does not start at all.
  cases ended : act world with
  | ok value middle =>
    rw [Step.after_of_ok ended] at asked
    rw [Step.after_of_eq (Step.bind_of_ok ended next)]
    simpa using asked.trans (quiet value middle)
  | error failure middle =>
    rw [Step.after_of_error ended] at asked
    rwa [Step.after_of_error (Step.bind_of_error ended next)]

/-- What has been asked stays so under a handler that asks nothing. -/
theorem Asked.onDaemonFailure {α : Type} {queries : List Query} {act : Step World α}
    {handler : DaemonFault → String → Step World α} {world : World}
    (asked : Asked queries world (Step.after act world))
    (quiet : ∀ fault text middle, Asked [] middle (Step.after (handler fault text) middle)) :
    Asked queries world (Step.after (Step.onDaemonFailure act handler) world) := by
  -- The handler starts where the daemon failed, and otherwise not at all.
  cases ended : act world with
  | ok value final =>
    rw [Step.after_of_ok ended] at asked
    rwa [Step.after_of_ok (Step.onDaemonFailure_of_ok ended handler)]
  | error failure middle =>
    rw [Step.after_of_error ended] at asked
    cases failure with
    | daemon fault text =>
      rw [Step.after_of_eq (Step.onDaemonFailure_of_daemon ended handler)]
      simpa using asked.trans (quiet fault text middle)
    | _ => rwa [Step.after_of_error (Step.onDaemonFailure_of_other ended nofun handler)]

/-- Letting time pass asks nothing. -/
theorem sleep_asksOnly (kind : Query → Prop) (seconds : Rat) :
    Step.Follows (AsksOnly kind) (sleep seconds) :=
  ⟨fun _ => ⟨[], ⟨⟨rfl, rfl, rfl, rfl, rfl, rfl⟩, [], by simp [Step.after, sleep], rfl⟩, by simp⟩⟩

end World

end ContainerScan
