import ContainerScan.Proofs.World

/-! Calls to the daemon together with what the daemon has them end in. -/

namespace ContainerScan

/-- A call to the daemon, and the outcome that the daemon has for it. -/
structure Exchange where
  call : Call
  outcome : Outcome

namespace Exchange

/-- The method of an exchange. -/
def method (exchange : Exchange) : Method :=
  exchange.call.method

/-- The daemon answers by a list. -/
def Lists (exchange : Exchange) (items : List Json) : Prop :=
  exchange.outcome.result = .ok (.value (.array items))

/-- The daemon fails, in some words. -/
def Fails (exchange : Exchange) (text : String) : Prop :=
  ∃ fault, exchange.outcome.result = .error (.daemon fault text)

/-- What is answered by a list has not failed. -/
theorem Lists.not_fails {exchange : Exchange} {items : List Json} (lists : exchange.Lists items)
    (text : String) : ¬exchange.Fails text := by
  rintro ⟨fault, failed⟩
  rw [Lists, failed] at lists
  cases lists

/-- A call is answered by one list. -/
theorem Lists.unique {exchange : Exchange} {items others : List Json} (one : exchange.Lists items)
    (two : exchange.Lists others) : items = others := by
  rw [Lists, one] at two
  cases two
  rfl

/-- A failure is told in one way. -/
theorem Fails.unique {exchange : Exchange} {text other : String} (one : exchange.Fails text)
    (two : exchange.Fails other) : text = other := by
  -- An exchange has one outcome.
  obtain ⟨fault, failed⟩ := one
  obtain ⟨cause, same⟩ := two
  rw [failed] at same
  cases same
  rfl

end Exchange

/-- Calls with their outcomes, which depend on the calls that came before. -/
def Script.exchanges (script : Script) : List Call → List Call → List Exchange
  | _, [] => []
  | earlier, call :: later =>
    ⟨call, script.outcome call.method (earlier.countP fun other => other.method = call.method)⟩ ::
      script.exchanges (earlier ++ [call]) later

/-- Later calls get their outcomes from where the earlier ones left off. -/
theorem Script.exchanges_append (script : Script) (earlier first second : List Call) :
    script.exchanges earlier (first ++ second) =
      script.exchanges earlier first ++ script.exchanges (earlier ++ first) second := by
  -- Each call is one of the earlier ones for all that come after it.
  induction first generalizing earlier with
  | nil => simp [exchanges]
  | cons call first ih => simp [exchanges, ih]

open Step

namespace World

/-- One world comes of another by some exchanges with the daemon, on a clock of the same kind. -/
structure Exchanged (made : List Exchange) (before after : World) : Prop where
  script : after.script = before.script
  kept : after.clock.kept = before.clock.kept
  calls : after.calls = before.calls ++ made.map Exchange.call
  outcomes : before.script.exchanges before.calls (made.map Exchange.call) = made

/-- The exchange that a query begins now. -/
def exchange (world : World) (query : Query) : Exchange where
  call := ⟨world.clock.time, query.method, query.positional, query.named⟩
  outcome := world.nextOutcome query.method

/-- Exchanges are made one after the other. -/
theorem Exchanged.trans {earlier later : List Exchange} {first second third : World}
    (one : Exchanged earlier first second) (two : Exchanged later second third) :
    Exchanged (earlier ++ later) first third where
  script := two.script.trans one.script
  kept := two.kept.trans one.kept
  calls := by rw [two.calls, one.calls, List.append_assoc, List.map_append]
  outcomes := by
    -- The second part begins with the calls that the first part has left.
    have following := two.outcomes
    rw [one.script, one.calls] at following
    rw [List.map_append, Script.exchanges_append, one.outcomes, following]

/-- Events are written without any exchange. -/
theorem exchanged_events (world : World) (events : List Event) :
    Exchanged [] world { world with events := events } :=
  ⟨rfl, rfl, (List.append_nil _).symm, rfl⟩

/-- A call makes one exchange, however long it takes. -/
theorem exchanged_afterCall (world : World) (query : Query) (seconds : Rat) :
    Exchanged [world.exchange query] world
      (world.afterCall query.method query.positional query.named seconds) :=
  ⟨rfl, rfl, rfl, rfl⟩

/-- After the exchange of a call there may be events. -/
theorem Exchanged.events {made : List Exchange} {before after : World}
    (exchanged : Exchanged made before after) (events : List Event) :
    Exchanged made before { after with events := events } :=
  ⟨exchanged.script, exchanged.kept, exchanged.calls, exchanged.outcomes⟩

/-- A call that the daemon answers has that answer. -/
theorem call_of_ok (query : Query) (world : World) {reply : Reply}
    (answers : (world.exchange query).outcome.result = .ok reply) :
    call query.method query.positional query.named world = .ok reply (world.afterQuery query) := by
  have answered : (world.nextOutcome query.method).result = .ok reply := answers
  rw [call_apply, answered]

/-- A call at which the daemon fails has that failure. -/
theorem call_of_error (query : Query) (world : World) {failure : Failure}
    (fails : (world.exchange query).outcome.result = .error failure) :
    call query.method query.positional query.named world =
      .error failure (world.afterQuery query) := by
  have failed : (world.nextOutcome query.method).result = .error failure := fails
  rw [call_apply, failed]

/-- A call whose outcome arrives within a limit ends by that outcome. -/
theorem callWithin_of_within (query : Query) (world : World) {seconds : Rat}
    (arrives : world.clock.isWithin seconds (world.exchange query).outcome.delay = true) :
    callWithin seconds query.method query.positional query.named world =
      (some <$> call query.method query.positional query.named) world := by
  have inTime : world.clock.isWithin seconds (world.nextOutcome query.method).delay = true :=
    arrives
  rw [map_apply, call_apply]
  -- The limit is not reached, so the outcome decides as in a call without one.
  cases ended : (world.nextOutcome query.method).result <;>
    simp [callWithin, inTime, ended, afterQuery]

/-- A call whose outcome does not arrive within a limit is given up. -/
theorem callWithin_of_not_within (query : Query) (world : World) {seconds : Rat}
    (late : ¬world.clock.isWithin seconds (world.exchange query).outcome.delay = true) :
    callWithin seconds query.method query.positional query.named world =
      .ok none (world.afterCall query.method query.positional query.named seconds) :=
  if_neg late

/-- Time passes without any exchange. -/
theorem sleep_apply (seconds : Rat) (world : World) :
    ∃ final, sleep seconds world = .ok () final ∧ Exchanged [] world final :=
  ⟨_, rfl, rfl, rfl, (List.append_nil _).symm, rfl⟩

end World

end ContainerScan
