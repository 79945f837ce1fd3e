import ContainerScan.Proofs.Connection
import ContainerScan.Proofs.Lifecycle.Order
import ContainerScan.Proofs.Scan

/-! A client for some time: it is looked for, used, and given back with nothing behind that. -/

namespace ContainerScan

open Step

/-- The calls of something that gets so many clients: none, after looking for one in vain, or one,
which is found, then used, and given back in the end. -/
inductive Leased : Nat → List Call → Prop where
  | none {sought : List Call} (connects : ∀ call ∈ sought, call.method = .connect) :
      Leased 0 sought
  | one {sought used : List Call} {last : Call}
      (connects : ∀ call ∈ sought, call.method = .connect)
      (needs : ∀ call ∈ used, call.method.needsClient = true) (closes : last.method = .close) :
      Leased 1 (sought ++ used ++ [last])

namespace Leased

/-- To look for a client is not to give one back. -/
theorem not_close_of_connect {calls : List Call}
    (connects : ∀ call ∈ calls, call.method = .connect) :
    ∀ call ∈ calls, call.method ≠ .close :=
  fun call member => by rw [connects call member]; decide

/-- To use a client is not to give it back. -/
theorem not_close_of_needs {calls : List Call}
    (needs : ∀ call ∈ calls, call.method.needsClient = true) :
    ∀ call ∈ calls, call.method ≠ .close := by
  -- To give a client back is not among the uses of one.
  intro call member same
  have used := needs call member
  rw [same] at used
  cases used

variable {clients : Nat} {made : List Call}

/-- Clients are given back as often as there are any. -/
theorem countP_close (leased : Leased clients made) :
    made.countP (fun call => call.method = .close) = clients := by
  cases leased with
  | none connects =>
    exact List.countP_eq_zero.mpr fun call member => by
      simpa using not_close_of_connect connects call member
  | @one sought used last connects needs closes =>
    -- The client is given back by the last call, and by none before it.
    have before : (sought ++ used).countP (fun call => call.method = .close) = 0 := by
      refine List.countP_eq_zero.mpr fun call member => ?_
      rcases List.mem_append.mp member with first | second
      · simpa using not_close_of_connect connects call first
      · simpa using not_close_of_needs needs call second
    rw [List.countP_append, before]
    simp [closes]

/-- Nothing is asked after a client has been given back. -/
theorem nothing_after_close (leased : Leased clients made) {earlier later : List Call} {call : Call}
    (split : made = earlier ++ call :: later) (closes : call.method = .close) : later = [] := by
  cases leased with
  | none connects =>
    exact absurd closes (not_close_of_connect connects call (by simp [split]))
  | @one sought used last connects needs _ =>
    -- Whatever stands before the last call is not this one.
    rcases List.eq_nil_or_concat later with rfl | ⟨front, other, rfl⟩
    · rfl
    · have front : sought ++ used = earlier ++ call :: front := by
        have same : (sought ++ used) ++ [last] = (earlier ++ call :: front) ++ [other] := by
          simpa using split
        exact (List.append_inj' same rfl).1
      have member : call ∈ sought ++ used := by simp [front]
      rcases List.mem_append.mp member with first | second
      · exact absurd closes (not_close_of_connect connects call first)
      · exact absurd closes (not_close_of_needs needs call second)

end Leased

section Releases

variable {σ α β : Type}

/-- How many clients come of an opening: one, unless it fails. -/
def clientsOf (opening : Step σ Unit) (state : σ) : Nat :=
  if (result opening state).isOk then 1 else 0

/-- From a state on an activity gets a client exactly if its opening succeeds, and gives it back. -/
def Releases (calls : σ → List Call) (opening : Step σ Unit) (act : Step σ α) (state : σ) : Prop :=
  ∃ made, calls (after act state) = calls state ++ made ∧ Leased (clientsOf opening state) made

variable {calls : σ → List Call} {opening : Step σ Unit} {act : Step σ α} {state : σ}

/-- There is no client after an opening that fails. -/
theorem clientsOf_error {final : σ} {failure : Failure}
    (failed : opening state = .error failure final) : clientsOf opening state = 0 := by
  rw [clientsOf, result_of_error failed]
  rfl

/-- There is a client after an opening that succeeds. -/
theorem clientsOf_ok {final : σ} (done : opening state = .ok () final) :
    clientsOf opening state = 1 := by
  rw [clientsOf, result_of_ok done]
  rfl

/-- Activities that leave the same calls release clients alike. -/
theorem Releases.of_calls {other : Step σ β} (releases : Releases calls opening act state)
    (same : calls (after other state) = calls (after act state)) :
    Releases calls opening other state := by
  obtain ⟨made, grown, leased⟩ := releases
  exact ⟨made, same.trans grown, leased⟩

/-- What comes before the opening, and asks nothing, has no part in it. -/
theorem Releases.behind {first : Step σ β} {openings : β → Step σ Unit} {rest : β → Step σ α}
    (quiet : calls (after first state) = calls state)
    (releases : ∀ value middle, first state = .ok value middle →
      Releases calls (openings value) (rest value) middle) :
    Releases calls (first >>= openings) (first >>= rest) state := by
  cases done : first state with
  | error failure middle =>
    -- Without an opening there is no client, and nothing that could be asked.
    rw [after_of_error done] at quiet
    refine ⟨[], ?_, ?_⟩
    · rw [after_of_error (bind_of_error done _), quiet, List.append_nil]
    · rw [clientsOf_error (bind_of_error done _)]
      exact .none nofun
  | ok value middle =>
    rw [after_of_ok done] at quiet
    obtain ⟨made, grown, leased⟩ := releases value middle done
    refine ⟨made, ?_, ?_⟩
    · rw [after_of_eq (bind_of_ok done _), grown, quiet]
    · rwa [clientsOf, result_of_eq (bind_of_ok done _)]

/-- What comes behind all the rest, and asks nothing, has no part in it. -/
theorem Releases.before {next : α → Step σ β} (releases : Releases calls opening act state)
    (quiet : ∀ value, Follows (fun before after => calls after = calls before) (next value)) :
    Releases calls opening (act >>= next) state := by
  -- What follows runs only after a success, and adds no call.
  refine releases.of_calls ?_
  cases ended : act state with
  | error failure middle => rw [after_of_error ended, after_of_error (bind_of_error ended _)]
  | ok value middle =>
    rw [after_of_ok ended, after_of_eq (bind_of_ok ended _)]
    exact (quiet value).leads middle

/-- A handler that asks nothing has no part in it either. -/
theorem Releases.handling {handler : Failure → Step σ α} (handles : Failure → Bool)
    (releases : Releases calls opening act state)
    (quiet : ∀ failure, Follows (fun before after => calls after = calls before)
      (handler failure)) : Releases calls opening (Step.handling handles act handler) state := by
  -- The handler adds no call, and without it the failure is passed on from where it was.
  refine releases.of_calls ?_
  cases ended : act state with
  | ok value middle => rw [after_of_ok ended, after_of_ok (handling_of_ok ended _ _)]
  | error failure middle =>
    by_cases handled : handles failure = true
    · have handed : Step.handling handles act handler state = handler failure middle := by
        rw [handling_of_error ended, if_pos handled]
      rw [after_of_error ended, after_of_eq handed]
      exact (quiet failure).leads middle
    · have passed : Step.handling handles act handler state = .error failure middle := by
        rw [handling_of_error ended, if_neg handled]
      rw [after_of_error ended, after_of_error passed]

/-- How many clients come of an opening, where there may be none because no client is needed. -/
def clientsOf? (opening? : Option (Step σ Unit)) (state : σ) : Nat :=
  opening?.elim 0 fun opening => clientsOf opening state

/-- What releases its client makes the calls of something that gets one by its opening. -/
theorem Releases.leased (releases : Releases calls opening act state) :
    ∃ made, calls (after act state) = calls state ++ made ∧
      Leased (clientsOf? (some opening) state) made :=
  releases

/-- Something that asks nothing at all has no client to give back. -/
theorem leased_of_quiet (quiet : calls (after act state) = calls state) :
    ∃ made, calls (after act state) = calls state ++ made ∧ Leased (clientsOf? none state) made :=
  ⟨[], by rw [quiet, List.append_nil], .none nofun⟩

end Releases

namespace Connection

/-- A client is opened if the daemon answers, and not if it fails. -/
theorem openClient_cases (world : World) :
    (∃ reply final, (world.nextOutcome .connect).result = .ok reply ∧
      World.openClient world = .ok () final) ∨
    ∃ failure final, (world.nextOutcome .connect).result = .error failure ∧
      World.openClient world = .error failure final := by
  -- A daemon whose script has no word on it refuses nothing.
  cases ended : (world.nextOutcome .connect).result with
  | error failure => exact Or.inr ⟨failure, _, rfl, World.openClient_of_error ended⟩
  | ok reply =>
    unfold World.openClient
    cases world.script .connect (world.callCount .connect) with
    | none => exact Or.inl ⟨reply, world, rfl, rfl⟩
    | some outcome =>
      exact Or.inl ⟨reply, _, rfl, discard_of_ok (World.call_of_ok ⟨.connect, [], []⟩ world ended)⟩

/-- A client that is not opened is not there, whatever is made of the failure. -/
theorem openAt_error (settings : Settings) {world middle : World} {failure : Failure}
    (failed : World.openClient world = .error failure middle) :
    ∃ other final, openAt settings world = .error other final := by
  -- A failure of the daemon may be told in other words, and any other one is passed on.
  cases failure with
  | daemon fault text =>
    cases way : fault.isTransport with
    | true => exact ⟨_, _, openAt_of_unreached settings failed way⟩
    | false => exact ⟨_, _, openAt_of_answered settings failed way⟩
  | _ => exact ⟨_, _, bind_of_error (onDaemonFailure_of_other failed nofun _) _⟩

/-- The direct connector gives a client exactly if the daemon does. -/
theorem clientsOf_direct (settings : Settings) (world : World) :
    clientsOf (direct settings) world =
      if (world.nextOutcome .connect).result.isOk then 1 else 0 := by
  -- The connector succeeds exactly when the daemon answers.
  rcases openClient_cases world with ⟨reply, final, answers, done⟩ | ⟨failure, final, fails, failed⟩
  · rw [direct, clientsOf_ok done, answers]
    rfl
  · rw [direct, clientsOf_error failed, fails]
    rfl

/-- The connector with certificates gives a client exactly if the certificates can be used and the
daemon gives one: no client of the daemon's is lost on the way. -/
theorem clientsOf_secured (present : String → Bool) (settings : Settings) (world : World) :
    clientsOf (secured present settings) world =
      if (options settings present).isOk ∧ (world.nextOutcome .connect).result.isOk then 1
      else 0 := by
  -- The daemon is asked only where the certificates can be used.
  unfold secured
  cases options settings present with
  | error message =>
    rw [clientsOf_error (giveUp_apply ..)]
    rfl
  | ok found =>
    rcases openClient_cases world with
      ⟨reply, middle, answers, done⟩ | ⟨failure, middle, fails, failed⟩
    · obtain ⟨events, logged⟩ := World.log_apply logger .debug "Docker client ready"
        [("host", .string settings.daemonUrl), ("tls", .bool true)] middle
      have opened : openAt settings world = _ :=
        (bind_of_ok (onDaemonFailure_of_ok done _) _).trans logged
      rw [clientsOf_ok opened, answers]
      rfl
    · obtain ⟨other, final, refused⟩ := openAt_error settings failed
      rw [clientsOf_error refused, fails]
      rfl

end Connection

namespace Session

/-- The calls that were made around a session. -/
def calls (session : Session) : List Call :=
  session.world.calls

/-- One session comes of another over the client of both, which is there or not. -/
structure Uses (before after : Session) : Prop where
  connected : after.lifecycle.connected = before.lifecycle.connected
  grown : ∃ made, after.calls = before.calls ++ made ∧
    ∀ call ∈ made, call.method.needsClient = true

/-- A client is used in one session after the other. -/
instance : IsPreorder Session Uses where
  -- The calls of two activities in a row are those of the first one, and then those of the second.
  refl session := ⟨rfl, [], (List.append_nil _).symm, nofun⟩
  trans first second third one two := by
    obtain ⟨earlier, grown, needs⟩ := one.grown
    obtain ⟨later, onwards, likewise⟩ := two.grown
    refine ⟨two.connected.trans one.connected, earlier ++ later, ?_, ?_⟩
    · rw [onwards, grown, List.append_assoc]
    · exact fun call member => (List.mem_append.mp member).elim (needs call) (likewise call)

/-- The surroundings are asked over the client, if they are asked anything. -/
theorem inWorld_uses {α : Type} {methods : List Method} {act : Step World α}
    (asks : Follows (World.Asks methods) act)
    (needs : ∀ method ∈ methods, method.needsClient = true) : Follows Uses (inWorld act) := by
  -- What was asked of the world is what the session has asked, and its client is still there.
  refine ⟨fun session => ?_⟩
  obtain ⟨made, grown, within⟩ := (asks.leads session.world).made
  rw [after_inWorld]
  exact ⟨rfl, made, grown, fun call member => needs _ (within call member)⟩

/-- Writing an event leaves the client as it is. -/
theorem log_uses (level : Level) (message : String) (fields : Event) :
    Follows Uses (log level message fields) :=
  follows_get.bind fun session =>
    inWorld_uses (World.log_follows [] session.lifecycle.logger level message fields) nofun

/-- A call is made over the client. -/
theorem call_uses {method : Method} (needs : method.needsClient = true) (positional : List Json)
    (named : List (String × Json)) : Follows Uses (call method positional named) := by
  -- Without a client the call is refused before it is made.
  refine follows_get.bind fun session => ?_
  split
  · exact inWorld_uses (World.call_follows (List.mem_singleton.mpr rfl) ..) (by simpa using needs)
  · exact follows_throw _

/-- A query under a handler that names its failure is put over the client. -/
theorem ask_uses {α : Type} {act : Step Session α} (uses : Follows Uses act)
    (message name : String) (fields : Event) (cid : Json) :
    Follows Uses (onDaemonFailure act fun _ text => failAs message name fields cid text) :=
  uses.onDaemonFailure fun _ _ => (log_uses ..).bind fun _ => follows_throw _

/-- Finding out which container an operation is about leaves the client as it is. -/
theorem target_uses (cid : Json) : Follows Uses (target cid) := by
  -- An id is looked for in the lifecycle alone.
  unfold target
  split
  · exact follows_pure _
  · exact Follows.bind ⟨fun session => refl session⟩ fun _ => follows_pure _

/-- A container is stopped over the client. -/
theorem stop_uses (cid : Json) : Follows Uses (stop cid) :=
  (target_uses cid).bind fun _ => (ask_uses (call_uses rfl ..).discard ..).bind fun _ => log_uses ..

/-- A container is removed over the client. -/
theorem remove_uses (cid : Json) (force : Bool) : Follows Uses (remove cid force) :=
  (target_uses cid).bind fun _ => (ask_uses (call_uses rfl ..).discard ..).bind fun _ => log_uses ..

/-- Images are listed over the client. -/
theorem listImages_uses : Follows Uses listImages :=
  ask_uses (call_uses rfl ..) ..

/-- An image is removed over the client. -/
theorem removeImage_uses (id : String) : Follows Uses (removeImage id) :=
  (ask_uses (call_uses rfl ..).discard ..).bind fun _ => log_uses ..

/-- What is asked by queries that need a client is asked over it. -/
theorem Asked.uses {queries : List Query} {before after : Session}
    (asked : Asked queries before after)
    (needs : ∀ query ∈ queries, query.method.needsClient = true) : Uses before after := by
  obtain ⟨made, grown, rfl⟩ := asked.world.calls
  exact ⟨asked.connected, made, grown,
    fun call member => needs call.query (List.mem_map_of_mem member)⟩

/-- The queries about a container that is attended to need a client. -/
theorem needsClient_of_mem_untilFailure {world : World} {cid : Json} {bound : Int} {query : Query}
    (member : query ∈ Query.untilFailure (world.attendance cid bound)) :
    query.method.needsClient = true := by
  have method := Query.method_of_mem_untilFailure member
  revert method
  cases query.method <;> decide

/-- Once the image is there, a run uses the client that it has found. -/
theorem runLoaded_uses (repository branch : String) {ready : Session}
    (connected : ready.lifecycle.connected = true) :
    Uses ready (after (runLoaded repository branch) ready) := by
  -- Nothing is asked, a container in vain, or one that is then attended to and removed.
  rcases runLoaded_cases repository branch connected with
    ⟨_, failure, final, failed, asked⟩ | ⟨_, failure, final, _, failed, asked⟩ |
    ⟨_, cid, _, _, asked, _⟩
  · rw [after_of_error failed]
    exact asked.uses nofun
  · rw [after_of_error failed]
    exact asked.uses fun query member => by rw [List.mem_singleton.mp member]; rfl
  · refine asked.uses fun query member => ?_
    rcases List.mem_cons.mp member with rfl | member
    · rfl
    · rcases List.mem_append.mp member with attending | removing
      · exact needsClient_of_mem_untilFailure attending
      · rw [List.mem_singleton.mp removing]
        rfl

/-- A run uses the client that it has found, from the image on. -/
theorem run_uses (repository branch : String) {ready : Session}
    (connected : ready.lifecycle.connected = true) :
    Uses ready (after (ensureImage >>= fun _ => runLoaded repository branch) ready) := by
  obtain ⟨asks, same⟩ := ensureImage_leads ready
  obtain ⟨made, grown, within⟩ := asks.made
  have needs : ∀ method ∈ Availability.methods, method.needsClient = true := by decide
  have waited : Uses ready (after ensureImage ready) :=
    ⟨by rw [same], made, grown, fun call member => needs _ (within call member)⟩
  -- The client that the wait has used is there for the container too.
  refine leads_bind waited fun _ middle done => runLoaded_uses repository branch ?_
  have kept := waited.connected
  rw [after_of_ok done] at kept
  exact kept.trans connected

/-- A client that is there is given back by one call. -/
theorem close_of_connected {session : Session} (connected : session.lifecycle.connected = true) :
    ∃ call, call.method = .close ∧
      (after close session).calls = session.calls ++ [call] := by
  -- The client is given back first, and then forgotten.
  have opened : close session = (if session.lifecycle.connected then
      inWorld World.closeClient >>= fun _ => setConnected false else pure ()) session := rfl
  rw [after_of_eq opened, if_pos connected]
  exact ⟨_, rfl, rfl⟩

/-- A client that is not there is not given back. -/
theorem close_of_disconnected {session : Session} (absent : session.lifecycle.connected = false) :
    close session = .ok () session := by
  -- There is nothing to give back, and so nothing to forget.
  have opened : close session = (if session.lifecycle.connected then
      inWorld World.closeClient >>= fun _ => setConnected false else pure ()) session := rfl
  rw [opened, absent]
  rfl

/-- A client is looked for by calls to connect alone, and is there afterwards unless that fails. -/
theorem connect_sought {session : Session}
    (connecting : session.lifecycle.connector.OnlyConnects) :
    (after connect session).lifecycle.connected = (result connect session).isOk ∧
      ∃ sought, (after connect session).calls = session.calls ++ sought ∧
        ∀ call ∈ sought, call.method = .connect := by
  -- A client that is there is kept, and otherwise one is looked for.
  cases connected : session.lifecycle.connected with
  | true =>
    have done := connect_of_connected connected
    rw [after_of_ok done, result_of_ok done]
    exact ⟨connected, [], (List.append_nil _).symm, nofun⟩
  | false =>
    obtain ⟨sought, grown, within⟩ := (connect_leads connected connecting).made
    refine ⟨?_, sought, grown, fun call member => List.mem_singleton.mp (within call member)⟩
    rcases connect_cases connected with
      ⟨world, -, done⟩ | ⟨failure, world, final, -, failed, -, same⟩
    · rw [after_of_ok done, result_of_ok done]
      rfl
    · rw [after_of_error failed, result_of_error failed, same, connected]
      rfl

/-- A client that is looked for, used and given back in the end is released: whether it is given
back right after it could not be found makes no difference. -/
theorem releases_of_connect {α β : Type} {act : Step Session α} {rest : Step Session β}
    {session : Session} (connecting : session.lifecycle.connector.OnlyConnects)
    (uses : ∀ ready, ready.lifecycle.connected = true → Uses ready (after rest ready))
    (found : ∀ ready, connect session = .ok () ready →
      after act session = after close (after rest ready))
    (missing : ∀ failure final, connect session = .error failure final →
      after act session = final ∨ after act session = after close final) :
    Releases calls connect act session := by
  obtain ⟨there, sought, grown, connects⟩ := connect_sought connecting
  cases opened : connect session with
  | error failure final =>
    -- There is no client, so that giving it back would do nothing.
    rw [after_of_error opened, result_of_error opened] at there
    rw [after_of_error opened] at grown
    have ended : after act session = final :=
      (missing failure final opened).elim id fun closed =>
        closed.trans (after_of_ok (close_of_disconnected there))
    rw [Releases, ended, clientsOf_error opened]
    exact ⟨sought, grown, .none connects⟩
  | ok nothing ready =>
    -- The client outlasts all that is done with it, and is then given back by one call.
    rw [after_of_ok opened, result_of_ok opened] at there
    rw [after_of_ok opened] at grown
    obtain ⟨kept, used, further, needs⟩ := uses ready there
    obtain ⟨last, closes, closed⟩ := close_of_connected (kept.trans there)
    rw [Releases, found ready opened, clientsOf_ok opened, closed, further, grown]
    exact ⟨sought ++ used ++ [last], by simp only [List.append_assoc], .one connects needs closes⟩

/-- A client that is found first and given back whatever happens is released. -/
theorem connect_ensuring_releases {α : Type} {rest : Step Session α} {session : Session}
    (connecting : session.lifecycle.connector.OnlyConnects) (uses : Follows Uses rest) :
    Releases calls connect (connect >>= fun _ => ensuring rest close) session := by
  -- Behind a connection that failed nothing is run, so there is nothing to give back.
  refine releases_of_connect connecting (fun ready _ => uses.leads ready)
    (fun ready done => ?_) fun failure final failed => ?_
  · rw [after_of_eq (bind_of_ok done _), after_ensuring]
  · exact Or.inl (after_of_error (bind_of_error failed _))

/-- A scan's container is run with a client that is given back whatever happens. -/
theorem runContainer_releases (target : Target) {session : Session}
    (connecting : session.lifecycle.connector.OnlyConnects) :
    Releases calls connect (Scan.runContainer target) session := by
  -- A run begins by connecting, and what comes after that uses the client.
  let rest := ensureImage >>= fun _ => runLoaded target.repositoryUrl target.branch
  have opened : run target.repositoryUrl target.branch = (connect >>= fun _ => rest) := rfl
  refine releases_of_connect connecting
    (fun ready => run_uses target.repositoryUrl target.branch)
    (fun ready done => ?_) fun failure final failed => ?_
  · rw [Scan.runContainer, after_ensuring, opened, after_of_eq (bind_of_ok done _)]
  · rw [Scan.runContainer, after_ensuring, opened, after_of_error (bind_of_error failed _)]
    exact Or.inr rfl

end Session

end ContainerScan
