import ContainerScan.Proofs.Lifecycle.Run

/-! Runs of a lifecycle that has been run before: which of the containers that they create are
removed again. -/

namespace ContainerScan

namespace World

/-- Between two worlds the daemon created a container under an identifier. -/
def Created (before after : World) (cid : Json) : Prop :=
  -- The calls of a method are numbered, and each number has its outcome in the script.
  ∃ number reply, before.callCount .createContainer ≤ number ∧
    number < after.callCount .createContainer ∧
    (before.script.outcome .createContainer number).result = .ok reply ∧ reply.newCid = .ok cid

/-- Between two worlds the daemon was asked to remove a container by force. -/
def Removed (before after : World) (cid : Json) : Prop :=
  ∃ call ∈ after.calls.drop before.calls.length, call.query = .removal cid

/-- A removal between two worlds is one of the queries between them. -/
theorem Asked.removed_iff {queries : List Query} {before after : World}
    (asked : Asked queries before after) (cid : Json) :
    Removed before after cid ↔ .removal cid ∈ queries := by
  obtain ⟨made, grown, same⟩ := asked.calls
  -- The calls in between are those that were made behind the earlier ones.
  rw [Removed, grown, List.drop_left, ← same, List.mem_map]

/-- Only a query for a container has one created. -/
theorem Asked.creation_of_created {queries : List Query} {before after : World}
    (asked : Asked queries before after) {cid : Json} (created : Created before after cid) :
    ∃ query ∈ queries, query.method = .createContainer := by
  -- The script has answers for calls that were never made, so the number must be one in between.
  obtain ⟨number, reply, late, early, _⟩ := created
  rw [asked.callCount .createContainer] at early
  have some_asked : 0 < queries.countP fun query => query.method = .createContainer := by omega
  simpa [List.countP_pos_iff] using some_asked

/-- The one container that is created between two worlds is the one that was to come next. -/
theorem Created.nextCid {before after : World} {cid : Json} (created : Created before after cid)
    (once : after.callCount .createContainer ≤ before.callCount .createContainer + 1) :
    before.nextCid = .ok cid := by
  -- The numbers in between are those from the next one on, and there is one of them at most.
  obtain ⟨number, reply, late, early, answered, named⟩ := created
  obtain rfl : number = before.callCount .createContainer := by omega
  rw [World.nextCid, World.nextOutcome, answered]
  exact named

end World

namespace Query

/-- Nothing that is asked about a container that is there has another one created. -/
theorem method_of_mem_untilFailure {world : World} {cid : Json} {bound : Int} {query : Query}
    (member : query ∈ untilFailure (world.attendance cid bound)) :
    query.method ∈ [Method.start, .wait, .logs] := by
  -- What is asked up to a failure is a prefix of the three questions about a container.
  have first := Query.untilFailure_prefix (world.attendance cid bound)
  have stage := first.subset member
  simp only [World.attendance, List.map_cons, List.map_nil, List.mem_cons, List.not_mem_nil,
    or_false] at stage
  rcases stage with rfl | rfl | rfl <;> simp [starting, waiting, reading]

/-- Of the queries about one container, from its creation to its removal, one is for a container. -/
theorem countP_creation (reference command : String) (world : World) (cid : Json) (bound : Int) :
    (creation reference command ::
      (untilFailure (world.attendance cid bound) ++ [removal cid])).countP
        (fun query => query.method = .createContainer) = 1 := by
  -- The questions in between are of other methods, and so is the removal.
  have none : (untilFailure (world.attendance cid bound)).countP
      (fun query => query.method = .createContainer) = 0 := by
    rw [List.countP_eq_zero]
    intro query member
    have method := method_of_mem_untilFailure member
    revert method
    cases query.method <;> decide
  simp [none, creation, removal]

end Query

namespace Session

open Step

/-- A client that is there is used again. -/
theorem connect_of_connected {session : Session}
    (connected : session.lifecycle.connected = true) : connect session = .ok () session := by
  -- Only a client that is missing has the connector called.
  have opened : connect session = (if !session.lifecycle.connected then
      handling Failure.isConnectionSetup
        (inWorld (session.lifecycle.connector session.lifecycle.settings)) (fun failure => do
          log .error "Docker connection setup failed" [("error", .string failure.text)]
          throw failure) >>= fun _ => setConnected true
    else pure ()) session := rfl
  rw [opened, connected]
  rfl

/-- Before it comes to a container, a run of any lifecycle asks for a client and for images only. -/
theorem run_opening (repository branch : String) (session : Session)
    (connecting : session.lifecycle.connector.OnlyConnects) :
    (∃ failure final, run repository branch session = .error failure final ∧
      World.Asks (.connect :: Availability.methods) session.world final.world) ∨
    ∃ ready, run repository branch session = runLoaded repository branch ready ∧
      World.Asks (.connect :: Availability.methods) session.world ready.world ∧
      ready.lifecycle = { session.lifecycle with connected := true } := by
  cases connected : session.lifecycle.connected with
  | false =>
    -- A session that has no client makes one, which is the only call before the image.
    have opens := connect_leads connected connecting
    rcases run_stages repository branch connected with
      ⟨failure, final, broken, failed⟩ |
      ⟨middle, done, ⟨failure, final, missing, failed, asks⟩ | ⟨ready, loaded, asks, kept, same⟩⟩
    · rw [after_of_error broken] at opens
      exact Or.inl ⟨failure, final, failed, opens.mono (by simp)⟩
    · rw [after_of_ok done] at opens
      exact Or.inl ⟨failure, final, failed,
        IsTrans.trans _ _ _ (opens.mono (by simp)) (asks.mono (by simp))⟩
    · rw [after_of_ok done] at opens
      exact Or.inr ⟨ready, same,
        IsTrans.trans _ _ _ (opens.mono (by simp)) (asks.mono (by simp)), kept⟩
  | true =>
    -- With a client that is there the image comes first.
    have opened : run repository branch session =
        (connect >>= fun _ => ensureImage >>= fun _ => runLoaded repository branch) session := rfl
    obtain ⟨asks, kept⟩ := ensureImage_leads session
    rw [opened, bind_of_ok (connect_of_connected connected)]
    cases awaited : ensureImage session with
    | error failure final =>
      rw [after_of_error awaited] at asks
      exact Or.inl ⟨failure, final, bind_of_error awaited _, asks.mono (by simp)⟩
    | ok nothing ready =>
      rw [after_of_ok awaited] at asks kept
      exact Or.inr ⟨ready, bind_of_ok awaited _, asks.mono (by simp), by rw [kept, ← connected]⟩

/-- Once the image is there, a container that is created is removed if it is the first one of the
lifecycle that gets past its creation, and otherwise not. -/
theorem runLoaded_removes_iff (repository branch : String) {ready : Session}
    (connected : ready.lifecycle.connected = true) (names : ready.world.script.NamesContainers)
    {cid : Json}
    (created : World.Created ready.world (after (runLoaded repository branch) ready).world cid) :
    World.Removed ready.world (after (runLoaded repository branch) ready).world cid ↔
      ready.lifecycle.container.isUnbegun = true := by
  rcases runLoaded_cases repository branch connected with
    ⟨empty, failure, final, failed, asked⟩ | ⟨given, failure, final, unnamed, failed, asked⟩ |
    ⟨given, found, named, unbegun, asked, _⟩
  · -- Without a command nothing is created.
    rw [after_of_error failed] at created ⊢
    obtain ⟨query, member, _⟩ := asked.world.creation_of_created created
    cases member
  · rw [after_of_error failed] at created ⊢
    have next := created.nextCid (by rw [asked.world.callCount]; simp [Query.creation])
    obtain ⟨number, reply, _, _, answered, named⟩ := created
    obtain ⟨text, texted⟩ := names number reply answered
    obtain rfl : cid = .string text := by
      rw [named] at texted
      cases texted
      rfl
    -- A text can be told in the log, so it was the status that could not be noted.
    have begun : ready.lifecycle.container.isUnbegun ≠ true := fun unbegun =>
      absurd (unnamed _ next unbegun) (by simp [shortened?])
    rw [asked.world.removed_iff]
    simp [Query.removal, Query.creation, begun]
  · have next := created.nextCid
      (Nat.le_of_eq (by rw [asked.world.callCount, Query.countP_creation]))
    obtain rfl : found = cid := by
      rw [named] at next
      cases next
      rfl
    rw [asked.world.removed_iff]
    simp [unbegun]

/-- Once the image is there, everything that a run asks is asked in order. -/
theorem runLoaded_asked (repository branch : String) {ready : Session}
    (connected : ready.lifecycle.connected = true) :
    ∃ queries,
      World.Asked queries ready.world (after (runLoaded repository branch) ready).world := by
  -- However a run goes on from here, what it asks is known.
  rcases runLoaded_cases repository branch connected with
    ⟨_, failure, final, failed, asked⟩ | ⟨_, failure, final, _, failed, asked⟩ |
    ⟨_, _, _, _, asked, _⟩
  · rw [after_of_error failed]
    exact ⟨_, asked.world⟩
  · rw [after_of_error failed]
    exact ⟨_, asked.world⟩
  · exact ⟨_, asked.world⟩

/-- What happens before it comes to a container neither creates nor removes one. -/
theorem created_removed_of_opening {before ready final : World}
    (asks : World.Asks (.connect :: Availability.methods) before ready) {queries : List Query}
    (following : World.Asked queries ready final) (cid : Json) :
    (World.Created before final cid ↔ World.Created ready final cid) ∧
      (World.Removed before final cid ↔ World.Removed ready final cid) := by
  obtain ⟨earlier, asked, within⟩ := asks
  -- No container is asked for before, so the numbers of creations are the same at the end of it.
  have none : (earlier.countP fun query => query.method = .createContainer) = 0 := by
    rw [List.countP_eq_zero]
    intro query member
    have method := within query member
    revert method
    cases query.method <;> decide
  have counted := asked.callCount .createContainer
  rw [none, Nat.add_zero] at counted
  -- Nor is one removed, so a removal is one of the later queries.
  have quiet : .removal cid ∉ earlier := fun member => by
    have method : Method.removeContainer ∈ .connect :: Availability.methods := within _ member
    exact absurd method (by decide)
  constructor
  · rw [World.Created, World.Created, counted, asked.script]
  · rw [(asked.trans following).removed_iff, following.removed_iff, List.mem_append]
    exact or_iff_right quiet

/-- A daemon that answers as usual names its containers. -/
theorem namesContainers_usual : Script.NamesContainers fun _ _ => none := by
  rintro number reply ⟨⟩
  exact ⟨Script.usualCid, rfl⟩

/-- What a daemon that answers as usual sends for each container. -/
def usualCreation : Reply :=
  .value (.object [("Id", .string Script.usualCid), ("Warnings", .array [])])

/-- A run that creates a container comes through its opening, and what follows that creates and removes
the same. -/
theorem opening_of_created {repository branch : String} {session : Session}
    (connecting : session.lifecycle.connector.OnlyConnects) {cid : Json}
    (created : World.Created session.world (after (run repository branch) session).world cid) :
    ∃ ready : Session, ready.lifecycle = { session.lifecycle with connected := true } ∧
      ready.world.script = session.world.script ∧
      World.Created ready.world (after (runLoaded repository branch) ready).world cid ∧
      (World.Removed session.world (after (run repository branch) session).world cid ↔
        World.Removed ready.world (after (runLoaded repository branch) ready).world cid) := by
  rcases run_opening repository branch session connecting with
    ⟨failure, final, failed, asks⟩ | ⟨ready, same, asks, kept⟩
  · -- A run that does not get as far as a container creates none.
    rw [after_of_error failed] at created
    obtain ⟨queries, asked, within⟩ := asks
    obtain ⟨query, member, creates⟩ := asked.creation_of_created created
    have method := within query member
    rw [creates] at method
    exact absurd method (by decide)
  · -- Otherwise the opening neither creates nor removes anything.
    obtain ⟨queries, following⟩ := @runLoaded_asked repository branch ready (by rw [kept])
    obtain ⟨creates, removes⟩ := created_removed_of_opening asks following cid
    have ended : after (run repository branch) session =
        after (runLoaded repository branch) ready := after_of_eq same
    rw [ended] at created ⊢
    exact ⟨ready, kept, asks.alike.script, creates.mp created, removes⟩

/-- A run of any lifecycle, whatever it has been through, removes the container that it creates
exactly if no earlier container of the lifecycle has got past its creation. -/
theorem run_removes_iff (session : Session)
    (connecting : session.lifecycle.connector.OnlyConnects)
    (names : session.world.script.NamesContainers) (repository branch : String) (cid : Json)
    (created : World.Created session.world (after (run repository branch) session).world cid) :
    World.Removed session.world (after (run repository branch) session).world cid ↔
      session.lifecycle.container.isUnbegun = true := by
  -- The opening leaves the status as it was, and on that the rest of the run decides.
  obtain ⟨ready, kept, script, creates, removes⟩ := opening_of_created connecting created
  rw [removes, runLoaded_removes_iff repository branch (by rw [kept]) (by rwa [script]) creates,
    kept]

/-- On a daemon that answers as usual the first run creates a container and removes it. -/
theorem run_removes_iff_usual :
    let fresh : Session :=
      ⟨.fresh { name := "retirejs" } "scan %GIT_REPO%" .standard Connection.direct,
        { settings := .standard }⟩
    let final := after (run "repository" "main") fresh
    World.Created fresh.world final.world (.string Script.usualCid) ∧
      World.Removed fresh.world final.world (.string Script.usualCid) := by
  intro fresh final
  -- The container is created by the first call of its kind.
  have once : final.world.callCount .createContainer = 1 := by decide +kernel
  have created : World.Created fresh.world final.world (.string Script.usualCid) :=
    ⟨0, usualCreation, Nat.zero_le _, Nat.lt_of_lt_of_eq (by decide) once.symm, rfl, rfl⟩
  exact ⟨created, (run_removes_iff fresh Connection.direct_onlyConnects namesContainers_usual
    "repository" "main" _ created).mpr rfl⟩

/-- A run leaves settings, daemon and records as they were. -/
theorem run_alike (repository branch : String) (session : Session)
    (connecting : session.lifecycle.connector.OnlyConnects) :
    World.Alike session.world (after (run repository branch) session).world := by
  -- Queries leave them alone, before it comes to a container and after that.
  rcases run_opening repository branch session connecting with
    ⟨failure, final, failed, asks⟩ | ⟨ready, same, asks, kept⟩
  · rw [after_of_error failed]
    exact asks.alike
  · obtain ⟨queries, following⟩ := @runLoaded_asked repository branch ready (by rw [kept])
    rw [after_of_eq same]
    exact asks.alike.trans following.toAlike

/-- A run that ends well leaves the container that it returns, which is finished. -/
theorem finished_of_run_ok {repository branch : String} {session final : Session}
    (connecting : session.lifecycle.connector.OnlyConnects) {returned : Container}
    (done : run repository branch session = .ok returned final) :
    final.lifecycle.container.status = some .finished := by
  rcases run_opening repository branch session connecting with
    ⟨failure, ended, failed, _⟩ | ⟨ready, same, _, kept⟩
  · rw [failed] at done
    cases done
  · rw [same] at done
    have connected : ready.lifecycle.connected = true := by rw [kept]
    -- What a run returns is the container as the lifecycle has it at the end.
    have shown : returned = final.lifecycle.container := by
      obtain ⟨_, _, _, attended⟩ := bind_ok_iff.mp done
      obtain ⟨_, _, _, looked⟩ := bind_ok_iff.mp attended
      cases looked
      rfl
    -- Of the ways a run can go from there, only the one through all operations returns.
    rcases runLoaded_cases repository branch connected with
      ⟨_, _, _, failed, _⟩ | ⟨_, _, _, _, failed, _⟩ | ⟨_, _, _, _, _, finishes⟩
    · rw [failed] at done
      cases done
    · rw [failed] at done
      cases done
    · rw [← shown]
      exact (finishes returned final done).status

/-- After a run that ended well, no container that a further run creates is removed by that run. -/
theorem not_removed_of_run_ok {repository branch : String} {session final : Session}
    (connecting : session.lifecycle.connector.OnlyConnects) {returned : Container}
    (done : run repository branch session = .ok returned final)
    (still : final.lifecycle.connector.OnlyConnects)
    (names : final.world.script.NamesContainers) (again other : String) (cid : Json)
    (created : World.Created final.world (after (run again other) final).world cid) :
    ¬World.Removed final.world (after (run again other) final).world cid := by
  -- The container of the run before is finished, so that no other one can be noted as created.
  obtain ⟨ready, kept, script, creates, removes⟩ := opening_of_created still created
  rw [removes, runLoaded_removes_iff again other (by rw [kept]) (by rwa [script]) creates, kept,
    Container.isUnbegun, finished_of_run_ok connecting done]
  decide

/-- On a daemon that answers as usual the second run creates a container and leaves it there. -/
theorem run_again_leaves_container :
    let fresh : Session :=
      ⟨.fresh { name := "retirejs" } "scan %GIT_REPO%" .standard Connection.direct,
        { settings := .standard }⟩
    let reused := after (run "repository" "main") fresh
    let final := after (run "repository" "main") reused
    reused.world.script.NamesContainers ∧
      World.Created reused.world final.world (.string Script.usualCid) ∧
      ¬World.Removed reused.world final.world (.string Script.usualCid) := by
  intro fresh reused final
  -- The second run has the same daemon as the first, which answers as usual to its second creation.
  have alike : World.Alike fresh.world reused.world :=
    run_alike "repository" "main" fresh Connection.direct_onlyConnects
  have script : reused.world.script = fun _ _ => none := alike.script
  have earlier : reused.world.callCount .createContainer = 1 := by decide +kernel
  have later : final.world.callCount .createContainer = 2 := by decide +kernel
  -- None of the calls of the second run is a removal.
  have gone : ∀ call ∈ final.world.calls.drop reused.world.calls.length,
      call.query ≠ .removal (.string Script.usualCid) := by decide +kernel
  have answered : (reused.world.script.outcome .createContainer 1).result = .ok usualCreation := by
    rw [script]
    rfl
  refine ⟨?_, ⟨1, usualCreation, ?_, ?_, answered, rfl⟩, ?_⟩
  · rw [script]
    exact namesContainers_usual
  · exact Nat.le_of_eq earlier
  · exact Nat.lt_of_lt_of_eq (by decide) later.symm
  · rintro ⟨call, member, same⟩
    exact gone call member same

end Session

end ContainerScan
