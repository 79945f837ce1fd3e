import ContainerScan.Proofs.Record.Store
import ContainerScan.Proofs.World
import ContainerScan.Record.Keeping

/-! Records are added and changed by one request to the database each, which may fail. -/

namespace ContainerScan

namespace Record

/-- The first record of a container is about it, and has neither output nor result so far. -/
structure Drafted (cid : String) (container : Container) (origin : Origin) (record : Record) :
    Prop where
  cid : record.cid = cid
  command : some record.command = origin.template
  status : record.status = (container.status.getD .created).text
  exitCode : record.exitCode = container.exitCode.map Quantity.whole
  output : record.output = none
  result : record.result = none

/-- What is drafted for a container is its first record. -/
theorem drafted_of_draft? {cid : String} {container : Container} {origin : Origin} {record : Record}
    (drafted : draft? cid container origin = some record) :
    Drafted cid container origin record := by
  -- Where template, repository or branch is missing, nothing is drafted at all.
  obtain ⟨_ | template, _ | url, _ | branch, analyzer⟩ := origin
  all_goals first | (cases drafted; done) | skip
  cases drafted
  exact ⟨rfl, rfl, rfl, rfl, rfl, rfl⟩

/-- The first record of a finished container says that it is finished. -/
theorem Drafted.status_of_finished {cid : String} {container : Container} {origin : Origin}
    {record : Record} (drafted : Drafted cid container origin record)
    (finished : container.status = some .finished) : record.status = "finished" := by
  rw [drafted.status, finished]
  rfl

/-- A drafted record is inserted exactly if its container is new. -/
theorem Drafted.insert {cid : String} {container : Container} {origin : Origin} {record : Record}
    {store : Store} (drafted : Drafted cid container origin record)
    (usable : store.isUsable = true) (fits : container.exitCode.all Number.fitsWord = true) :
    store.insert record =
      if (store.find? cid).isSome then .error .database
      else .ok { store with rows := store.rows ++ [record.withoutOffsets] } := by
  -- A record of a known container is refused, and any other one goes to the end.
  have sized : record.exitCode.all Quantity.fits = true := by
    rw [drafted.exitCode, Option.all_map]
    exact fits
  by_cases known : (store.find? cid).isSome = true
  · rw [if_pos known, Store.insert_of_known usable sized (by rwa [drafted.cid])]
  · have new : store.find? record.cid = none := by
      rw [drafted.cid]
      simpa using known
    rw [if_neg known, Store.insert_of_new usable sized new]

end Record

namespace Keeping

open Step

/-- A request to a database that does not fail changes the store as it says. -/
theorem changeStore_of_up {α : Type} {change : Store → Except Failure (Store × α)} {world : World}
    (up : world.outages world.requests = none) :
    changeStore change world = match change world.store with
      | .ok (store, value) =>
        .ok value { world with requests := world.requests + 1, store := store }
      | .error failure => .error failure { world with requests := world.requests + 1 } := by
  -- Where the database is up the change decides.
  unfold changeStore
  split
  · rename_i failure down
    rw [up] at down
    cases down
  · rfl

/-- A request to a database that fails changes nothing. -/
theorem changeStore_of_down {α : Type} (change : Store → Except Failure (Store × α))
    {world : World} {failure : Failure} (down : world.outages world.requests = some failure) :
    changeStore change world = .error failure { world with requests := world.requests + 1 } := by
  simp only [changeStore, down]

/-- What succeeds is not refused. -/
theorem refusing_of_ok {α : Type} {act : Step World α} {world final : World} {value : α}
    (done : act world = .ok value final) (message : String) (cid : Json) :
    refusing message cid act world = .ok value final :=
  handling_of_ok done _ _

/-- A failure of the database becomes a refusal, and any other one is passed on. -/
theorem refusing_of_error {α : Type} {act : Step World α} {world middle : World}
    {failure : Failure} (failed : act world = .error failure middle) (message : String)
    (cid : Json) :
    ∃ events, refusing message cid act world =
      .error (if failure = .database then .notKept else failure)
        { middle with events := events } := by
  have handled := handling_of_error failed (· == .database) fun failure => do
    World.log logger .error message [("cid", cid), ("error", .string failure.text)]
    throw .notKept
  -- Only a failure of the database has a handler, which logs it and then refuses.
  by_cases database : failure = .database
  · obtain ⟨events, logged⟩ := World.log_apply logger .error message
      [("cid", cid), ("error", .string failure.text)] middle
    rw [if_pos (by simpa using database), bind_of_ok logged] at handled
    rw [if_pos database]
    exact ⟨events, handled⟩
  · rw [if_neg (by simpa using database)] at handled
    rw [if_neg database]
    exact ⟨middle.events, handled⟩

/-- A text is what it is as an identifier. -/
theorem eq_string_of_string? {cid : Json} {text : String} (named : cid.string? = some text) :
    cid = .string text := by
  cases cid <;> cases named
  rfl

/-- A record is added for a container that is new and has a text as its identifier, and for no
other one. -/
theorem addition_cases (container : Container) {origin : Record.Origin} (store : Store)
    (drafts : ∀ cid, (Record.draft? cid container origin).isSome = true) :
    (∃ cid record, container.cid = .string cid ∧ store.isUsable = true ∧ store.find? cid = none ∧
      Record.Drafted cid container origin record ∧
      addition container origin store =
        .ok ({ store with rows := store.rows ++ [record.withoutOffsets] }, record)) ∨
    (∃ failure, addition container origin store = .error failure ∧
      (store.isUsable = true → container.exitCode.all Number.fitsWord = true →
        failure = .database ∧
          ∀ cid, container.cid = .string cid → (store.find? cid).isSome = true)) := by
  -- The checks come in the order of the request: identifier, table, exit code, and then the row.
  cases read : container.cid.string? with
  | none =>
    refine Or.inr ⟨.database, by simp only [addition, read], fun _ _ => ⟨rfl, fun cid same => ?_⟩⟩
    rw [same] at read
    cases read
  | some cid =>
    have named := eq_string_of_string? read
    cases usable : store.isUsable with
    | false =>
      exact Or.inr ⟨.database, by simp [addition, read, usable], fun absurd => by cases absurd⟩
    | true =>
      cases fits : container.exitCode.all Number.fitsWord with
      | false =>
        exact Or.inr ⟨Column.tooLarge, by simp [addition, read, usable, fits],
          fun _ absurd => by cases absurd⟩
      | true =>
        obtain ⟨record, found⟩ := Option.isSome_iff_exists.mp (drafts cid)
        have drafted := Record.drafted_of_draft? found
        have shape : addition container origin store =
            (store.insert record).map fun after => (after, record) := by
          simp [addition, read, usable, fits, found]
        rw [shape, drafted.insert usable fits]
        -- With all else in order only a row of the same identifier stands in the way.
        by_cases known : (store.find? cid).isSome = true
        · rw [if_pos known]
          refine Or.inr ⟨.database, rfl, fun _ _ => ⟨rfl, fun other same => ?_⟩⟩
          obtain rfl : cid = other := by
            rw [named] at same
            cases same
            rfl
          exact known
        · rw [if_neg known]
          exact Or.inl ⟨cid, record, named, rfl, by simpa using known, drafted, rfl⟩

/-- A record is kept for a container that is new, or the store stays as it is; without a failure of
the database itself only a known container, or one without a text as its identifier, is refused. -/
theorem save_cases (container : Container) {origin : Record.Origin} (world : World)
    (made : container.cid.isNull = false)
    (drafts : ∀ cid, (Record.draft? cid container origin).isSome = true) :
    (∃ cid record events, container.cid = .string cid ∧ world.store.isUsable = true ∧
      world.store.find? cid = none ∧ Record.Drafted cid container origin record ∧
      save container origin world = .ok record { world with
        requests := world.requests + 1
        store := { world.store with rows := world.store.rows ++ [record.withoutOffsets] }
        events := events }) ∨
    (∃ failure events, save container origin world =
        .error failure { world with requests := world.requests + 1, events := events } ∧
      (world.outages world.requests = none → world.store.isUsable = true →
        container.exitCode.all Number.fitsWord = true →
        failure = .notKept ∧
          ∀ cid, container.cid = .string cid → (world.store.find? cid).isSome = true)) := by
  have opened : save container origin world =
      (refusing "Saving container record failed" container.cid (add container origin) >>=
        fun record => World.log logger .debug "Container record saved" [("cid", container.cid)] >>=
          fun _ => pure record) world := by
    unfold save
    rw [made]
    rfl
  rw [opened]
  -- Either the request reaches the database, and the addition decides, or it fails on the way.
  cases outage : world.outages world.requests with
  | some failure =>
    obtain ⟨events, refused⟩ := refusing_of_error (changeStore_of_down _ outage)
      "Saving container record failed" container.cid
    exact Or.inr ⟨_, events, bind_of_error refused _, fun absurd => by cases absurd⟩
  | none =>
    -- The database is reached, and what it refuses is logged under the identifier.
    have added : add container origin world = _ := changeStore_of_up outage
    rcases addition_cases container world.store drafts with
      ⟨cid, record, named, usable, new, drafted, done⟩ | ⟨failure, failed, why⟩
    · rw [done] at added
      obtain ⟨events, logged⟩ := World.log_pure_apply logger .debug "Container record saved"
        [("cid", container.cid)] record _
      exact Or.inl ⟨cid, record, events, named, usable, new, drafted,
        (bind_of_ok (refusing_of_ok added _ _) _).trans logged⟩
    · rw [failed] at added
      obtain ⟨events, refused⟩ := refusing_of_error added "Saving container record failed"
        container.cid
      refine Or.inr ⟨_, events, bind_of_error refused _, fun _ usable fits => ?_⟩
      obtain ⟨rfl, known⟩ := why usable fits
      exact ⟨rfl, known⟩

/-- A change of texts is one request to the database, which may be refused, and a warning if there is
no record to change. -/
theorem update_ofTexts_opened (cid : String) {output result : Option String}
    (given : output ≠ none ∨ result ≠ none) (world : World) :
    update cid (.ofTexts output result) world =
      (refusing "Updating container record failed" (.string cid)
        (changeStore fun store => store.update cid (.ofTexts output result)) >>= fun matched =>
          if !matched then
            World.log logger .warning "No container record matched" [("cid", .string cid),
              ("fields", .array
                ((sorted ((Fields.ofTexts output result).map Prod.fst)).map .string))]
          else pure ())
        { world with updates := world.updates ++ [(cid, .ofTexts output result)] } := by
  -- Texts have names that are known, and there is one of them at least.
  rcases output with _ | output <;> rcases result with _ | result
  · simp at given
  all_goals rfl

/-- Texts of a container's record change as they are to, while the database does not fail. -/
theorem update_ofTexts {world : World} (usable : world.store.isUsable = true)
    (up : world.outages world.requests = none) (cid : String) {output result : Option String}
    (given : output ≠ none ∨ result ≠ none) :
    ∃ events, update cid (.ofTexts output result) world = .ok () { world with
      updates := world.updates ++ [(cid, .ofTexts output result)]
      requests := world.requests + 1
      store := { world.store with
        rows := Store.rowsWithTexts world.store.rows cid output result }
      events := events } := by
  let noted := { world with updates := world.updates ++ [(cid, Fields.ofTexts output result)] }
  have ended : changeStore (fun store => store.update cid (.ofTexts output result)) noted = _ :=
    changeStore_of_up (show noted.outages noted.requests = none from up)
  have changed : noted.store.update cid (.ofTexts output result) = _ :=
    Store.update_ofTexts usable cid output result
  rw [changed] at ended
  rw [update_ofTexts_opened cid given, bind_of_ok (refusing_of_ok ended _ _)]
  -- Where no record matched, a warning is all that follows.
  by_cases matched : (noted.store.find? cid).isSome = true
  · rw [matched]
    exact ⟨world.events, rfl⟩
  · rw [Bool.eq_false_iff.mpr matched]
    exact World.log_apply ..

/-- Texts of the newest record change as they are to, unless the database fails. -/
theorem update_newest {world : World} {old : List Record} {newest : Record}
    (usable : world.store.isUsable = true) (rows : world.store.rows = old ++ [newest])
    (new : ∀ record ∈ old, record.cid ≠ newest.cid) {output result : Option String}
    (given : output ≠ none ∨ result ≠ none) :
    (∃ final, update newest.cid (.ofTexts output result) world = .ok () final ∧
      final.store = { world.store with rows := old ++ [newest.withTexts output result] }) ∨
    (∃ cause failure final, world.outages world.requests = some cause ∧
      update newest.cid (.ofTexts output result) world = .error failure final ∧
      final.store = world.store) := by
  cases outage : world.outages world.requests with
  | some cause =>
    let noted : World :=
      { world with updates := world.updates ++ [(newest.cid, Fields.ofTexts output result)] }
    have down : noted.outages noted.requests = some cause := outage
    obtain ⟨events, refused⟩ := refusing_of_error (changeStore_of_down _ down)
      "Updating container record failed" (.string newest.cid)
    rw [update_ofTexts_opened newest.cid given]
    exact Or.inr ⟨cause, _, _, rfl, bind_of_error refused _, rfl⟩
  | none =>
    obtain ⟨events, done⟩ := update_ofTexts usable outage newest.cid given
    -- The newest row is the only one about its container.
    refine Or.inl ⟨_, done, ?_⟩
    have changed := Store.update_newest usable rows new output result
    rw [Store.update_ofTexts usable] at changed
    exact congrArg Prod.fst (Except.ok.inj changed)

/-! Keeping records is nothing that the daemon gets to know of. -/

/-- A request to the database is none to the daemon. -/
theorem changeStore_silent {α : Type} (change : Store → Except Failure (Store × α)) :
    Follows World.Silent (changeStore change) := by
  -- It counts as a request, and the calls of the daemon are another list.
  refine ⟨fun world => ?_⟩
  cases outage : world.outages world.requests with
  | some failure =>
    rw [after_of_error (changeStore_of_down change outage)]
    rfl
  | none =>
    have ended : changeStore change world = _ := changeStore_of_up outage
    cases changed : change world.store with
    | ok result =>
      rw [changed] at ended
      rw [after_of_ok ended]
      rfl
    | error failure =>
      rw [changed] at ended
      rw [after_of_error ended]
      rfl

/-- A refusal is logged, and that is all. -/
theorem refusing_silent {α : Type} {act : Step World α} (silent : Follows World.Silent act)
    (message : String) (cid : Json) : Follows World.Silent (refusing message cid act) :=
  silent.handling _ fun _ => (World.log_silent ..).bind fun _ => follows_throw _

/-- Keeping a record is silent. -/
theorem save_silent (container : Container) (origin : Record.Origin) :
    Follows World.Silent (save container origin) := by
  -- A container without an id in words is refused, and any other one goes to the store.
  unfold save
  split
  · exact follows_throw _
  · exact (refusing_silent (changeStore_silent _) ..).bind fun _ =>
      (World.log_silent ..).bind fun _ => follows_pure _

/-- A change of known fields is silent. -/
theorem change_silent (cid : String) (fields : Fields) :
    Follows World.Silent (change cid fields) := by
  -- The store is asked first, and then at most a warning written.
  refine (refusing_silent (changeStore_silent _) ..).bind fun matched => ?_
  cases matched with
  | true => exact follows_pure _
  | false => exact World.log_silent ..

/-- A change of a record is silent. -/
theorem update_silent (cid : String) (fields : Fields) :
    Follows World.Silent (update cid fields) := by
  -- The change is noted before anything else, and unknown fields are refused without a request.
  have noted : Follows World.Silent (World.noteUpdate cid fields) := ⟨fun _ => rfl⟩
  refine noted.bind fun _ => ?_
  dsimp only
  split
  · exact follows_throw _
  · split
    · exact change_silent cid fields
    · exact follows_pure _

end Keeping

end ContainerScan
