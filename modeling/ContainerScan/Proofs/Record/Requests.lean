import ContainerScan.Proofs.Record.Keeping
import ContainerScan.Proofs.Record.Overlay

/-! Requests for records in any number and order: the store is a map from identifiers to records, in
which each of them goes its own way. -/

namespace ContainerScan

namespace Record

/-- What the first record of a container says, value by value. -/
structure IsFirst (cid : String) (container : Container) (origin : Origin) (record : Record) :
    Prop where
  cid : record.cid = cid
  imageName : record.imageName = container.image.name
  imageTag : record.imageTag = container.image.tag
  /-- An address that is empty is none. -/
  canonicalUrl : record.canonicalUrl =
    if container.image.canonicalUrl = "" then none else some container.image.canonicalUrl
  command : origin.template = some record.command
  repositoryUrl : origin.repositoryUrl = some record.repositoryUrl
  branch : origin.branch = some record.branch
  analyzer : record.analyzer = origin.analyzer
  /-- A container without a status counts as created. -/
  status : record.status = (container.status.elim "created" Status.text)
  exitCode : record.exitCode = container.exitCode.map Quantity.whole
  startedAt : record.startedAt = container.startedAt
  finishedAt : record.finishedAt = container.finishedAt
  output : record.output = none
  result : record.result = none

/-- What is drafted for a container is its first record. -/
theorem isFirst_of_draft? {cid : String} {container : Container} {origin : Origin}
    {record : Record} (drafted : draft? cid container origin = some record) :
    IsFirst cid container origin record := by
  -- A draft needs a template, a repository and a branch, and takes over all the rest.
  obtain ⟨_ | template, _ | url, _ | branch, analyzer⟩ := origin
  all_goals first | (cases drafted; done) | skip
  cases drafted
  refine ⟨rfl, rfl, rfl, rfl, rfl, rfl, rfl, rfl, ?_, rfl, rfl, rfl, rfl, rfl⟩
  cases container.status <;> rfl

/-- A record can be drafted exactly if template, repository and branch are there. -/
theorem draft?_eq_none_iff {cid : String} {container : Container} {origin : Origin} :
    draft? cid container origin = none ↔
      origin.template = none ∨ origin.repositoryUrl = none ∨ origin.branch = none := by
  obtain ⟨_ | template, _ | url, _ | branch, analyzer⟩ := origin <;> simp [draft?]

end Record

namespace Keeping

open Step

/-- Something that is asked of the records. -/
inductive Request where
  | save (container : Container) (origin : Record.Origin)
  | update (cid : String) (fields : Fields)
  | get (cid : String)

namespace Request

/-- What is done for a request. -/
def act : Request → Step World (Option Record)
  | save container origin => some <$> Keeping.save container origin
  | update cid fields => do
    Keeping.update cid fields
    return none
  | get cid => Keeping.get cid

/-- Whether a request is about the record of a container. -/
def isAbout (cid : String) : Request → Bool
  | save container _ => container.cid = .string cid
  | update other _ => other = cid
  | get other => other = cid

/-- A request whose values are of the types of their columns, or null: a container has a text as
its identifier or none, its exit code fits into a word and its clocks are those of universal time.
A value for a moment may be of any other kind. -/
def Typed : Request → Prop
  | save container _ =>
    (container.cid = .null ∨ ∃ cid, container.cid = .string cid) ∧
      container.exitCode.all Number.fitsWord = true ∧
      (∀ moment, container.startedAt = some moment → moment.IsUniversal) ∧
      ∀ moment, container.finishedAt = some moment → moment.IsUniversal
  | update _ fields => ∀ field ∈ fields, field.1 ∈ Record.changeable →
    Column.Takes field.1 field.2 ∨ Column.isForeign field = true
  | get _ => True

/-- Why a request is refused, given which records there are. -/
def Refused (known : String → Option Record) : Request → Prop
  | save container origin =>
    -- The container was never created, has a record already, or lacks what a record must have.
    container.cid = .null ∨ (∃ cid, container.cid = .string cid ∧ (known cid).isSome = true) ∨
      origin.template = none ∨ origin.repositoryUrl = none ∨ origin.branch = none
  | update cid fields =>
    -- A name is unknown, a moment is of another kind, or a record would lose its status.
    (∃ field ∈ fields, field.1 ∉ Record.changeable) ∨
      (∃ field ∈ fields, Column.isForeign field = true) ∨
      (fields.given? "status" = some .null ∧ (known cid).isSome = true)
  | get _ => False

/-- What becomes of the record of a container by a request, and whether that succeeded. -/
def effect (cid : String) (known : Option Record) : Request × Bool → Option Record
  | (_, false) => known
  | (save container origin, true) =>
    if container.cid = .string cid then Record.draft? cid container origin else known
  | (update other fields, true) =>
    if other = cid then known.map fun record => record.overlay fields else known
  | (get _, true) => known

end Request

/-- The world after requests, of which some may have been refused. -/
def finish (requests : List Request) (world : World) : World :=
  requests.foldl (fun world request => after request.act world) world

/-- Requests with the word on each of them whether it succeeded. -/
def history : List Request → World → List (Request × Bool)
  | [], _ => []
  | request :: rest, world =>
    (request, (result request.act world).isOk) :: history rest (after request.act world)

/-- The record of a container as a history tells it: the values of the save that succeeded under
the values of the updates that succeeded after it, in order. -/
def recorded (cid : String) (history : List (Request × Bool)) : Option Record :=
  history.foldl (Request.effect cid) none

/-! One request: it succeeds and changes one record, or is refused and changes none. -/

/-- The records that there are after a request that was not refused. -/
def Request.onto (kept : List Record) : Request → List Record
  | .save container origin =>
    kept ++ (container.cid.string?.bind fun cid => Record.draft? cid container origin).toList
  | .update cid fields => kept.map (Record.overlayAt cid fields)
  | .get _ => kept

/-- A database that does not fail and keeps some records, one for each container, whose clocks are
those of universal time. -/
structure Keeps (kept : List Record) (world : World) : Prop where
  usable : world.store.isUsable = true
  up : ∀ number, world.outages number = none
  rows : world.store.rows = kept.map Record.withoutOffsets
  distinct : (kept.map Record.cid).Nodup
  universal : ∀ record ∈ kept, record.IsUniversal

/-- The record that is kept of a container. -/
def recordIn (kept : List Record) (cid : String) : Option Record :=
  kept.find? fun record => record.cid = cid

/-- A world with the same database keeps the same records. -/
theorem Keeps.of_same {kept : List Record} {world other : World} (keeps : Keeps kept world)
    (store : other.store = world.store) (outages : other.outages = world.outages) :
    Keeps kept other := by
  -- Only the store and its outages are looked at.
  obtain ⟨usable, up, rows, distinct, universal⟩ := keeps
  refine ⟨?_, ?_, ?_, distinct, universal⟩
  · rwa [store]
  · rwa [outages]
  · rwa [store]

/-- A container is looked up among the records that are kept. -/
theorem Keeps.find? {kept : List Record} {world : World} (keeps : Keeps kept world)
    (cid : String) :
    world.store.find? cid = (recordIn kept cid).map Record.withoutOffsets :=
  Store.find?_kept keeps.rows cid

/-- A record is added for a container that has a text as its identifier, unless something is
missing or the container is known. -/
theorem addition_string {container : Container} {cid : String} {store : Store}
    (named : container.cid = .string cid) (usable : store.isUsable = true)
    (fits : container.exitCode.all Number.fitsWord = true) (origin : Record.Origin) :
    addition container origin store = match Record.draft? cid container origin with
      | none => .error .database
      | some record =>
        if (store.find? cid).isSome then .error .database
        else .ok ({ store with rows := store.rows ++ [record.withoutOffsets] }, record) := by
  -- The id is a text and the code fits, so the draft decides, and then the rows.
  simp only [addition, named, Json.string?, usable, fits, Bool.not_true, Bool.false_eq_true,
    if_false]
  cases drafted : Record.draft? cid container origin with
  | none => rfl
  | some record =>
    have inserted := (Record.drafted_of_draft? drafted).insert usable fits
    change (store.insert record).map _ = _
    rw [inserted]
    split
    · rfl
    · rfl

/-- A request that the store refuses is a failure to keep a record, and changes nothing. -/
theorem refusing_refused {α : Type} {change : Store → Except Failure (Store × α)} {world : World}
    (up : ∀ number, world.outages number = none) (failed : change world.store = .error .database)
    (message : String) (cid : Json) :
    ∃ final, refusing message cid (changeStore change) world = .error .notKept final ∧
      final.store = world.store ∧ final.outages = world.outages := by
  -- The database is up, so what fails is the change, and that is told in other words.
  have stopped : changeStore change world = _ := changeStore_of_up (up world.requests)
  rw [failed] at stopped
  obtain ⟨events, refused⟩ := refusing_of_error stopped message cid
  exact ⟨_, refused, rfl, rfl⟩

/-- A row is about a container exactly if a record is kept of it. -/
theorem Keeps.isSome_find? {kept : List Record} {world : World} (keeps : Keeps kept world)
    (cid : String) : (world.store.find? cid).isSome = (recordIn kept cid).isSome := by
  rw [keeps.find?, Option.isSome_map]

/-- A container has no record exactly if none of those that are kept is about it. -/
theorem recordIn_eq_none_iff {kept : List Record} {cid : String} :
    recordIn kept cid = none ↔ ∀ record ∈ kept, record.cid ≠ cid := by
  simp [recordIn, List.find?_eq_none]

/-- A record that is added for a new container leaves one record for each container. -/
theorem Keeps.added {kept : List Record} {world final : World} (keeps : Keeps kept world)
    {cid : String} {container : Container} {origin : Record.Origin} {record : Record}
    (typed : (Request.save container origin).Typed)
    (drafted : Record.draft? cid container origin = some record) (new : recordIn kept cid = none)
    (store : final.store =
      { world.store with rows := world.store.rows ++ [record.withoutOffsets] })
    (outages : final.outages = world.outages) : Keeps (kept ++ [record]) final := by
  have first := Record.isFirst_of_draft? drafted
  obtain ⟨_, _, started, finished⟩ := typed
  refine ⟨?_, ?_, ?_, ?_, ?_⟩
  · rw [store]
    exact keeps.usable
  · rw [outages]
    exact keeps.up
  · rw [store, List.map_append, ← keeps.rows]
    rfl
  · -- The new identifier stands behind all others, and is none of them.
    have other : ∀ old ∈ kept, old.cid ≠ record.cid := by
      rw [first.cid]
      exact recordIn_eq_none_iff.mp new
    rw [List.map_append, List.nodup_append]
    refine ⟨keeps.distinct, List.pairwise_singleton _ _, ?_⟩
    intro earlier member later same
    obtain ⟨old, there, rfl⟩ := List.mem_map.mp member
    obtain rfl := List.mem_singleton.mp same
    exact other old there
  · -- The times of the new record are known to be universal.
    intro old member
    rcases List.mem_append.mp member with there | there
    · exact keeps.universal old there
    · obtain rfl := List.mem_singleton.mp there
      exact ⟨by rwa [first.startedAt], by rwa [first.finishedAt]⟩

/-- The save of a container that is told by a text is refused exactly if the container has a record,
or something is missing from which one is drafted. -/
theorem Request.refused_save_iff {container : Container} {cid : String} {origin : Record.Origin}
    {known : String → Option Record} (named : container.cid = .string cid) :
    (Request.save container origin).Refused known ↔
      (known cid).isSome = true ∨ Record.draft? cid container origin = none := by
  rw [Record.draft?_eq_none_iff]
  simp [Request.Refused, named]

/-- A save that is not refused is one of a new container, for which a record is drafted. -/
theorem Request.drafted_of_allowed {container : Container} {cid : String} {origin : Record.Origin}
    {known : String → Option Record} (named : container.cid = .string cid)
    (allowed : ¬(Request.save container origin).Refused known) :
    known cid = none ∧ ∃ record, Record.draft? cid container origin = some record := by
  rw [Request.refused_save_iff named, not_or] at allowed
  exact ⟨by simpa using allowed.1, Option.ne_none_iff_exists'.mp allowed.2⟩

/-- A saved record stands behind all others. -/
theorem Request.onto_save {kept : List Record} {container : Container} {cid : String}
    {origin : Record.Origin} {record : Record} (named : container.cid = .string cid)
    (drafted : Record.draft? cid container origin = some record) :
    (Request.save container origin).onto kept = kept ++ [record] := by
  simp [Request.onto, named, Json.string?, drafted]

/-- A container that is told by a text is saved by the store. -/
theorem save_of_named {container : Container} {cid : String} (named : container.cid = .string cid)
    (origin : Record.Origin) (world : World) :
    save container origin world =
      (refusing "Saving container record failed" container.cid (add container origin) >>=
        fun record => World.log logger .debug "Container record saved" [("cid", container.cid)] >>=
          fun _ => pure record) world := by
  unfold save
  rw [named]
  rfl

/-- A container that the store adds is saved. -/
theorem save_of_added {container : Container} {cid : String} {origin : Record.Origin}
    {world : World} {store : Store} {record : Record} (named : container.cid = .string cid)
    (up : ∀ number, world.outages number = none)
    (addition : addition container origin world.store = .ok (store, record)) :
    ∃ final, save container origin world = .ok record final ∧ final.store = store ∧
      final.outages = world.outages := by
  -- The database is up, and behind the record comes an event about it.
  have added : add container origin world = _ := changeStore_of_up (up _)
  rw [addition] at added
  obtain ⟨events, logged⟩ := World.log_pure_apply logger .debug "Container record saved"
    [("cid", container.cid)] record _
  rw [save_of_named named]
  exact ⟨_, (bind_of_ok (refusing_of_ok added _ _) _).trans logged, rfl, rfl⟩

/-- A container that the store does not add is not saved. -/
theorem save_of_refused {container : Container} {cid : String} {origin : Record.Origin}
    {world : World} (named : container.cid = .string cid)
    (up : ∀ number, world.outages number = none)
    (addition : addition container origin world.store = .error .database) :
    ∃ failure final, save container origin world = .error failure final ∧
      failure.isPersistence = true ∧ final.store = world.store ∧
      final.outages = world.outages := by
  -- A refused addition leaves the store as it was.
  obtain ⟨final, stopped, store, outages⟩ := refusing_refused up addition
    "Saving container record failed" container.cid
  rw [save_of_named named]
  exact ⟨_, final, bind_of_error stopped _, rfl, store, outages⟩

/-- A typed container gets its record, or is refused for a reason. -/
theorem save_typed_cases {container : Container} {origin : Record.Origin} {kept : List Record}
    {world : World} (keeps : Keeps kept world) (typed : (Request.save container origin).Typed) :
    (¬(Request.save container origin).Refused (recordIn kept) ∧ ∃ record final,
      save container origin world = .ok record final ∧
      Keeps ((Request.save container origin).onto kept) final) ∨
    ((Request.save container origin).Refused (recordIn kept) ∧ ∃ failure final,
      save container origin world = .error failure final ∧ failure.isPersistence = true ∧
      final.store = world.store ∧ final.outages = world.outages) := by
  rcases typed.1 with null | ⟨cid, named⟩
  · -- A container that was never created is refused before the store is asked.
    have refused : save container origin world =
        .error (.persistence "container was never created; nothing to save") world := by
      unfold save
      rw [null]
      rfl
    exact Or.inr ⟨Or.inl null, _, world, refused, rfl, rfl, rfl⟩
  · have addition := addition_string named keeps.usable typed.2.1 origin
    rw [keeps.isSome_find? cid] at addition
    by_cases refused : (Request.save container origin).Refused (recordIn kept)
    · -- Known or not, a container of which nothing is drafted is not added either.
      have failed : Keeping.addition container origin world.store = .error .database := by
        cases drafted : Record.draft? cid container origin with
        | none => rw [addition, drafted]
        | some record =>
          have known := (Request.refused_save_iff named).mp refused
          rw [drafted] at known
          rw [addition, drafted]
          exact if_pos (known.resolve_right nofun)
      exact Or.inr ⟨refused, save_of_refused named keeps.up failed⟩
    · obtain ⟨new, record, drafted⟩ := Request.drafted_of_allowed named refused
      rw [drafted, new] at addition
      obtain ⟨final, done, store, outages⟩ := save_of_added named keeps.up addition
      refine Or.inl ⟨refused, record, final, done, ?_⟩
      rw [Request.onto_save named drafted]
      exact keeps.added typed drafted new store outages

/-- A name is unknown exactly if one of the fields has it and it may not change. -/
theorem unknownNames_isEmpty {fields : Fields} :
    (unknownNames fields).isEmpty = true ↔ ∀ field ∈ fields, field.1 ∈ Record.changeable := by
  simp [unknownNames]

/-- Without fields every record stays as it is. -/
theorem onto_nothing (kept : List Record) (cid : String) :
    (Request.update cid []).onto kept = kept := by
  -- An overlay without fields is none.
  have same : ∀ record ∈ kept, record.overlayAt cid [] = id record := fun record _ => by
    unfold Record.overlayAt
    split
    · rfl
    · rfl
  rw [Request.onto, List.map_congr_left same, List.map_id]

/-- Other values leave one record for each container, with clocks of universal time. -/
theorem Keeps.overlaid {kept : List Record} {world final : World} (keeps : Keeps kept world)
    {cid : String} {fields : Fields} (typed : fields.Typed)
    (store : final.store = { world.store with
      rows := (kept.map (Record.overlayAt cid fields)).map Record.withoutOffsets })
    (outages : final.outages = world.outages) :
    Keeps ((Request.update cid fields).onto kept) final := by
  -- An overlay keeps the ids, and so their being distinct.
  have identifiers : (kept.map (Record.overlayAt cid fields)).map Record.cid =
      kept.map Record.cid := by
    rw [List.map_map]
    exact List.map_congr_left fun record _ => Record.overlayAt_cid cid fields record
  refine ⟨?_, ?_, ?_, ?_, ?_⟩
  · rw [store]
    exact keeps.usable
  · rw [outages]
    exact keeps.up
  · rw [store]
    rfl
  · rw [Request.onto, identifiers]
    exact keeps.distinct
  · intro record member
    obtain ⟨old, there, rfl⟩ := List.mem_map.mp member
    unfold Record.overlayAt
    split
    · exact (keeps.universal old there).overlay typed
    · exact keeps.universal old there

/-- The store makes the changes of typed fields with known names, or refuses them for a reason. -/
theorem update_store_cases {kept : List Record} {world : World} (keeps : Keeps kept world)
    {cid : String} {fields : Fields} (typed : (Request.update cid fields).Typed)
    (known : ∀ field ∈ fields, field.1 ∈ Record.changeable) :
    (¬(Request.update cid fields).Refused (recordIn kept) ∧ fields.Typed ∧ ∃ matched,
      world.store.update cid fields = .ok ({ world.store with
        rows := (kept.map (Record.overlayAt cid fields)).map Record.withoutOffsets }, matched)) ∨
    ((Request.update cid fields).Refused (recordIn kept) ∧
      world.store.update cid fields = .error .database) := by
  -- What is no moment is refused in a column of moments, whatever the record.
  cases foreign : fields.any Column.isForeign with
  | true =>
    have found : ∃ field ∈ fields, Column.isForeign field = true := by simpa using foreign
    exact Or.inr ⟨Or.inr (Or.inl found), Store.update_foreign keeps.usable cid foreign⟩
  | false =>
    have native : ∀ field ∈ fields, ¬Column.isForeign field = true := by simpa using foreign
    have typed : fields.Typed := fun field member changes =>
      (typed field member changes).resolve_right (native field member)
    by_cases lost : fields.given? "status" = some .null ∧ (recordIn kept cid).isSome = true
    · obtain ⟨record, found⟩ := Option.isSome_iff_exists.mp lost.2
      have about : record.cid = cid := by simpa using List.find?_some found
      exact Or.inr ⟨Or.inr (Or.inr lost), Store.update_null keeps.usable keeps.rows typed foreign
        lost.1 (List.mem_of_find?_eq_some found) about⟩
    · -- Null is given for a status only where no record is there to lose its own.
      have status : ∀ record ∈ kept, record.cid = cid → fields.given? "status" ≠ some .null := by
        intro record member about null
        refine lost ⟨null, ?_⟩
        rw [recordIn, List.find?_isSome]
        exact ⟨record, member, decide_eq_true about⟩
      refine Or.inl ⟨?_, typed, _, Store.update_typed keeps.usable keeps.rows typed foreign status⟩
      rintro (⟨field, member, unknown⟩ | ⟨field, member, other⟩ | why)
      · exact unknown (known field member)
      · exact native field member other
      · exact lost why

/-- A change that the store makes is made, with a warning where there was no record. -/
theorem change_of_ok {world : World} {cid : String} {fields : Fields} {store : Store}
    {matched : Bool} (up : ∀ number, world.outages number = none)
    (changed : world.store.update cid fields = .ok (store, matched)) :
    ∃ final, change cid fields world = .ok () final ∧ final.store = store ∧
      final.outages = world.outages := by
  -- Whether a row has matched decides about a warning only.
  have ended : changeStore (fun store => store.update cid fields) world = _ :=
    changeStore_of_up (up _)
  rw [changed] at ended
  unfold change
  rw [bind_of_ok (refusing_of_ok ended _ _)]
  cases matched with
  | true => exact ⟨_, rfl, rfl, rfl⟩
  | false =>
    obtain ⟨events, logged⟩ := World.log_apply logger .warning "No container record matched"
      [("cid", .string cid), ("fields", .array ((sorted (fields.map Prod.fst)).map .string))]
      { world with requests := world.requests + 1, store := store }
    exact ⟨_, logged, rfl, rfl⟩

/-- An update with a name that may not change is refused before the store is asked. -/
theorem update_of_unknown {cid : String} {fields : Fields} (world : World)
    (unknown : (unknownNames fields).isEmpty = false) :
    ∃ failure final, update cid fields world = .error failure final ∧
      failure.isPersistence = true ∧ final.store = world.store ∧
      final.outages = world.outages := by
  -- Unknown names are refused before the store is asked.
  have opened : update cid fields world =
      (if !(unknownNames fields).isEmpty then
        throw (.persistence ("unknown record fields: " ++
          Text.quotedList (sorted (unknownNames fields))))
      else if !fields.isEmpty then change cid fields else pure ())
        { world with updates := world.updates ++ [(cid, fields)] } := rfl
  rw [unknown] at opened
  exact ⟨_, _, opened, rfl, rfl, rfl⟩

/-- An update with names that may change is made as far as there is one. -/
theorem update_of_known {cid : String} {fields : Fields} (world : World)
    (known : (unknownNames fields).isEmpty = true) :
    update cid fields world = (if !fields.isEmpty then change cid fields else pure ())
      { world with updates := world.updates ++ [(cid, fields)] } := by
  -- The change is noted first, and then made if there is one.
  have opened : update cid fields world =
      (if !(unknownNames fields).isEmpty then
        throw (.persistence ("unknown record fields: " ++
          Text.quotedList (sorted (unknownNames fields))))
      else if !fields.isEmpty then change cid fields else pure ())
        { world with updates := world.updates ++ [(cid, fields)] } := rfl
  rw [opened, known]
  rfl

/-- Typed fields are written into a record, or refused for a reason. -/
theorem update_typed_cases {cid : String} {fields : Fields} {kept : List Record} {world : World}
    (keeps : Keeps kept world) (typed : (Request.update cid fields).Typed) :
    (¬(Request.update cid fields).Refused (recordIn kept) ∧ ∃ final,
      update cid fields world = .ok () final ∧
      Keeps ((Request.update cid fields).onto kept) final) ∨
    ((Request.update cid fields).Refused (recordIn kept) ∧ ∃ failure final,
      update cid fields world = .error failure final ∧ failure.isPersistence = true ∧
      final.store = world.store ∧ final.outages = world.outages) := by
  cases known : (unknownNames fields).isEmpty with
  | false =>
    have unknown : ∃ field ∈ fields, field.1 ∉ Record.changeable := by
      by_contra none
      rw [unknownNames_isEmpty.mpr (by simpa using none)] at known
      cases known
    exact Or.inr ⟨Or.inl unknown, update_of_unknown world known⟩
  | true =>
    have named := unknownNames_isEmpty.mp known
    have opened := @update_of_known cid fields world known
    -- That the update was asked for is noted before anything else.
    have keeps : Keeps kept { world with updates := world.updates ++ [(cid, fields)] } :=
      keeps.of_same rfl rfl
    rcases fields with _ | ⟨field, rest⟩
    · -- An update of nothing does not reach the table.
      refine Or.inl ⟨by simp [Request.Refused, Fields.given?], _, opened, ?_⟩
      rw [onto_nothing]
      exact keeps
    · have opened : update cid (field :: rest) world = change cid (field :: rest) _ := opened
      rw [opened]
      rcases update_store_cases keeps typed named with
        ⟨allowed, typed, matched, changed⟩ | ⟨why, failed⟩
      · obtain ⟨final, done, store, outages⟩ := change_of_ok keeps.up changed
        exact Or.inl ⟨allowed, final, done, keeps.overlaid typed store outages⟩
      · obtain ⟨final, stopped, store, outages⟩ :=
          @refusing_refused _ (fun store => store.update cid (field :: rest)) _ keeps.up failed
            "Updating container record failed" (.string cid)
        exact Or.inr ⟨why, _, final, bind_of_error stopped _, rfl, store, outages⟩

/-- What is read of a container is what is kept of it. -/
theorem get_apply (cid : String) {kept : List Record} {world : World}
    (keeps : Keeps kept world) :
    ∃ final, get cid world = .ok ((recordIn kept cid).map Record.withoutOffsets) final ∧
      final.store = world.store ∧ final.outages = world.outages := by
  -- The store is read, and left as it is.
  have read : get cid world = _ := changeStore_of_up (keeps.up _)
  simp only [Store.get, keeps.usable, if_true, Except.map] at read
  rw [keeps.find?] at read
  exact ⟨_, read, rfl, rfl⟩

/-- A typed request is fulfilled, or refused for a reason and without a change of the records. -/
theorem act_cases {request : Request} {kept : List Record} {world : World}
    (keeps : Keeps kept world) (typed : request.Typed) :
    (¬request.Refused (recordIn kept) ∧ (∃ answer, result request.act world = .ok answer) ∧
      Keeps (request.onto kept) (after request.act world)) ∨
    (request.Refused (recordIn kept) ∧ ∃ failure, result request.act world = .error failure ∧
      failure.isPersistence = true ∧ (after request.act world).store = world.store ∧
      Keeps kept (after request.act world)) := by
  -- Each kind of request has its own cases, which are told here in one way.
  cases request with
  | save container origin =>
    rcases save_typed_cases keeps typed with
      ⟨allowed, record, final, done, kept⟩ | ⟨why, failure, final, failed, kind, store, outages⟩
    · have done := map_of_ok done (some : Record → Option Record)
      refine Or.inl ⟨allowed, ⟨some record, result_of_ok done⟩, ?_⟩
      rwa [Request.act, after_of_ok done]
    · have failed := map_of_error failed (some : Record → Option Record)
      refine Or.inr ⟨why, failure, result_of_error failed, kind, ?_⟩
      rw [Request.act, after_of_error failed]
      exact ⟨store, keeps.of_same store outages⟩
  | update cid fields =>
    rcases update_typed_cases keeps typed with
      ⟨allowed, final, done, kept⟩ | ⟨why, failure, final, failed, kind, store, outages⟩
    · have done : (Request.update cid fields).act world = .ok none final := bind_of_ok done _
      refine Or.inl ⟨allowed, ⟨none, result_of_ok done⟩, ?_⟩
      rwa [after_of_ok done]
    · have failed : (Request.update cid fields).act world = .error failure final :=
        bind_of_error failed _
      refine Or.inr ⟨why, failure, result_of_error failed, kind, ?_⟩
      rw [after_of_error failed]
      exact ⟨store, keeps.of_same store outages⟩
  -- Reading is never refused, and changes nothing.
  | get cid =>
    obtain ⟨final, done, store, outages⟩ := get_apply cid keeps
    refine Or.inl ⟨id, ⟨_, result_of_ok done⟩, ?_⟩
    rw [Request.act, after_of_ok done]
    exact keeps.of_same store outages

/-- An update of one container finds the same records, and changes the one of that container. -/
theorem recordIn_onto_update (kept : List Record) (cid other : String) (fields : Fields) :
    recordIn ((Request.update other fields).onto kept) cid =
      Request.effect cid (recordIn kept cid) (.update other fields, true) := by
  -- The record that is found stays where it is.
  have found : recordIn ((Request.update other fields).onto kept) cid =
      (recordIn kept cid).map (Record.overlayAt other fields) := by
    unfold recordIn Request.onto
    rw [List.find?_map]
    congr 2
    funext record
    simp only [Function.comp_apply, Record.overlayAt_cid]
  rw [found]
  unfold Request.effect
  cases known : recordIn kept cid with
  | none => simp
  | some record =>
    have about : record.cid = cid := by simpa using List.find?_some known
    rw [Option.map_some, Record.overlayAt, about]
    by_cases same : cid = other
    · simp [same]
    · simp [same, Ne.symm same]

/-- A request that is fulfilled has its effect on the record of each container, and on no other
one. -/
theorem recordIn_onto {request : Request} {kept : List Record} (cid : String)
    (typed : request.Typed) (allowed : ¬request.Refused (recordIn kept)) :
    recordIn (request.onto kept) cid = Request.effect cid (recordIn kept cid) (request, true) := by
  cases request with
  | get other => rfl
  | update other fields => exact recordIn_onto_update kept cid other fields
  | save container origin =>
    rcases typed.1 with null | ⟨other, named⟩
    · exact absurd (Or.inl null) allowed
    · obtain ⟨new, record, drafted⟩ := Request.drafted_of_allowed named allowed
      have about := (Record.isFirst_of_draft? drafted).cid
      rw [Request.onto_save named drafted, recordIn, List.find?_append, ← recordIn]
      simp only [Request.effect, named, Json.string.injEq]
      -- The new record stands behind all others, of which none is about its container.
      by_cases same : other = cid
      · subst same
        simp [new, about, drafted]
      · simp [same, about]

end Keeping

end ContainerScan
