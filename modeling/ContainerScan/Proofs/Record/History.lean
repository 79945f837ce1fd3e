import ContainerScan.Proofs.Record.Requests

/-! Histories of requests for records: what is kept of a container is what its own requests make of
it, whatever is asked about others and in between. -/

namespace ContainerScan.Keeping

open Step

/-! What one request comes to. -/

/-- A reader gets what is kept of a container, without the zones of its clocks. -/
theorem Keeps.read {kept : List Record} {world : World} (keeps : Keeps kept world) (cid : String) :
    ∃ found final, get cid world = .ok found final ∧
      found = (recordIn kept cid).map Record.withoutOffsets ∧
      found.map Record.inUniversalTime = recordIn kept cid := by
  obtain ⟨final, read, _⟩ := get_apply cid keeps
  refine ⟨_, final, read, rfl, ?_⟩
  rw [Option.map_map]
  -- Records are kept in universal time, so nothing but the name of the zone is lost.
  cases found : recordIn kept cid with
  | none => rfl
  | some record =>
    exact congrArg some (keeps.universal record (List.mem_of_find?_eq_some found)).restored

/-- A typed request fails if and only if there is a reason for its refusal. -/
theorem Keeps.fails_iff {request : Request} {kept : List Record} {world : World}
    (keeps : Keeps kept world) (typed : request.Typed) :
    (∃ failure, result request.act world = .error failure) ↔ request.Refused (recordIn kept) := by
  -- A request goes well or is refused, and each of these excludes the other.
  rcases act_cases keeps typed with ⟨allowed, ⟨_, done⟩, _⟩ | ⟨why, failure, failed, _⟩
  · refine ⟨fun ⟨failure, failed⟩ => ?_, fun why => absurd why allowed⟩
    rw [done] at failed
    cases failed
  · exact ⟨fun _ => why, fun _ => ⟨failure, failed⟩⟩

/-- A typed request succeeds if and only if there is no reason for its refusal. -/
theorem Keeps.isOk_iff {request : Request} {kept : List Record} {world : World}
    (keeps : Keeps kept world) (typed : request.Typed) :
    (result request.act world).isOk = true ↔ ¬request.Refused (recordIn kept) := by
  -- What does not fail is a success.
  rw [← keeps.fails_iff typed]
  cases result request.act world with
  | ok _ => simp [Except.isOk, Except.toBool]
  | error _ => simp [Except.isOk, Except.toBool]

/-- What is refused is a failure to keep a record, and leaves all records as they were. -/
theorem Keeps.refused {request : Request} {kept : List Record} {world : World} {failure : Failure}
    (keeps : Keeps kept world) (typed : request.Typed)
    (failed : result request.act world = .error failure) :
    failure.isPersistence = true ∧ (after request.act world).store = world.store := by
  -- A success is no failure, and every refusal leaves the store as it was.
  rcases act_cases keeps typed with ⟨_, ⟨_, done⟩, _⟩ | ⟨_, other, stopped, kind, store, _⟩
  · rw [done] at failed
    cases failed
  · rw [stopped] at failed
    cases failed
    exact ⟨kind, store⟩

/-- A save that succeeds makes the first record of its container. -/
theorem Keeps.saved {cid : String} {container : Container} {origin : Record.Origin}
    {kept : List Record} {world : World} {answer : Option Record} (keeps : Keeps kept world)
    (named : container.cid = .string cid) (typed : (Request.save container origin).Typed)
    (done : result (Request.save container origin).act world = .ok answer) :
    recordIn kept cid = none ∧ ∃ record, record.IsFirst cid container origin ∧
      Request.effect cid (recordIn kept cid) (.save container origin, true) = some record := by
  -- A container that is saved was new, and its record is the first of its name.
  rcases act_cases keeps typed with ⟨allowed, _⟩ | ⟨_, _, failed, _⟩
  · obtain ⟨new, record, drafted⟩ := Request.drafted_of_allowed named allowed
    exact ⟨new, record, Record.isFirst_of_draft? drafted, (if_pos named).trans drafted⟩
  · rw [failed] at done
    cases done

/-! What all requests come to. -/

/-- A history of two series of requests. -/
theorem history_append (earlier later : List Request) (world : World) :
    history (earlier ++ later) world =
      history earlier world ++ history later (finish earlier world) := by
  -- The later requests begin in the world that the earlier ones have left.
  induction earlier generalizing world with
  | nil => rfl
  | cons request rest ih =>
    simp only [List.cons_append, history, ih]
    rfl

/-- What a history tells goes on from what its first part tells. -/
theorem recorded_append (cid : String) (earlier later : List Request) (world : World) :
    recorded cid (history (earlier ++ later) world) =
      (history later (finish earlier world)).foldl (Request.effect cid)
        (recorded cid (history earlier world)) := by
  rw [history_append, recorded, List.foldl_append, recorded]

/-- One more request has its effect if it succeeds. -/
theorem recorded_next (cid : String) (earlier : List Request) (request : Request) (world : World) :
    recorded cid (history (earlier ++ [request]) world) =
      Request.effect cid (recorded cid (history earlier world))
        (request, (result request.act (finish earlier world)).isOk) :=
  recorded_append ..

/-- After one typed request what is kept has had its effect, if it succeeded. -/
theorem Keeps.act {request : Request} {kept : List Record} {world : World}
    (keeps : Keeps kept world) (typed : request.Typed) :
    ∃ final, Keeps final (after request.act world) ∧ ∀ cid,
      recordIn final cid =
        Request.effect cid (recordIn kept cid) (request, (result request.act world).isOk) := by
  -- A refused request has no effect, and what is kept stays as it was.
  rcases act_cases keeps typed with ⟨allowed, ⟨answer, done⟩, added⟩ | ⟨_, _, failed, _, _, same⟩
  · refine ⟨_, added, fun cid => ?_⟩
    rw [done]
    exact recordIn_onto cid typed allowed
  · refine ⟨kept, same, fun cid => ?_⟩
    rw [failed]
    rfl

/-- After typed requests what is kept has had the effects of all that succeeded. -/
theorem Keeps.finish {requests : List Request} {kept : List Record} {world : World}
    (keeps : Keeps kept world) (typed : ∀ request ∈ requests, request.Typed) :
    ∃ final, Keeps final (finish requests world) ∧ ∀ cid,
      recordIn final cid =
        (history requests world).foldl (Request.effect cid) (recordIn kept cid) := by
  -- What is kept before the first request is arbitrary, so that the rest can go on from there.
  induction requests generalizing kept world with
  | nil => exact ⟨kept, keeps, fun _ => rfl⟩
  | cons request rest ih =>
    obtain ⟨middle, keeps, first⟩ := keeps.act (typed request List.mem_cons_self)
    obtain ⟨final, keeps, later⟩ := ih keeps fun other member =>
      typed other (List.mem_cons_of_mem _ member)
    refine ⟨final, keeps, fun cid => ?_⟩
    rw [later cid, first cid]
    rfl

/-- A database without records that does not fail keeps none. -/
theorem keeps_nothing {world : World} (empty : world.store = .empty)
    (up : ∀ number, world.outages number = none) : Keeps [] world where
  -- There is no record that anything could be wrong with.
  usable := by rw [empty]; rfl
  up := up
  rows := by rw [empty]; rfl
  distinct := List.nodup_nil
  universal := fun _ absurd => by cases absurd

/-- From an empty store, what is kept is what the history tells. -/
theorem keeps_recorded {requests : List Request} {world : World} (empty : world.store = .empty)
    (up : ∀ number, world.outages number = none) (typed : ∀ request ∈ requests, request.Typed) :
    ∃ kept, Keeps kept (finish requests world) ∧ ∀ cid,
      recordIn kept cid = recorded cid (history requests world) :=
  (keeps_nothing empty up).finish typed

/-! What is kept of one container depends on the requests about it alone. -/

/-- A request about another container has no effect. -/
theorem effect_of_other {cid : String} {request : Request} (other : request.isAbout cid = false)
    (known : Option Record) (succeeded : Bool) :
    Request.effect cid known (request, succeeded) = known := by
  -- A request about another container changes nothing here, and a refused one nothing at all.
  cases succeeded with
  | false => cases request <;> rfl
  | true =>
    cases request with
    | get _ => rfl
    | save container origin =>
      have other : container.cid ≠ .string cid := by simpa [Request.isAbout] using other
      exact if_neg other
    | update about fields =>
      have other : about ≠ cid := by simpa [Request.isAbout] using other
      exact if_neg other

/-- Whether a request about a container is refused depends on the record of that container. -/
theorem refused_iff_of_isAbout {cid : String} {request : Request}
    (about : request.isAbout cid = true) (known : String → Option Record) :
    request.Refused known ↔ request.Refused fun _ => known cid := by
  -- Of all that is known a request looks only at its own container.
  cases request with
  | get _ => exact Iff.rfl
  | save container origin =>
    have named : container.cid = .string cid := by simpa [Request.isAbout] using about
    simp [Request.Refused, named]
  | update other fields =>
    obtain rfl : other = cid := by simpa [Request.isAbout] using about
    exact Iff.rfl

/-- The records of one container stay the same in two stores, of which one has all requests and the
other one those about it alone. -/
theorem Keeps.alone {cid : String} {requests : List Request} {kept few : List Record}
    {world other : World} (keeps : Keeps kept world) (keepsFew : Keeps few other)
    (same : recordIn kept cid = recordIn few cid)
    (typed : ∀ request ∈ requests, request.Typed) :
    (history requests world).foldl (Request.effect cid) (recordIn kept cid) =
      (history (requests.filter (Request.isAbout cid)) other).foldl (Request.effect cid)
        (recordIn few cid) := by
  induction requests generalizing kept few world other with
  | nil => exact same
  | cons request rest ih =>
    have typedRest : ∀ later ∈ rest, later.Typed := fun later member =>
      typed later (List.mem_cons_of_mem _ member)
    have typedFirst := typed request List.mem_cons_self
    obtain ⟨next, keepsNext, first⟩ := keeps.act typedFirst
    cases about : request.isAbout cid with
    | false =>
      -- The first store serves a request that the second one is not asked.
      have unchanged : recordIn next cid = recordIn kept cid := by
        rw [first cid, effect_of_other about]
      rw [List.filter_cons_of_neg (by simp [about])]
      simp only [history, List.foldl_cons]
      rw [← first cid]
      exact ih keepsNext keepsFew (unchanged.trans same) typedRest
    | true =>
      obtain ⟨nextFew, keepsNextFew, firstFew⟩ := keepsFew.act typedFirst
      -- Both stores refuse it or none does, as both have the same record of the container.
      have alike : (result request.act world).isOk = (result request.act other).isOk := by
        rw [Bool.eq_iff_iff, keeps.isOk_iff typedFirst, keepsFew.isOk_iff typedFirst,
          refused_iff_of_isAbout about, same, ← refused_iff_of_isAbout about]
      have sameNext : recordIn next cid = recordIn nextFew cid := by
        rw [first cid, firstFew cid, alike, same]
      rw [List.filter_cons_of_pos about]
      simp only [history, List.foldl_cons]
      rw [← first cid, ← firstFew cid]
      exact ih keepsNext keepsNextFew sameNext typedRest

/-- What a history tells of a container is told by the requests about it alone. -/
theorem recorded_filter (cid : String) {requests : List Request} {world other : World}
    (empty : world.store = .empty) (up : ∀ number, world.outages number = none)
    (emptyOther : other.store = .empty) (upOther : ∀ number, other.outages number = none)
    (typed : ∀ request ∈ requests, request.Typed) :
    recorded cid (history requests world) =
      recorded cid (history (requests.filter (Request.isAbout cid)) other) :=
  (keeps_nothing empty up).alone (keeps_nothing emptyOther upOther) rfl typed

/-! What can change once a record is there. -/

/-- A record that is told of stays, but for six of its values. -/
structure Settled (before after : Record) : Prop where
  cid : after.cid = before.cid
  imageName : after.imageName = before.imageName
  imageTag : after.imageTag = before.imageTag
  canonicalUrl : after.canonicalUrl = before.canonicalUrl
  command : after.command = before.command
  repositoryUrl : after.repositoryUrl = before.repositoryUrl
  branch : after.branch = before.branch
  analyzer : after.analyzer = before.analyzer

/-- A record that stays as it is is settled. -/
theorem Settled.refl (record : Record) : Settled record record :=
  ⟨rfl, rfl, rfl, rfl, rfl, rfl, rfl, rfl⟩

/-- What is settled from one record to the next is settled from the first to the last. -/
theorem Settled.trans {first second third : Record} (one : Settled first second)
    (two : Settled second third) : Settled first third :=
  -- Each field is kept twice.
  ⟨two.cid.trans one.cid, two.imageName.trans one.imageName, two.imageTag.trans one.imageTag,
    two.canonicalUrl.trans one.canonicalUrl, two.command.trans one.command,
    two.repositoryUrl.trans one.repositoryUrl, two.branch.trans one.branch,
    two.analyzer.trans one.analyzer⟩

/-- Once a record is kept, a request changes six of its values at most. -/
theorem effect_settled {cid : String} {request : Request} {kept : List Record} {world : World}
    {record : Record} (keeps : Keeps kept world) (typed : request.Typed)
    (known : recordIn kept cid = some record) :
    ∃ changed, Settled record changed ∧
      Request.effect cid (some record) (request, (result request.act world).isOk) =
        some changed := by
  cases succeeded : (result request.act world).isOk with
  | false => exact ⟨record, .refl record, by cases request <;> rfl⟩
  | true =>
    cases request with
    | get _ => exact ⟨record, .refl record, rfl⟩
    | update other fields =>
      by_cases same : other = cid
      · exact ⟨record.overlay fields, ⟨rfl, rfl, rfl, rfl, rfl, rfl, rfl, rfl⟩, if_pos same⟩
      · exact ⟨record, .refl record, if_neg same⟩
    | save container origin =>
      -- Another save of the same container would have been refused.
      by_cases same : container.cid = .string cid
      · rcases act_cases keeps typed with ⟨allowed, _⟩ | ⟨_, _, failed, _⟩
        · exact absurd (Or.inr (Or.inl ⟨cid, same, by rw [known]; rfl⟩)) allowed
        · rw [failed] at succeeded
          cases succeeded
      · exact ⟨record, .refl record, if_neg same⟩

/-- Once a record is kept, requests change six of its values at most. -/
theorem history_settled {cid : String} {requests : List Request} {kept : List Record}
    {world : World} {record : Record} (keeps : Keeps kept world)
    (typed : ∀ request ∈ requests, request.Typed) (known : recordIn kept cid = some record) :
    ∃ changed, Settled record changed ∧
      (history requests world).foldl (Request.effect cid) (some record) = some changed := by
  -- The induction follows the requests and carries along the record as it is known by then.
  induction requests generalizing kept world record with
  | nil => exact ⟨record, .refl record, rfl⟩
  | cons request rest ih =>
    have typedFirst := typed request List.mem_cons_self
    obtain ⟨next, keepsNext, first⟩ := keeps.act typedFirst
    obtain ⟨middle, settled, reached⟩ := effect_settled keeps typedFirst known
    have known : recordIn next cid = some middle := by rw [first cid, known, reached]
    obtain ⟨changed, later, ended⟩ := ih keepsNext
      (fun other member => typed other (List.mem_cons_of_mem _ member)) known
    refine ⟨changed, settled.trans later, ?_⟩
    simp only [history, List.foldl_cons, reached]
    exact ended

/-! The store as a map. -/

/-- After some requests the store is the map from identifiers to records that their history
tells. -/
structure IsMap (requests : List Request) (world : World) : Prop where
  /-- No container has more than one record. -/
  distinct : ((finish requests world).store.rows.map Record.cid).Nodup
  /-- A reader gets the record of a container as it is told, and with its clocks read as those of
  universal time it is the same in every value. -/
  read : ∀ cid, ∃ found final, get cid (finish requests world) = .ok found final ∧
    found = (recorded cid (history requests world)).map Record.withoutOffsets ∧
    found.map Record.inUniversalTime = recorded cid (history requests world)
  /-- A typed request fails if and only if there is a reason for its refusal. -/
  served : ∀ request : Request, request.Typed →
    ((∃ failure, result request.act (finish requests world) = .error failure) ↔
      request.Refused fun cid => recorded cid (history requests world))
  /-- What is refused is a failure to keep a record, and leaves all records as they were. -/
  refused : ∀ (request : Request) (failure : Failure), request.Typed →
    result request.act (finish requests world) = .error failure →
    failure.isPersistence = true ∧
      (after request.act (finish requests world)).store = (finish requests world).store
  /-- A save that succeeds makes the first record of its container. -/
  saved : ∀ (cid : String) (container : Container) (origin : Record.Origin),
    container.cid = .string cid → (Request.save container origin).Typed →
    (∃ answer, result (Request.save container origin).act (finish requests world) = .ok answer) →
    recorded cid (history requests world) = none ∧
      ∃ record, record.IsFirst cid container origin ∧
        recorded cid (history (requests ++ [.save container origin]) world) = some record
  /-- Once there is a record, six of its values may change and no other one does. -/
  settled : ∀ (later : List Request) (cid : String) (record : Record),
    (∀ request ∈ later, request.Typed) → recorded cid (history requests world) = some record →
    ∃ changed, Settled record changed ∧
      recorded cid (history (requests ++ later) world) = some changed
  /-- What is told of a container does not depend on the requests about others, nor on how they
  are interleaved with its own. -/
  alone : ∀ (others : List Request) (other : World) (cid : String), other.store = .empty →
    (∀ number, other.outages number = none) → (∀ request ∈ others, request.Typed) →
    others.filter (Request.isAbout cid) = requests.filter (Request.isAbout cid) →
    recorded cid (history others other) = recorded cid (history requests world)

/-- From an empty table, typed requests in any number and order make a map of the store. -/
theorem isMap_of_typed (requests : List Request) (world : World) (empty : world.store = .empty)
    (up : ∀ number, world.outages number = none) (typed : ∀ request ∈ requests, request.Typed) :
    IsMap requests world := by
  obtain ⟨kept, keeps, told⟩ := keeps_recorded empty up typed
  -- The records that are kept are those that the history tells of.
  have known : recordIn kept = fun cid => recorded cid (history requests world) := funext told
  refine ⟨?_, ?_, ?_, ?_, ?_, ?_, ?_⟩
  · rw [keeps.rows, List.map_map]
    exact keeps.distinct
  · intro cid
    rw [← told]
    exact keeps.read cid
  · intro request typed
    rw [← known]
    exact keeps.fails_iff typed
  · intro request failure typed failed
    exact keeps.refused typed failed
  · rintro cid container origin named typed ⟨answer, done⟩
    rw [recorded_next, done, ← told]
    exact keeps.saved named typed done
  · -- What is settled stays so, whatever requests come later.
    intro later cid record typed there
    rw [recorded_append, there]
    exact history_settled keeps typed ((told cid).trans there)
  · intro others other cid emptyOther upOther typedOthers same
    rw [recorded_filter cid emptyOther upOther empty up typedOthers, same,
      ← recorded_filter cid empty up empty up typed]

/-- Two saves of one container, an update with a name that no record has, one with a moment of
another kind, and one that is served. -/
def scanRequests : List Request :=
  let container : Container := { image := { name := "retirejs" }, cid := .string "c1" }
  let origin : Record.Origin := ⟨some "scan.sh", some "repository", some "main", none⟩
  [.save container origin, .save container origin,
    .update "c1" [("status", .text "running"), ("cid", .text "c2")],
    .update "c1" [("output", .text "lost"), ("started_at", .text "today")],
    .update "c1" [("status", .text "finished"), ("exit_code", .whole 0)], .get "c1"]

/-- Of the requests two are served, and the store is the map that they make. -/
theorem isMap_of_typed_scanRequests :
    IsMap scanRequests { settings := .standard } ∧
      (recorded "c1" (history scanRequests { settings := .standard })).map
        (fun record => (record.status, record.exitCode, record.output)) =
          some ("finished", some (.whole 0), none) := by
  -- The requests of a scan set columns that may change, to values of their kinds.
  refine ⟨isMap_of_typed _ _ rfl (fun _ => rfl) ?_, by decide +kernel⟩
  intro request member
  simp only [scanRequests, List.mem_cons, List.not_mem_nil, or_false] at member
  rcases member with rfl | rfl | rfl | rfl | rfl | rfl
  · exact ⟨Or.inr ⟨_, rfl⟩, rfl, nofun, nofun⟩
  · exact ⟨Or.inr ⟨_, rfl⟩, rfl, nofun, nofun⟩
  · simp [Request.Typed, Record.changeable, Column.Takes]
  · simp [Request.Typed, Record.changeable, Column.Takes, Column.isForeign]
  · simp [Request.Typed, Record.changeable, Column.Takes, Number.fitsWord, Number.wordBound]
  · trivial

end ContainerScan.Keeping
