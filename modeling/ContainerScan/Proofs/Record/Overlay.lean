import ContainerScan.Proofs.Record.Store

/-! What named values make of a record: the last value of each name takes its place, and all else
stays. The store agrees with that, or refuses all of them together. -/

namespace ContainerScan

/-- The text that a cell holds, if it holds one. -/
def Cell.text? : Cell → Option String
  | .text value => some value
  | _ => none

/-- The whole number that a cell holds, if it holds one. -/
def Cell.whole? : Cell → Option Int
  | .whole value => some value
  | _ => none

/-- The moment that a cell holds, if it holds one. -/
def Cell.moment? : Cell → Option Timestamp
  | .moment value => some value
  | _ => none

/-- What fields say under a name; of several the last one counts. -/
def Fields.given? (fields : Fields) (name : String) : Option Cell :=
  (fields.reverse.find? fun field => field.1 = name).map Prod.snd

/-- A moment on the clock of universal time. -/
def Timestamp.IsUniversal (moment : Timestamp) : Prop :=
  moment.offset = some 0

/-- What a column takes: null, or a value of its type, where whole numbers fit into a word and
moments are on the clock of universal time. -/
def Column.Takes (name : String) (cell : Cell) : Prop :=
  cell = .null ∨
    if name = "exit_code" then ∃ value, cell = .whole value ∧ Number.fitsWord value = true
    else if name = "started_at" ∨ name = "finished_at" then
      ∃ moment, cell = .moment moment ∧ moment.IsUniversal
    else ∃ text, cell = .text text

/-- Values that the columns of their names take, of those names that may change. -/
def Fields.Typed (fields : Fields) : Prop :=
  ∀ field ∈ fields, field.1 ∈ Record.changeable → Column.Takes field.1 field.2

namespace Record

/-- A record under other values: the last one of each name counts, and a name without one keeps
what it had. A record always has a status. -/
def overlay (record : Record) (fields : Fields) : Record :=
  { record with
    status := ((fields.given? "status").bind Cell.text?).getD record.status
    exitCode := (fields.given? "exit_code").elim record.exitCode fun cell =>
      cell.whole?.map Quantity.whole
    startedAt := (fields.given? "started_at").elim record.startedAt Cell.moment?
    finishedAt := (fields.given? "finished_at").elim record.finishedAt Cell.moment?
    output := (fields.given? "output").elim record.output Cell.text?
    result := (fields.given? "result").elim record.result Cell.text? }

/-- A record with its clocks read as those of universal time. -/
def inUniversalTime (record : Record) : Record :=
  { record with
    startedAt := record.startedAt.map fun moment => { moment with offset := some 0 }
    finishedAt := record.finishedAt.map fun moment => { moment with offset := some 0 } }

/-- A record whose clocks are those of universal time. -/
structure IsUniversal (record : Record) : Prop where
  startedAt : ∀ moment, record.startedAt = some moment → moment.IsUniversal
  finishedAt : ∀ moment, record.finishedAt = some moment → moment.IsUniversal

/-- A clock of universal time loses nothing with its offset. -/
theorem IsUniversal.restored {record : Record} (universal : record.IsUniversal) :
    record.withoutOffsets.inUniversalTime = record := by
  -- The offset that was dropped is the one that is put back.
  have restored (moment : Option Timestamp)
      (offset : ∀ found, moment = some found → found.IsUniversal) :
      (moment.map Timestamp.withoutOffset).map (fun found => { found with offset := some 0 }) =
        moment := by
    cases moment with
    | none => rfl
    | some found =>
      have known : found.offset = some 0 := offset found rfl
      simp [Timestamp.withoutOffset, ← known]
  simp only [withoutOffsets, inUniversalTime, restored _ universal.startedAt,
    restored _ universal.finishedAt]

/-- Changes are made in two parts as they are made in one. -/
theorem changeAll?_append (record : Record) (first second : List Change) :
    record.changeAll? (first ++ second) =
      (record.changeAll? first).bind fun changed => changed.changeAll? second := by
  -- The induction carries along the record as it is by then.
  induction first generalizing record with
  | nil => rfl
  | cons change rest ih =>
    simp only [List.cons_append, changeAll?, Option.bind_assoc]
    congr 1
    funext changed
    exact ih changed

end Record

namespace Store

/-- The changes that a name stands for among fields: one at most. -/
def changesOfName (fields : Fields) (name : String) : List Record.Change :=
  ((fields.given? name).bind fun cell => changeOf? (name, cell)).toList

/-- The changes that fields make are those of the columns in their order. -/
theorem changesOf_eq (fields : Fields) :
    changesOf fields = Record.changeable.flatMap (changesOfName fields) := by
  unfold changesOf inColumnOrder changesOfName
  rw [List.filterMap_filterMap, List.filterMap_eq_flatMap_toList]
  congr 1
  funext name
  congr 1
  -- What is found under a name has that name.
  unfold Fields.given?
  cases found : fields.reverse.find? fun field => field.1 = name with
  | none => rfl
  | some field =>
    obtain ⟨other, cell⟩ := field
    obtain rfl : other = name := by simpa using List.find?_some found
    rfl

end Store

namespace Fields

/-- What is given under a name is one of the fields. -/
theorem mem_of_given? {fields : Fields} {name : String} {cell : Cell}
    (given : fields.given? name = some cell) : (name, cell) ∈ fields := by
  -- The last of the fields of a name is found, and it is one of them.
  obtain ⟨field, found, rfl⟩ := Option.map_eq_some_iff.mp given
  have member : field ∈ fields := List.mem_reverse.mp (List.mem_of_find?_eq_some found)
  obtain rfl : field.1 = name := by simpa using List.find?_some found
  exact member

/-- What typed fields give under a name that may change is taken by the column. -/
theorem Typed.takes {fields : Fields} (typed : fields.Typed) {name : String}
    (changes : name ∈ Record.changeable) {cell : Cell} (given : fields.given? name = some cell) :
    Column.Takes name cell :=
  typed _ (mem_of_given? given) changes

end Fields

namespace Column

/-- A column of texts keeps what it takes. -/
theorem Takes.textOf? {name : String} {cell : Cell} (takes : Takes name cell)
    (text : name ∈ ["status", "output", "result"]) : Column.textOf? cell = cell.text? := by
  -- The three columns take a text or null, and these are kept as they are.
  rcases takes with rfl | given
  · rfl
  · obtain ⟨value, rfl⟩ : ∃ value, cell = .text value := by
      simp only [List.mem_cons, List.not_mem_nil, or_false] at text
      rcases text with rfl | rfl | rfl <;> simpa using given
    rfl

/-- The column of exit codes keeps what it takes. -/
theorem Takes.quantityOf? {cell : Cell} (takes : Takes "exit_code" cell) :
    Column.quantityOf? cell = cell.whole?.map Quantity.whole := by
  rcases takes with rfl | ⟨value, rfl, fits⟩
  · rfl
  · rfl

/-- Every value that a column takes can be handed over. -/
theorem Takes.refusal?_eq_none {name : String} {cell : Cell} (takes : Takes name cell) :
    Column.refusal? cell = none := by
  -- Null is taken by every column, and all others by their kinds.
  rcases takes with rfl | given
  · rfl
  · split at given
    · obtain ⟨value, rfl, fits⟩ := given
      exact if_pos fits
    · split at given
      · obtain ⟨moment, rfl, _⟩ := given
        rfl
      · obtain ⟨text, rfl⟩ := given
        rfl

end Column

namespace Record

/-- What becomes of a record under one name, if anything is given there. -/
def changeName? (record : Record) (fields : Fields) (name : String) : Option Record :=
  ((fields.given? name).bind fun cell => Store.changeOf? (name, cell)).elim (some record)
    record.change?

/-- The changes that a name stands for are made by what is given there. -/
theorem changeAll?_changesOfName (record : Record) (fields : Fields) (name : String) :
    record.changeAll? (Store.changesOfName fields name) = record.changeName? fields name := by
  -- A name sets at most one column.
  unfold Store.changesOfName changeName?
  cases (fields.given? name).bind fun cell => Store.changeOf? (name, cell) with
  | none => rfl
  | some change =>
    change (record.change? change).bind some = record.change? change
    exact Option.bind_fun_some _

/-- A status that is given and not null takes the place of the one before. -/
theorem changeName?_status (record : Record) {fields : Fields} (typed : fields.Typed)
    (status : fields.given? "status" ≠ some .null) :
    record.changeName? fields "status" = some { record with
      status := ((fields.given? "status").bind Cell.text?).getD record.status } := by
  -- The one cell that this column refuses is ruled out by assumption.
  unfold changeName?
  cases given : fields.given? "status" with
  | none => rfl
  | some cell =>
    rcases typed.takes (by decide) given with rfl | ⟨text, rfl⟩
    · exact absurd given status
    · rfl

/-- Null is no status for a record to have. -/
theorem changeName?_status_null (record : Record) {fields : Fields}
    (status : fields.given? "status" = some .null) : record.changeName? fields "status" = none := by
  rw [changeName?, status]
  rfl

/-- An exit code that is given, or its absence, takes the place of the one before. -/
theorem changeName?_exitCode (record : Record) {fields : Fields} (typed : fields.Typed) :
    record.changeName? fields "exit_code" = some { record with
      exitCode := (fields.given? "exit_code").elim record.exitCode fun cell =>
        cell.whole?.map Quantity.whole } := by
  -- A number that fits is kept as it is.
  unfold changeName?
  cases given : fields.given? "exit_code" with
  | none => rfl
  | some cell =>
    have kept := (typed.takes (by decide) given).quantityOf?
    simp [Store.changeOf?, change?, kept]

/-- A text that is given, or its absence, takes the place of the one before. -/
theorem changeName?_texts (record : Record) {fields : Fields} (typed : fields.Typed) :
    record.changeName? fields "output" = some { record with
      output := (fields.given? "output").elim record.output Cell.text? } ∧
    record.changeName? fields "result" = some { record with
      result := (fields.given? "result").elim record.result Cell.text? } := by
  -- Both columns keep a text as it is.
  unfold changeName?
  constructor
  · cases given : fields.given? "output" with
    | none => rfl
    | some cell =>
      have kept := (typed.takes (by decide) given).textOf? (by decide)
      simp [Store.changeOf?, change?, kept]
  · cases given : fields.given? "result" with
    | none => rfl
    | some cell =>
      have kept := (typed.takes (by decide) given).textOf? (by decide)
      simp [Store.changeOf?, change?, kept]

/-- A moment that is given, or its absence, takes the place of the one before, and loses its
offset. -/
theorem changeName?_moments (record : Record) (fields : Fields) :
    record.changeName? fields "started_at" = some { record with
      startedAt := (fields.given? "started_at").elim record.startedAt fun cell =>
        cell.moment?.map Timestamp.withoutOffset } ∧
    record.changeName? fields "finished_at" = some { record with
      finishedAt := (fields.given? "finished_at").elim record.finishedAt fun cell =>
        cell.moment?.map Timestamp.withoutOffset } := by
  -- The column of moments keeps a moment whatever else it might be given.
  have kept (cell : Cell) : Column.momentOf? cell = cell.moment? := by cases cell <;> rfl
  unfold changeName?
  constructor
  · cases fields.given? "started_at" with
    | none => rfl
    | some cell => simp [Store.changeOf?, change?, kept]
  · cases fields.given? "finished_at" with
    | none => rfl
    | some cell => simp [Store.changeOf?, change?, kept]

/-- What is chosen among moments without their offsets is chosen before they lose them. -/
theorem elim_moment_withoutOffset (given : Option Cell) (before : Option Timestamp) :
    (given.elim (before.map Timestamp.withoutOffset) fun cell =>
      cell.moment?.map Timestamp.withoutOffset) =
        (given.elim before Cell.moment?).map Timestamp.withoutOffset := by
  cases given <;> rfl

/-- Typed fields that leave a status change a kept record as they overlay what was kept of it. -/
theorem changeAll?_changesOf (record : Record) {fields : Fields} (typed : fields.Typed)
    (status : fields.given? "status" ≠ some .null) :
    record.withoutOffsets.changeAll? (Store.changesOf fields) =
      some (record.overlay fields).withoutOffsets := by
  rw [Store.changesOf_eq]
  -- The six columns are changed one after the other, and none looks at what another one did.
  simp only [changeable, List.flatMap_cons, List.flatMap_nil, List.append_nil, changeAll?_append,
    changeAll?_changesOfName, changeName?_status _ typed status, changeName?_exitCode _ typed,
    changeName?_moments, changeName?_texts _ typed, Option.bind_some]
  simp only [overlay, withoutOffsets, elim_moment_withoutOffset]

/-- Fields with null for a status cannot change any record. -/
theorem changeAll?_changesOf_null (record : Record) {fields : Fields}
    (status : fields.given? "status" = some .null) :
    record.changeAll? (Store.changesOf fields) = none := by
  rw [Store.changesOf_eq]
  -- The status is the first of the columns that may change.
  simp only [changeable, List.flatMap_cons, changeAll?_append, changeAll?_changesOfName,
    changeName?_status_null _ status, Option.bind_none]

/-- Universal time stays universal time under typed fields. -/
theorem IsUniversal.overlay {record : Record} (universal : record.IsUniversal) {fields : Fields}
    (typed : fields.Typed) : (record.overlay fields).IsUniversal := by
  -- A moment of the new record was given, or the record had it before.
  have chosen (name : String) (column : name = "started_at" ∨ name = "finished_at")
      (before : Option Timestamp) (offset : ∀ moment, before = some moment → moment.IsUniversal) :
      ∀ moment, (fields.given? name).elim before Cell.moment? = some moment →
        moment.IsUniversal := by
    cases given : fields.given? name with
    | none => exact offset
    | some cell =>
      have changes : name ∈ changeable := by rcases column with rfl | rfl <;> decide
      have other : name ≠ "exit_code" := by rcases column with rfl | rfl <;> decide
      intro moment found
      rcases typed.takes changes given with rfl | takes
      · cases found
      · -- A value of the column's type is a universal moment.
        rw [if_neg other, if_pos column] at takes
        obtain ⟨value, rfl, universal⟩ := takes
        cases found
        exact universal
  exact ⟨chosen "started_at" (Or.inl rfl) _ universal.startedAt,
    chosen "finished_at" (Or.inr rfl) _ universal.finishedAt⟩

/-- The record of one container under other values, and every other record as it is. -/
def overlayAt (cid : String) (fields : Fields) (record : Record) : Record :=
  if record.cid = cid then record.overlay fields else record

/-- Under other values a record is about the same container. -/
theorem overlayAt_cid (cid : String) (fields : Fields) (record : Record) :
    (record.overlayAt cid fields).cid = record.cid := by
  -- The id is none of the fields that an overlay sets.
  unfold overlayAt
  split
  · rfl
  · rfl

end Record

namespace Store

/-- Typed fields of which no moment is of another kind can all be handed over. -/
theorem refusal?_eq_none {fields : Fields} (typed : fields.Typed)
    (native : fields.any Column.isForeign = false) : refusal? fields = none := by
  unfold refusal?
  rw [native, if_neg Bool.false_ne_true, List.findSome?_eq_none_iff]
  intro field member
  -- What is handed over under a name is what is given there, and its column takes that.
  obtain ⟨name, changes, found⟩ := List.mem_filterMap.mp member
  obtain rfl : field.1 = name := by simpa using List.find?_some found
  have given : field ∈ fields := List.mem_reverse.mp (List.mem_of_find?_eq_some found)
  exact (typed field given changes).refusal?_eq_none

/-- The rows that are kept of some records change as those records are overlaid, where no record
that must have a status would lose it. -/
theorem mapM_overlay {kept : List Record} {cid : String} {fields : Fields} (typed : fields.Typed)
    (status : ∀ record ∈ kept, record.cid = cid → fields.given? "status" ≠ some .null) :
    (kept.map Record.withoutOffsets).mapM (fun record =>
        if record.cid = cid then record.changeAll? (changesOf fields) else some record) =
      some ((kept.map (Record.overlayAt cid fields)).map Record.withoutOffsets) := by
  induction kept with
  | nil => rfl
  | cons record rest ih =>
    have rest := ih fun other member => status other (List.mem_cons_of_mem _ member)
    simp only [List.map_cons, List.mapM_cons, rest]
    -- Without its offsets a record is about the same container.
    change ((if record.cid = cid then _ else _) >>= _) = _
    unfold Record.overlayAt
    by_cases same : record.cid = cid
    · have changed := record.changeAll?_changesOf typed (status record List.mem_cons_self same)
      simp only [if_pos same, changed]
      rfl
    · simp only [if_neg same]
      rfl

/-- A row that cannot be changed stops the change of all rows. -/
theorem mapM_eq_none {rows : List Record} {change : Record → Option Record} {row : Record}
    (member : row ∈ rows) (refused : change row = none) : rows.mapM change = none := by
  -- One row that is refused refuses all of them, wherever it stands.
  induction rows with
  | nil => cases member
  | cons first rest ih =>
    rw [List.mapM_cons]
    rcases List.mem_cons.mp member with rfl | later
    · rw [refused]
      rfl
    · rw [ih later]
      cases change first <;> rfl

/-- The row about a container is what is kept of its record. -/
theorem find?_kept {store : Store} {kept : List Record}
    (rows : store.rows = kept.map Record.withoutOffsets) (cid : String) :
    store.find? cid = (kept.find? fun record => record.cid = cid).map Record.withoutOffsets := by
  unfold find?
  rw [rows, List.find?_map]
  rfl

/-- Typed fields are written into the rows about one container, and into no other one. -/
theorem update_typed {store : Store} {kept : List Record} (usable : store.isUsable = true)
    (rows : store.rows = kept.map Record.withoutOffsets) {cid : String} {fields : Fields}
    (typed : fields.Typed) (native : fields.any Column.isForeign = false)
    (status : ∀ record ∈ kept, record.cid = cid → fields.given? "status" ≠ some .null) :
    store.update cid fields = .ok ({ store with
        rows := (kept.map (Record.overlayAt cid fields)).map Record.withoutOffsets },
      (store.find? cid).isSome) := by
  unfold update
  rw [usable, refusal?_eq_none typed native, rows]
  simp only [mapM_overlay typed status, Bool.not_true, Bool.false_eq_true, if_false]

/-- Null is refused as the status of a record that there is. -/
theorem update_null {store : Store} {kept : List Record} (usable : store.isUsable = true)
    (rows : store.rows = kept.map Record.withoutOffsets) {cid : String} {fields : Fields}
    (typed : fields.Typed) (native : fields.any Column.isForeign = false)
    (status : fields.given? "status" = some .null) {record : Record} (member : record ∈ kept)
    (about : record.cid = cid) : store.update cid fields = .error .database := by
  -- The row of the container refuses the null, and with it the whole update.
  let changeRow : Record → Option Record := fun row =>
    if row.cid = cid then row.changeAll? (changesOf fields) else some row
  have refused : changeRow record.withoutOffsets = none := by
    change (if record.cid = cid then _ else _) = _
    rw [if_pos about]
    exact Record.changeAll?_changesOf_null _ status
  have stopped : (kept.map Record.withoutOffsets).mapM changeRow = none :=
    mapM_eq_none (List.mem_map_of_mem (f := Record.withoutOffsets) member) refused
  unfold update
  rw [usable, refusal?_eq_none typed native, rows]
  simp only [changeRow] at stopped
  simp only [stopped, Bool.not_true, Bool.false_eq_true, if_false]

/-- A moment of another kind is refused whatever else is given. -/
theorem update_foreign {store : Store} (usable : store.isUsable = true) (cid : String)
    {fields : Fields} (foreign : fields.any Column.isForeign = true) :
    store.update cid fields = .error .database := by
  unfold update refusal?
  rw [usable, foreign]
  rfl

end Store

end ContainerScan
