import ContainerScan.World

/-! Keeping records: what is written to the store, what is refused, and what is logged of it. -/

namespace ContainerScan.Keeping

/-- Who writes about records. -/
def logger : Logger := .named "scangate.core.gateway"

/-- The store is replaced by what a change of it gives, unless the database fails first. -/
def changeStore {α : Type} (change : Store → Except Failure (Store × α)) : Step World α :=
  fun world =>
    let asked := { world with requests := world.requests + 1 }
    match world.outages world.requests with
    | some failure => .error failure asked
    | none =>
      match change world.store with
      | .ok (store, value) => .ok value { asked with store := store }
      | .error failure => .error failure asked

/-- A failure of the database is logged and becomes the refusal to keep a record. -/
def refusing {α : Type} (message : String) (cid : Json) (act : Step World α) : Step World α :=
  Step.handling (· == .database) act fun failure => do
    World.log logger .error message [("cid", cid), ("error", .string failure.text)]
    throw .notKept

/-- A store with a container's record added to it, unless something that it must have is missing. -/
def addition (container : Container) (origin : Record.Origin) (store : Store) :
    Except Failure (Store × Record) :=
  -- A number that does not fit is noticed before anything that is missing.
  match container.cid.string? with
  | none => .error .database
  | some cid =>
    if !store.isUsable then .error .database
    else if !container.exitCode.all Number.fitsWord then .error Column.tooLarge
    else match Record.draft? cid container origin with
      | none => .error .database
      | some record => (store.insert record).map fun after => (after, record)

/-- A container's record is added to the store. -/
def add (container : Container) (origin : Record.Origin) : Step World Record :=
  changeStore (addition container origin)

/-- The container of a finished run gets its record. -/
def save (container : Container) (origin : Record.Origin) : Step World Record := do
  if container.cid.isNull then
    throw (.persistence "container was never created; nothing to save")
  let record ← refusing "Saving container record failed" container.cid (add container origin)
  World.log logger .debug "Container record saved" [("cid", container.cid)]
  return record

/-- The names among fields that no record has or that must not change. -/
def unknownNames (fields : Fields) : List String :=
  (fields.map Prod.fst).filter fun name => !Record.changeable.contains name

/-- Texts in rising order. -/
def sorted (texts : List String) : List String :=
  texts.mergeSort fun first second => first ≤ second

/-- Known fields of a record change, if there is such a record. -/
def change (cid : String) (fields : Fields) : Step World Unit := do
  let matched ← refusing "Updating container record failed" (.string cid)
    (changeStore fun store => store.update cid fields)
  if !matched then
    World.log logger .warning "No container record matched"
      [("cid", .string cid), ("fields", .array ((sorted (fields.map Prod.fst)).map .string))]

/-- Fields of a record change; with an unknown one among them nothing does. -/
def update (cid : String) (fields : Fields) : Step World Unit := do
  World.noteUpdate cid fields
  let unknown := unknownNames fields
  if !unknown.isEmpty then
    throw (.persistence ("unknown record fields: " ++ Text.quotedList (sorted unknown)))
  else if !fields.isEmpty then change cid fields

/-- The table of records is made, where it is still missing. -/
def prepare : Step World Unit := do
  changeStore fun store => store.prepare.map fun after => (after, ())
  World.log (.named "scangate.core.database") .info "Database schema ready"
    [("tables", .array [.string "scan_containers"])]

/-- The record of a container, if it has one. -/
def get (cid : String) : Step World (Option Record) :=
  changeStore fun store => (store.get cid).map fun record => (store, record)

end ContainerScan.Keeping
