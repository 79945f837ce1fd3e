import ContainerScan.Record.Column

/-! The store of records: one record for each container, in the order in which they were added. -/

namespace ContainerScan

/-- A database with the table of records. -/
structure Store where
  /-- Whether the database can be opened at all. -/
  reachable : Bool
  /-- Whether the table has been made. -/
  prepared : Bool
  rows : List Record
  deriving DecidableEq, Repr

namespace Store

/-- A store with a table and no records. -/
def empty : Store := ⟨true, true, []⟩

/-- Whether records can be read and written. -/
def isUsable (store : Store) : Bool :=
  store.reachable && store.prepared

/-- Named values in the order of their columns. -/
def inColumnOrder (fields : Fields) : Fields :=
  Record.changeable.filterMap fun name => fields.reverse.find? fun field => field.1 = name

/-- Why named values cannot be handed over: a wrong moment first, then the first wrong value. -/
def refusal? (fields : Fields) : Option Failure :=
  if fields.any Column.isForeign then some .database
  else (inColumnOrder fields).findSome? fun field => Column.refusal? field.2

/-- The change that a named value makes. -/
def changeOf? (field : String × Cell) : Option Record.Change :=
  match field with
  | ("output", cell) => some (.output (Column.textOf? cell))
  | ("result", cell) => some (.result (Column.textOf? cell))
  | ("status", cell) => some (.status (Column.textOf? cell))
  | ("exit_code", cell) => some (.exitCode (Column.quantityOf? cell))
  | ("started_at", cell) => some (.startedAt (Column.momentOf? cell))
  | ("finished_at", cell) => some (.finishedAt (Column.momentOf? cell))
  | _ => none

/-- The changes that named values make. -/
def changesOf (fields : Fields) : List Record.Change :=
  (inColumnOrder fields).filterMap changeOf?

/-- The record of a container. -/
def find? (store : Store) (cid : String) : Option Record :=
  store.rows.find? fun record => record.cid = cid

/-- The store with one more record, whose container must be new to it. -/
def insert (store : Store) (record : Record) : Except Failure Store :=
  if !store.isUsable then .error .database
  else if !record.exitCode.all Quantity.fits then .error Column.tooLarge
  else if (store.find? record.cid).isSome then .error .database
  else .ok { store with rows := store.rows ++ [record.withoutOffsets] }

/-- The store with the record of a container changed, and whether there was one. -/
def update (store : Store) (cid : String) (fields : Fields) : Except Failure (Store × Bool) :=
  -- Either every change is made or none.
  if !store.isUsable then .error .database
  else match refusal? fields with
    | some failure => .error failure
    | none =>
      let changeRow := fun (record : Record) =>
        if record.cid = cid then record.changeAll? (changesOf fields) else some record
      match store.rows.mapM changeRow with
      | none => .error .database
      | some rows => .ok ({ store with rows := rows }, (store.find? cid).isSome)

/-- The record of a container, as a reader of the database gets it. -/
def get (store : Store) (cid : String) : Except Failure (Option Record) :=
  if store.isUsable then .ok (store.find? cid) else .error .database

/-- The store with its table made, where that is still missing. -/
def prepare (store : Store) : Except Failure Store :=
  if store.reachable then .ok { store with prepared := true } else .error .database

end Store

end ContainerScan
