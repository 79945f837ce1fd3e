import ContainerScan.Record.Store
import Mathlib.Data.List.Basic

/-! What the insertion of a record and the change of its texts do to a store. -/

namespace ContainerScan

/-- The fields of a change of an output and of a result, as far as there is one. -/
def Fields.ofTexts (output result : Option String) : Fields :=
  (output.map fun text => ("output", Cell.text text)).toList ++
    (result.map fun text => ("result", Cell.text text)).toList

namespace Record

/-- A record with another output and another result, as far as there is one. -/
def withTexts (record : Record) (output result : Option String) : Record :=
  { record with
    output := output.or record.output
    result := result.or record.result }

/-- The changes of texts can be made to every record. -/
theorem changeAll?_ofTexts (record : Record) (output result : Option String) :
    record.changeAll? (Store.changesOf (.ofTexts output result)) =
      some (record.withTexts output result) := by
  -- Each of the two texts is given or is not, and every column in question takes a text.
  cases output <;> cases result <;> rfl

end Record

namespace Store

/-- A text can be handed over to any column of texts. -/
theorem refusal?_ofTexts (output result : Option String) :
    refusal? (.ofTexts output result) = none := by
  cases output <;> cases result <;> rfl

/-- A container has no record exactly if no row is about it. -/
theorem find?_eq_none_iff {store : Store} {cid : String} :
    store.find? cid = none ↔ ∀ record ∈ store.rows, record.cid ≠ cid := by
  simp [find?, List.find?_eq_none]

/-- A record whose numbers fit is added behind all others, if its container is new. -/
theorem insert_of_new {store : Store} {record : Record} (usable : store.isUsable = true)
    (fits : record.exitCode.all Quantity.fits = true) (new : store.find? record.cid = none) :
    store.insert record = .ok { store with rows := store.rows ++ [record.withoutOffsets] } := by
  simp [insert, usable, fits, new]

/-- A record of a container that has one already is refused. -/
theorem insert_of_known {store : Store} {record : Record} (usable : store.isUsable = true)
    (fits : record.exitCode.all Quantity.fits = true)
    (known : (store.find? record.cid).isSome = true) : store.insert record = .error .database := by
  simp [insert, usable, fits, known]

/-- The rows in which the record of a container has other texts. -/
def rowsWithTexts (rows : List Record) (cid : String) (output result : Option String) :
    List Record :=
  rows.map fun record => if record.cid = cid then record.withTexts output result else record

/-- The texts of a container's record change, and nothing else does. -/
theorem update_ofTexts {store : Store} (usable : store.isUsable = true) (cid : String)
    (output result : Option String) :
    store.update cid (.ofTexts output result) =
      .ok ({ store with rows := rowsWithTexts store.rows cid output result },
        (store.find? cid).isSome) := by
  -- A change of texts is possible for every record, so no row can refuse it.
  have changed : store.rows.mapM (fun record => if record.cid = cid then
      record.changeAll? (changesOf (.ofTexts output result)) else some record) =
        some (rowsWithTexts store.rows cid output result) := by
    unfold rowsWithTexts
    induction store.rows with
    | nil => rfl
    | cons row rows ih =>
      rw [List.mapM_cons, ih, Record.changeAll?_ofTexts]
      by_cases same : row.cid = cid
      · simp [same]
      · simp [same]
  simp [update, usable, refusal?_ofTexts, changed]

/-- Rows about other containers keep their texts. -/
theorem rowsWithTexts_of_absent {rows : List Record} {cid : String}
    (others : ∀ record ∈ rows, record.cid ≠ cid) (output result : Option String) :
    rowsWithTexts rows cid output result = rows := by
  have same : ∀ record ∈ rows, (if record.cid = cid then record.withTexts output result
      else record) = id record := fun record member => if_neg (others record member)
  rw [rowsWithTexts, List.map_congr_left same, List.map_id]

/-- The texts of the newest record change, and nothing else does. -/
theorem update_newest {store : Store} {old : List Record} {newest : Record}
    (usable : store.isUsable = true) (rows : store.rows = old ++ [newest])
    (new : ∀ record ∈ old, record.cid ≠ newest.cid) (output result : Option String) :
    store.update newest.cid (.ofTexts output result) =
      .ok ({ store with rows := old ++ [newest.withTexts output result] }, true) := by
  have found : (store.find? newest.cid).isSome = true := by
    simp [find?, rows]
  -- The rows before the newest are about other containers, so only the last one is changed.
  have changed : rowsWithTexts store.rows newest.cid output result =
      old ++ [newest.withTexts output result] := by
    rw [rows, rowsWithTexts, List.map_append, ← rowsWithTexts, rowsWithTexts_of_absent new]
    simp
  rw [update_ofTexts usable, changed, found]

end Store

end ContainerScan
