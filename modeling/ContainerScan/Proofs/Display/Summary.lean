import ContainerScan.Display.Summary
import ContainerScan.Proofs.Display.Screen

/-! What the summary of a record shows. -/

namespace ContainerScan.Display

open Text

/-- The title over a record. -/
def titleOf (record : Record) : String :=
  "[bold cyan]Record — " ++ record.imageName ++ ":" ++ record.imageTag

/-- The title over a record shows something, unless there is a tag in it. -/
theorem render_titleOf {record : Record}
    (single : pieces (record.imageName ++ ":" ++ record.imageTag).toList =
      [.plain (record.imageName ++ ":" ++ record.imageTag).toList]) :
    (render (titleOf record)).isOk = true := by
  -- The title is a tag with plain text behind it, and the tag has a style.
  have style : Style.normalized ['b', 'o', 'l', 'd', ' ', 'c', 'y', 'a', 'n'] =
      .ok ['b', 'o', 'l', 'd', ' ', 'c', 'y', 'a', 'n'] := by
    decide +kernel
  have front : "[bold cyan]Record — ".toList = '[' :: 'b' ::
      (['o', 'l', 'd', ' ', 'c', 'y', 'a', 'n'] ++ ']' :: "Record — ".toList) := by
    decide +kernel
  have text : (titleOf record).toList = '[' :: 'b' ::
      (['o', 'l', 'd', ' ', 'c', 'y', 'a', 'n'] ++ ']' ::
        ("Record — ".toList ++ (record.imageName ++ ":" ++ record.imageTag).toList)) := by
    unfold titleOf
    simp only [String.toList_append, front, List.cons_append, List.append_assoc]
  rw [render, text, shownPieces_opening (by decide) (by decide) (by decide) (by decide) style,
    shownPieces_append (by decide), shownPieces_of_single single]
  rfl

/-! Fields. -/

/-- The blocks of fields are those whose value is neither missing nor empty. -/
theorem mem_fieldBlocks_iff {fields : List (String × Option String)} {block : Block} :
    block ∈ fieldBlocks fields ↔
      ∃ label value, (label, some value) ∈ fields ∧ value ≠ "" ∧ block = .field label value := by
  -- A field is shown exactly if it has a value that is not empty.
  rw [fieldBlocks, List.mem_filterMap]
  constructor
  · rintro ⟨⟨label, value⟩, member, found⟩
    cases value with
    | none => cases found
    | some value =>
      simp only [Option.ite_none_left_eq_some, Option.some.injEq] at found
      exact ⟨label, value, member, found.1, found.2.symm⟩
  · rintro ⟨label, value, member, some, rfl⟩
    exact ⟨(label, _), member, if_neg some⟩

/-- The labels of a record stand for themselves. -/
theorem neutral_of_mem_recordFields {record : Record} {label : String} {value : Option String}
    (member : (label, value) ∈ recordFields record) :
    label.toList.all isNeutral = true ∧ IsUnjoined (labelText label) := by
  simp only [recordFields, List.mem_cons, Prod.mk.injEq, List.not_mem_nil, or_false] at member
  rcases member with ⟨rfl, _⟩ | ⟨rfl, _⟩ | ⟨rfl, _⟩ | ⟨rfl, _⟩ | ⟨rfl, _⟩ | ⟨rfl, _⟩ | ⟨rfl, _⟩ |
    ⟨rfl, _⟩ | ⟨rfl, _⟩ <;> exact ⟨by decide, by decide⟩

/-- The values that are shown of a record, those that are empty included. -/
def valuesOf (record : Record) : List String :=
  (recordFields record).filterMap Prod.snd

/-- The values of a record are those of its fields. -/
theorem mem_valuesOf_iff {record : Record} {value : String} :
    value ∈ valuesOf record ↔ ∃ label, (label, some value) ∈ recordFields record := by
  simp [valuesOf]

/-- A record whose summary can be printed: its title and each of its values show something. -/
structure Renders (record : Record) : Prop where
  title : (render (titleOf record)).isOk = true
  values : ∀ value ∈ valuesOf record, (render value).isOk = true

/-- The blocks of a record all fill lines if its title and its values show something. -/
theorem renders_iff {record : Record} :
    Renders record ↔ ∀ block ∈ recordSummary record, block.filled.isOk = true := by
  have blocks : recordSummary record = .headline (titleOf record) ::
      (fieldBlocks (recordFields record) ++ [.result (resultText record.result)]) := rfl
  -- What is put around a text that is shown makes no difference to whether it is shown.
  have changed {α β : Type} (shown : Except Failure α) (change : α → β) :
      (shown.map change).isOk = shown.isOk := by
    cases shown <;> rfl
  have title : (Block.filled (.headline (titleOf record))).isOk =
      (render (titleOf record)).isOk := by
    rw [filled_headline, changed]
  have field {label value : String} (member : (label, some value) ∈ recordFields record) :
      (Block.filled (.field label value)).isOk = (render value).isOk := by
    rw [filled_field (neutral_of_mem_recordFields member).1, changed]
  have result : (Block.filled (.result (resultText record.result))).isOk = true := by
    obtain ⟨first, rest, _, filled⟩ := filled_result (resultText record.result)
    rw [filled]
    rfl
  rw [blocks, List.forall_mem_cons, List.forall_mem_append, List.forall_mem_singleton, title]
  constructor
  · rintro ⟨title, values⟩
    refine ⟨title, fun block member => ?_, result⟩
    obtain ⟨label, value, there, _, rfl⟩ := mem_fieldBlocks_iff.mp member
    rw [field there]
    exact values value (mem_valuesOf_iff.mpr ⟨label, there⟩)
  · rintro ⟨title, fields, _⟩
    refine ⟨title, fun value member => ?_⟩
    obtain ⟨label, there⟩ := mem_valuesOf_iff.mp member
    by_cases empty : value = ""
    · -- An empty value has no block, and shows nothing.
      rw [empty]
      rfl
    · rw [← field there]
      exact fields _ (mem_fieldBlocks_iff.mpr ⟨label, value, there, empty, rfl⟩)

/-- A record without tags in what is shown of it. -/
structure IsUntagged (record : Record) : Prop where
  title : pieces (record.imageName ++ ":" ++ record.imageTag).toList =
    [.plain (record.imageName ++ ":" ++ record.imageTag).toList]
  values : ∀ value ∈ valuesOf record, pieces value.toList = [.plain value.toList]

instance (record : Record) : Decidable (IsUntagged record) :=
  -- The fields of a record are a list, so each can be looked at.
  decidable_of_iff (pieces (record.imageName ++ ":" ++ record.imageTag).toList =
      [.plain (record.imageName ++ ":" ++ record.imageTag).toList] ∧
      ∀ value ∈ valuesOf record, pieces value.toList = [.plain value.toList])
    ⟨fun ⟨title, values⟩ => ⟨title, values⟩, fun ⟨title, values⟩ => ⟨title, values⟩⟩

/-- The summary of a record without tags can be printed. -/
theorem IsUntagged.renders {record : Record} (untagged : IsUntagged record) : Renders record where
  -- A text that is one plain piece shows itself.
  title := render_titleOf untagged.title
  values value member := by
    rw [render_of_single (untagged.values value member)]
    rfl

/-- What is printed of a record: every value that is not empty and in which all characters stand for
themselves, and the result whatever tags there are in it. -/
structure Shows (record : Record) (printed : List String) : Prop where
  field : ∀ label value, (label, some value) ∈ recordFields record → value ≠ "" →
    IsPlain value.toList → Prints (labelText label ++ withoutControls value.toList) printed
  result : IsUnjoined (resultText record.result).toList →
    ∃ first rest, Sets (withoutControls (resultText record.result).toList) (first :: rest) ∧
      ((labelText "Result" ++ first) :: rest).flatMap printedLines <:+: printed

/-- What is shown of a record is shown when other lines come first. -/
theorem Shows.append_left {record : Record} {printed : List String} (shown : Shows record printed)
    (before : List String) : Shows record (before ++ printed) where
  -- What is printed in one stretch stays one when more is printed before it.
  field label value member some plain := (shown.field label value member some plain).append_left _
  result unjoined := by
    obtain ⟨first, rest, sets, there⟩ := shown.result unjoined
    exact ⟨first, rest, sets, there.trans (List.suffix_append _ _).isInfix⟩

/-- A record that is printed is printed in full, as far as its characters stand for themselves. -/
theorem printAll_recordSummary {record : Record} (renders : Renders record) (world : World) :
    ∃ printed, World.printAll (recordSummary record) world =
      .ok () { world with printed := world.printed ++ printed } ∧ Shows record printed := by
  -- Each promise is about one of the blocks, all of which are printed.
  obtain ⟨printed, done, there⟩ := World.printAll_of_filled (renders_iff.mp renders) world
  refine ⟨printed, done, ?_, ?_⟩
  · intro label value member some plain
    obtain ⟨neutral, unjoined⟩ := neutral_of_mem_recordFields member
    have filled := filled_field neutral value
    rw [plain.render] at filled
    have sets : Sets (labelText label ++ withoutControls value.toList)
        (wrap .broken screenWidth (labelText label ++ withoutControls value.toList)) :=
      wrap_sets (by decide)
        (IsUnjoined.append_iff.mpr ⟨unjoined, isUnjoined_withoutControls plain.unjoined⟩)
    refine ⟨_, sets, there _ ?_ _ filled, sets.solid_printed⟩
    exact List.mem_cons_of_mem _ (List.mem_append_left _
      (mem_fieldBlocks_iff.mpr ⟨label, value, member, some, rfl⟩))
  · -- The result comes last, behind an indent of its own.
    intro unjoined
    obtain ⟨first, rest, wrapped, filled⟩ := filled_result (resultText record.result)
    refine ⟨first, rest, ?_, there _ ?_ _ filled⟩
    · rw [← wrapped]
      exact wrap_sets (by decide) (isUnjoined_withoutControls unjoined)
    · exact List.mem_cons_of_mem _ (List.mem_append_right _ List.mem_cons_self)

end ContainerScan.Display
