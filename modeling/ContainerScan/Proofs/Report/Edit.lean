import ContainerScan.Proofs.Evaluation
import ContainerScan.Proofs.Report.Acceptance
import ContainerScan.Proofs.Schema.Checked

/-! Reports that differ only in members that are null or that no report has are read alike. -/

namespace ContainerScan

namespace Checked

variable {α β : Type}

/-- Two checks come to the same value, if to any, whatever they find wrong otherwise. -/
def Agree (first second : Checked α) : Prop :=
  ∀ part, first = .ok part ↔ second = .ok part

/-- A check agrees with itself. -/
theorem Agree.refl (checked : Checked α) : Agree checked checked :=
  fun _ => Iff.rfl

/-- Checks that find something wrong agree. -/
theorem agree_error (first second : List Violation) :
    Agree (.error first : Checked α) (.error second) :=
  fun _ => iff_of_false nofun nofun

/-- Checks side by side agree if each of them does. -/
theorem Agree.both {first other : Checked α} {second more : Checked β}
    (firsts : Agree first other) (seconds : Agree second more) :
    Agree (both first second) (both other more) := fun pair => by
  rw [both_eq_ok_iff, both_eq_ok_iff, firsts, seconds]

/-- What is changed agrees if what it is changed from does. -/
theorem Agree.map {first second : Checked α} (agree : Agree first second) (change : α → β) :
    Agree (first.map change) (second.map change) := fun value => by
  simp only [map_eq_ok_iff, agree _]

/-- What is built from parts that agree agrees. -/
theorem Agree.apply {build other : Checked (α → β)} {first second : Checked α}
    (builds : Agree build other) (parts : Agree first second) :
    Agree (apply build first) (apply other second) :=
  (builds.both parts).map _

/-- A check agrees with another one from one step further out as well. -/
theorem Agree.within {first second : Checked α} (agree : Agree first second)
    (place other : Place) : Agree (within place first) (within other second) := fun value => by
  simp only [within_eq_ok_iff, agree _]

end Checked

namespace Report

open Checked Json

/-- The shape of the items of an array. -/
def Shape.item : Shape → Shape
  | .list item => item
  | _ => .anything

/-- The shape of a member of an object. -/
def Shape.member (shape : Shape) (name : String) : Shape :=
  ((shape.slots.find? fun slot => slot.name = name).map Slot.shape).getD .anything

/-- Whether a member of a name counts in an object. -/
def Shape.names (shape : Shape) (name : String) : Bool :=
  shape.slots.any fun slot => slot.name = name || slot.other = name

/-- Whether a name is one by which a member goes only where another name is absent. -/
def Shape.isFallback (shape : Shape) (name : String) : Bool :=
  shape.slots.any fun slot => slot.other = name && slot.name ≠ name

mutual

/-- Whether no member of a value goes by a name that is a fallback. -/
def Shape.isPlain : Shape → Json → Bool
  | shape, .array items => shape.item.arePlain items
  | shape, .object members => shape.membersPlain members
  | _, _ => true

/-- Whether no member of one of the items goes by a name that is a fallback. -/
def Shape.arePlain : Shape → List Json → Bool
  | _, [] => true
  | shape, item :: items => shape.isPlain item && shape.arePlain items

/-- Whether no member, and no member of one, goes by a name that is a fallback. -/
def Shape.membersPlain : Shape → List (String × Json) → Bool
  | _, [] => true
  | shape, (name, value) :: members =>
    !shape.isFallback name && (shape.member name).isPlain value && shape.membersPlain members

end

/-- What becomes of a value of a shape, of items or of members, where members that are null are taken
away, and members that do not count are taken away or put in. -/
inductive Edited : Shape → Part → Part → Prop where
  | same {shape : Shape} (value : Json) : Edited shape (.value value) (.value value)
  /-- What may be anything has no members that count. -/
  | anything (before after : Json) : Edited .anything (.value before) (.value after)
  | array {shape : Shape} {before after : List Json}
      (inside : Edited shape.item (.items before) (.items after)) :
      Edited shape (.value (.array before)) (.value (.array after))
  | object {shape : Shape} {before after : List (String × Json)}
      (inside : Edited shape (.members before) (.members after)) :
      Edited shape (.value (.object before)) (.value (.object after))
  | noItems {shape : Shape} : Edited shape (.items []) (.items [])
  | item {shape : Shape} {before after : Json} {items others : List Json}
      (value : Edited shape (.value before) (.value after))
      (rest : Edited shape (.items items) (.items others)) :
      Edited shape (.items (before :: items)) (.items (after :: others))
  | noMembers {shape : Shape} : Edited shape (.members []) (.members [])
  /-- A member stays, and inside of it more may be edited. -/
  | keep {shape : Shape} {name : String} {before after : Json}
      {members others : List (String × Json)}
      (value : Edited (shape.member name) (.value before) (.value after))
      (rest : Edited shape (.members members) (.members others)) :
      Edited shape (.members ((name, before) :: members)) (.members ((name, after) :: others))
  | dropNull {shape : Shape} {name : String} {members others : List (String × Json)}
      (named : shape.names name = true) (rest : Edited shape (.members members) (.members others)) :
      Edited shape (.members ((name, .null) :: members)) (.members others)
  | drop {shape : Shape} {name : String} {value : Json} {members others : List (String × Json)}
      (unnamed : shape.names name = false)
      (rest : Edited shape (.members members) (.members others)) :
      Edited shape (.members ((name, value) :: members)) (.members others)
  | add {shape : Shape} {name : String} {value : Json} {members others : List (String × Json)}
      (unnamed : shape.names name = false)
      (rest : Edited shape (.members members) (.members others)) :
      Edited shape (.members members) (.members ((name, value) :: others))

/-- A value, and what becomes of it, where the names in it do not repeat and none is a fallback. -/
structure Harmless (shape : Shape) (before after : Json) : Prop where
  edited : Edited shape (.value before) (.value after)
  distinct : before.isDistinct = true
  plain : shape.isPlain before = true

/-- What becomes of a member that counts: it stays absent, a null is gone, or its value is edited. -/
inductive Kept (shape : Shape) : Option Json → Option Json → Prop where
  | absent : Kept shape none none
  | gone : Kept shape (some .null) none
  | edited {before after : Json} (harmless : Harmless shape before after) :
      Kept shape (some before) (some after)

/-- What becomes of absent members is that they stay so. -/
theorem Kept.eq_none {shape : Shape} {found : Option Json} (kept : Kept shape none found) :
    found = none := by
  cases kept
  rfl

/-- A name that counts is another one than a name that does not. -/
theorem Shape.ne_of_names {shape : Shape} {own name : String} (unnamed : shape.names own = false)
    (named : shape.names name = true) : own ≠ name := by
  rintro rfl
  exact Bool.false_ne_true (unnamed.symm.trans named)

/-- A member that counts is kept. -/
theorem Edited.kept {shape : Shape} {name : String} (named : shape.names name = true)
    {part other : Part} (edited : Edited shape part other) :
    ∀ before after, part = .members before → other = .members after →
      membersDistinct before = true → shape.membersPlain before = true →
      Kept (shape.member name) (lookup name before) (lookup name after) := by
  -- The induction is on the edit, which need not go member by member through either object.
  induction edited with
  | same | anything | array | object | noItems | item => intro _ _ isMembers; cases isMembers
  | noMembers =>
    rintro _ _ ⟨⟩ ⟨⟩ _ _
    exact .absent
  | @keep shape own before after members others value rest _ ih =>
    rintro _ _ ⟨⟩ ⟨⟩ distinct plain
    simp only [membersDistinct, Bool.and_eq_true, List.all_eq_true, decide_eq_true_eq] at distinct
    simp only [Shape.membersPlain, Bool.and_eq_true] at plain
    have kept := ih named _ _ rfl rfl distinct.2 plain.2
    rw [lookup_cons, lookup_cons]
    by_cases same : own = name
    · -- No other member has the name, so this one is found before and after.
      subst same
      rw [lookup_eq_none_iff.mpr distinct.1.2] at kept ⊢
      rw [kept.eq_none]
      simpa using .edited ⟨value, distinct.1.1, plain.1.2⟩
    · simpa [same] using kept
  | @dropNull shape own members others isNamed rest ih =>
    rintro _ _ ⟨⟩ ⟨⟩ distinct plain
    simp only [membersDistinct, Bool.and_eq_true, List.all_eq_true, decide_eq_true_eq] at distinct
    simp only [Shape.membersPlain, Bool.and_eq_true] at plain
    have kept := ih named _ _ rfl rfl distinct.2 plain.2
    rw [lookup_cons]
    by_cases same : own = name
    · subst same
      rw [lookup_eq_none_iff.mpr distinct.1.2] at kept ⊢
      rw [kept.eq_none]
      simpa using .gone
    · simpa [same] using kept
  | @drop shape own value members others unnamed rest ih =>
    rintro _ _ ⟨⟩ ⟨⟩ distinct plain
    simp only [membersDistinct, Bool.and_eq_true] at distinct
    simp only [Shape.membersPlain, Bool.and_eq_true] at plain
    have kept := ih named _ _ rfl rfl distinct.2 plain.2
    have different := Shape.ne_of_names unnamed named
    simpa [lookup_cons, different] using kept
  | @add shape own value members others unnamed rest ih =>
    rintro _ _ ⟨⟩ ⟨⟩ distinct plain
    have kept := ih named _ _ rfl rfl distinct plain
    have different := Shape.ne_of_names unnamed named
    simpa [lookup_cons, different] using kept

/-- A fallback is absent where members do without. -/
theorem Shape.isAbsent_of_isFallback {shape : Shape} {name : String}
    (fallback : shape.isFallback name = true) {members : List (String × Json)}
    (plain : shape.membersPlain members = true) : IsAbsent name members := by
  -- A plain object has no member by the other name of a slot.
  induction members with
  | nil => nofun
  | cons member members ih =>
    simp only [membersPlain, Bool.and_eq_true, Bool.not_eq_true'] at plain
    refine List.forall_mem_cons.mpr ⟨?_, ih plain.2⟩
    rintro rfl
    exact Bool.false_ne_true (plain.1.1.symm.trans fallback)

/-- The members that count have the shapes of their slots. -/
theorem Shape.member_name {shape : Shape} {slot : Slot} (isSlot : slot ∈ shape.slots) :
    shape.member slot.name = slot.shape ∧ shape.names slot.name = true ∧
      shape.names slot.other = true := by
  refine ⟨?_, List.any_eq_true.mpr ⟨slot, isSlot, by simp⟩,
    List.any_eq_true.mpr ⟨slot, isSlot, by simp⟩⟩
  -- No two slots of a shape have the same name.
  revert slot
  cases shape with
  | list => nofun
  | _ => decide

/-- A check that agrees on a value of a shape and on what becomes of it. -/
def Shape.Preserves {α : Type} (shape : Shape) (check : Json → Checked α) : Prop :=
  ∀ ⦃before after : Json⦄, Harmless shape before after → Agree (check before) (check after)

/-- A check of members that agrees on an object of a shape and on what becomes of it. -/
def Shape.PreservesMembers {α : Type} (shape : Shape) (build : List (String × Json) → Checked α) :
    Prop :=
  ∀ ⦃before after : List (String × Json)⦄, Edited shape (.members before) (.members after) →
    membersDistinct before = true → shape.membersPlain before = true →
      Agree (build before) (build after)

variable {α : Type} {shape : Shape}

/-- What a slot holds is kept. -/
theorem Slot.kept {slot : Slot} (isSlot : slot ∈ shape.slots) {before after : List (String × Json)}
    (edited : Edited shape (.members before) (.members after))
    (distinct : membersDistinct before = true) (plain : shape.membersPlain before = true) :
    Kept slot.shape (slot.found before) (slot.found after) := by
  obtain ⟨itsShape, named, otherNamed⟩ := Shape.member_name isSlot
  have first := edited.kept named _ _ rfl rfl distinct plain
  have second := edited.kept otherNamed _ _ rfl rfl distinct plain
  rw [itsShape] at first
  by_cases same : slot.name = slot.other
  · -- Without a fallback the name is looked up once more.
    have once (members : List (String × Json)) : slot.found members = lookup slot.name members := by
      simp [Slot.found, ← same]
    rwa [once, once]
  · -- The fallback is absent, and stays so.
    have fallback : shape.isFallback slot.other = true :=
      List.any_eq_true.mpr ⟨slot, isSlot, by simp [same]⟩
    have absent := lookup_eq_none_iff.mpr (Shape.isAbsent_of_isFallback fallback plain)
    rw [absent] at second
    simpa [Slot.found, absent, second.eq_none] using first

/-- A member agrees if its value does and null may stand for an absent one. -/
theorem member_preserves {slot : Slot} (isSlot : slot ∈ shape.slots) {absent : α}
    {check : Json → Checked α} (null : check .null = .ok absent)
    (preserves : slot.shape.Preserves check) :
    shape.PreservesMembers (member slot.name slot.other absent check) := by
  intro before after edited distinct plain
  have kept := Slot.kept isSlot edited distinct plain
  unfold member
  rw [← Slot.found, ← Slot.found]
  -- A null that is gone is the one case in which the default stands for a value.
  generalize slot.found before = first, slot.found after = second at kept
  cases kept with
  | absent => exact Agree.refl _
  | gone =>
    simp only [null]
    exact Agree.refl _
  | edited harmless => exact (preserves harmless).within _ _

/-! The checks of a report agree, part by part from the inside to the outside. -/

/-- Texts stay as they are, and nothing else becomes one. -/
theorem text_preserves : Shape.text.Preserves text := fun _ _ ⟨edited, _, _⟩ => by
  -- An array stays an array, and an object an object, so both are refused before and after.
  cases edited with
  | same => exact Agree.refl _
  | array | object => exact agree_error _ _

/-- Where null may stand for a text the same holds. -/
theorem textOrNull_preserves : Shape.text.Preserves textOrNull := fun _ _ ⟨edited, _, _⟩ => by
  cases edited with
  | same => exact Agree.refl _
  | array | object => exact agree_error _ _

/-- Items agree one by one. -/
theorem items_agree {check : Json → Checked α} (preserves : shape.Preserves check)
    {before after : List Json} (edited : Edited shape (.items before) (.items after))
    (distinct : areDistinct before = true) (plain : shape.arePlain before = true) (index : Nat) :
    Agree (items check index before) (items check index after) := by
  -- An edit leaves the number of items as it is, so both lists are gone through at once.
  induction before generalizing after index with
  | nil =>
    cases edited
    exact Agree.refl _
  | cons item items ih =>
    cases edited with
    | item value rest =>
      simp only [areDistinct, Bool.and_eq_true] at distinct
      simp only [Shape.arePlain, Bool.and_eq_true] at plain
      have first := preserves ⟨value, distinct.1, plain.1⟩
      have others := ih rest distinct.2 plain.2 (index + 1)
      exact ((first.within _ _).both others).map _

/-- Arrays agree if their items do. -/
theorem arrayOrNull_preserves {check : Json → Checked α} (preserves : shape.Preserves check) :
    (Shape.list shape).Preserves (arrayOrNull check) := fun _ _ ⟨edited, distinct, plain⟩ => by
  -- An edit changes what is inside an array, and makes no array of anything else.
  cases edited with
  | same => exact Agree.refl _
  | array inside => exact items_agree preserves inside distinct plain 0
  | object => exact agree_error _ _

/-- Objects agree if their members do. -/
theorem model_preserves (isObject : shape.slots ≠ []) (otherwise : Breach)
    {build : List (String × Json) → Checked α} (preserves : shape.PreservesMembers build) :
    shape.Preserves (model otherwise build) := fun _ _ ⟨edited, distinct, plain⟩ => by
  -- An edit changes the members of an object, and makes no object of anything else.
  cases edited with
  | same => exact Agree.refl _
  | anything => exact absurd rfl isObject
  | array => exact agree_error _ _
  | object inside => exact preserves inside distinct plain

/-- Texts among the members of an object agree. -/
theorem textMember_preserves {name : String}
    (isSlot : { name := name, shape := .text } ∈ shape.slots) :
    shape.PreservesMembers (member name name "" textOrNull) :=
  member_preserves isSlot rfl textOrNull_preserves

/-- Lists among the members of an object agree if their items do. -/
theorem listMember_preserves {name other : String} {item : Shape}
    (isSlot : ⟨name, other, .list item⟩ ∈ shape.slots) {check : Json → Checked α}
    (preserves : item.Preserves check) :
    shape.PreservesMembers (member name other [] (arrayOrNull check)) :=
  member_preserves isSlot rfl (arrayOrNull_preserves preserves)

/-- What does not depend on members agrees. -/
theorem const_preserves (checked : Checked α) : shape.PreservesMembers fun _ => checked :=
  fun _ _ _ _ _ => Agree.refl checked

/-- Members side by side agree if each of them does. -/
theorem apply_preserves {β : Type} {build : List (String × Json) → Checked (α → β)}
    {part : List (String × Json) → Checked α} (builds : shape.PreservesMembers build)
    (parts : shape.PreservesMembers part) :
    shape.PreservesMembers fun members => apply (build members) (part members) :=
  fun _ _ edited distinct plain =>
    (builds edited distinct plain).apply (parts edited distinct plain)

/-- Identifiers agree. -/
theorem identifiersOf_preserves : Shape.identifiers.PreservesMembers identifiersOf := by
  -- Each member is preserved by itself, and the object is put together of them.
  have issue : Shape.identifiers.PreservesMembers (member "issue" "issue" "" textOrNull) :=
    textMember_preserves (by decide)
  have summary : Shape.identifiers.PreservesMembers (member "summary" "summary" "" textOrNull) :=
    textMember_preserves (by decide)
  have cve : Shape.identifiers.PreservesMembers (member "CVE" "cve" [] (arrayOrNull text)) :=
    listMember_preserves (by decide) text_preserves
  exact apply_preserves (apply_preserves (apply_preserves (const_preserves _) issue) summary) cve

/-- Identifiers agree where null may stand for them. -/
theorem decodeIdentifiers_preserves : Shape.identifiers.Preserves decodeIdentifiers := by
  intro before after harmless
  have object := model_preserves (by decide) .notObject identifiersOf_preserves harmless
  -- Null itself only stays what it is.
  cases harmless.edited with
  | same => exact Agree.refl _
  | array | object => exact object

/-- Weaknesses agree. -/
theorem weaknessOf_preserves : Shape.weakness.PreservesMembers weaknessOf := by
  -- Each member is preserved by itself; the identifiers have a null of their own.
  have info : Shape.weakness.PreservesMembers (member "info" "info" [] (arrayOrNull text)) :=
    listMember_preserves (by decide) text_preserves
  have below : Shape.weakness.PreservesMembers (member "below" "below" "" textOrNull) :=
    textMember_preserves (by decide)
  have severity : Shape.weakness.PreservesMembers (member "severity" "severity" "" textOrNull) :=
    textMember_preserves (by decide)
  have identifiers : Shape.weakness.PreservesMembers
      (member "identifiers" "identifiers" .empty decodeIdentifiers) :=
    @member_preserves _ _ { name := "identifiers", shape := .identifiers } (by decide) _ _ rfl
      decodeIdentifiers_preserves
  exact apply_preserves (apply_preserves (apply_preserves (apply_preserves (const_preserves _)
    info) below) severity) identifiers

/-- Libraries agree. -/
theorem libraryOf_preserves : Shape.library.PreservesMembers libraryOf := by
  -- Each member is preserved by itself, the weaknesses item by item.
  have version : Shape.library.PreservesMembers (member "version" "version" "" textOrNull) :=
    textMember_preserves (by decide)
  have component : Shape.library.PreservesMembers
      (member "component" "component" "" textOrNull) :=
    textMember_preserves (by decide)
  have detection : Shape.library.PreservesMembers
      (member "detection" "detection" "" textOrNull) :=
    textMember_preserves (by decide)
  have weaknesses : Shape.library.PreservesMembers
      (member "vulnerabilities" "vulnerabilities" [] (arrayOrNull (model .notObject weaknessOf))) :=
    listMember_preserves (by decide) (model_preserves (by decide) .notObject weaknessOf_preserves)
  exact apply_preserves (apply_preserves (apply_preserves (apply_preserves (const_preserves _)
    version) component) detection) weaknesses

/-- Files agree. -/
theorem scannedFileOf_preserves : Shape.file.PreservesMembers scannedFileOf := by
  -- Each member is preserved by itself, the libraries item by item.
  have file : Shape.file.PreservesMembers (member "file" "file" "" textOrNull) :=
    textMember_preserves (by decide)
  have results : Shape.file.PreservesMembers
      (member "results" "results" [] (arrayOrNull (model .notObject libraryOf))) :=
    listMember_preserves (by decide) (model_preserves (by decide) .notObject libraryOf_preserves)
  exact apply_preserves (apply_preserves (const_preserves _) file) results

/-- The files of a report are those under its data, whatever its messages and errors are. -/
theorem documentOf_files (members : List (String × Json)) :
    (documentOf members).map Document.files =
      member "data" "issues" [] (arrayOrNull (model .notObject scannedFileOf)) members := by
  have kept (name : String) :
      ∃ found, (member name name .null Except.ok members : Checked Json) = .ok found := by
    unfold member
    split <;> exact ⟨_, rfl⟩
  -- Neither of the two other members can break a rule.
  obtain ⟨messages, isMessages⟩ := kept "messages"
  obtain ⟨errors, isErrors⟩ := kept "errors"
  rw [documentOf, isMessages, isErrors]
  cases member "data" "issues" [] (arrayOrNull (model .notObject scannedFileOf)) members <;> rfl

/-- The files of reports agree. -/
theorem decode_preserves :
    Shape.document.Preserves fun value => (decode value).map Document.files := by
  -- Of a document only its files count, and these come from one member.
  intro before after ⟨edited, distinct, plain⟩
  have data : Shape.document.PreservesMembers
      (member "data" "issues" [] (arrayOrNull (model .notObject scannedFileOf))) :=
    listMember_preserves (by decide) (model_preserves (by decide) .notObject scannedFileOf_preserves)
  cases edited with
  | same => exact Agree.refl _
  | array => exact agree_error _ _
  | object inside =>
    have files := data inside distinct plain
    rwa [← documentOf_files, ← documentOf_files] at files

end Report

namespace RetireJs

/-- The findings are those of the files. -/
theorem read_eq_ok_iff {raw : String} {value : Json} (written : value.IsWrittenAs raw)
    (shallow : value.nesting ≤ Json.depthLimit) {findings : Findings} :
    analyzer.read raw = .ok findings ↔
      ∃ files, (Report.decode value).map Report.Document.files = .ok files ∧
        ⟨files.map Report.ScannedFile.issue⟩ = findings := by
  rw [read_of_isWrittenAs written shallow]
  cases Report.decode value <;> simp [Except.map, Report.Document.findings]

/-- Taking away members that are null, and taking away or putting in members that no report has, at
any places at once, changes nothing about what is read, and nothing about what an evaluation comes
to. -/
theorem read_edited {before after : Json} {first second : String}
    (edited : Report.Edited .document (.value before) (.value after))
    (distinct : before.isDistinct = true) (plain : Report.Shape.document.isPlain before = true)
    (isFirst : before.IsWrittenBriefly first) (isSecond : after.IsWrittenBriefly second)
    (shallow : before.nesting ≤ Json.depthLimit) (stays : after.nesting ≤ Json.depthLimit) :
    (∀ findings, analyzer.read first = .ok findings ↔ analyzer.read second = .ok findings) ∧
    (Text.contains first "ERROR_CLONING" = false → Text.contains second "ERROR_CLONING" = false →
      ∀ cid, ∃ conclusion, analyzer.Concludes cid first conclusion ∧
        analyzer.Concludes cid second conclusion) := by
  have alike : ∀ findings,
      analyzer.read first = .ok findings ↔ analyzer.read second = .ok findings := by
    intro findings
    -- The findings come from the files alone, and these are the same.
    have files := Report.decode_preserves ⟨edited, distinct, plain⟩
    simp only [read_eq_ok_iff isFirst.isWrittenAs shallow,
      read_eq_ok_iff isSecond.isWrittenAs stays, files _]
  exact ⟨alike, fun unmarked noMarker => analyzer.concludes_alike unmarked noMarker alike⟩

/-- A report that loses a null and a member that no report has, and gets another such member. -/
theorem read_edited_null :
    let before : Json := .object [("data", .array [.object [("file", .null), ("own", .null)]])]
    let after : Json := .object [("more", .bool true), ("data", .array [.object []])]
    let first := before.render
    let second := after.render
    Report.Edited .document (.value before) (.value after) ∧
      before.isDistinct = true ∧ Report.Shape.document.isPlain before = true ∧
      before.IsWrittenBriefly first ∧ after.IsWrittenBriefly second ∧
      before.nesting ≤ Json.depthLimit ∧ after.nesting ≤ Json.depthLimit ∧
      Text.contains first "ERROR_CLONING" = false ∧ Text.contains second "ERROR_CLONING" = false ∧
      (∀ findings, analyzer.read first = .ok findings ↔ analyzer.read second = .ok findings) ∧
      ∃ conclusion, analyzer.Concludes "4f1c" first conclusion ∧
        analyzer.Concludes "4f1c" second conclusion := by
  intro before after first second
  -- In the file one null is a member that counts and the other one is not.
  have file : Report.Edited .file (.members [("file", .null), ("own", .null)]) (.members []) :=
    .dropNull (by decide) (.drop (by decide) .noMembers)
  have edited : Report.Edited .document (.value before) (.value after) :=
    .object (.add (by decide) (.keep (.array (.item (.object file) .noItems)) .noMembers))
  have distinct : before.isDistinct = true := by decide
  have plain : Report.Shape.document.isPlain before = true := by decide
  -- Both are written as they are rendered, with no number in them.
  have isFirst : before.IsWrittenBriefly first := by
    have scanned := Json.renders_object [("file", .null), ("own", .null)]
      (by simpa using Json.renders_null)
    have data := Json.renders_array [_] (by simpa using scanned)
    exact (Json.renders_object [("data", _)] (by simpa using data)).isWrittenWithin _
  have isSecond : after.IsWrittenBriefly second := by
    have scanned := Json.renders_object [] (by simp)
    have data := Json.renders_array [_] (by simpa using scanned)
    exact (Json.renders_object [("more", .bool true), ("data", _)]
      (by simpa using ⟨Json.renders_yes, data⟩)).isWrittenWithin _
  have shallow : before.nesting ≤ Json.depthLimit := by decide
  have stays : after.nesting ≤ Json.depthLimit := by decide
  have unmarked : Text.contains first "ERROR_CLONING" = false := by decide
  have noMarker : Text.contains second "ERROR_CLONING" = false := by decide
  obtain ⟨alike, concludes⟩ :=
    read_edited edited distinct plain isFirst isSecond shallow stays
  exact ⟨edited, distinct, plain, isFirst, isSecond, shallow, stays, unmarked, noMarker, alike,
    concludes unmarked noMarker "4f1c"⟩

/-- A member that no report has makes a report unreadable if it is a number with too many digits. -/
theorem read_long_member :
    let before : Json := .object []
    let after : Json := .object [("x", .nat (Nat.pow 10 Json.numberLimit))]
    Report.Edited .document (.value before) (.value after) ∧
      before.isDistinct = true ∧ Report.Shape.document.isPlain before = true ∧
      before.nesting ≤ Json.depthLimit ∧ after.nesting ≤ Json.depthLimit ∧
      analyzer.read before.render = .ok ⟨[]⟩ ∧
      ∃ message, analyzer.read after.render = .error ⟨"retirejs", message⟩ := by
  -- A name that no report has may be added, so only the reader can refuse this one.
  intro before after
  have edited : Report.Edited .document (.value before) (.value after) :=
    .object (.add (by decide) .noMembers)
  have written := (Json.renders_object [] (by simp)).isWrittenWithin Json.byDigits
  have accepted : analyzer.read before.render = .ok ⟨[]⟩ :=
    read_of_isWrittenAs written (Nat.zero_le _)
  obtain ⟨message, unread⟩ := Json.read_long_number "x" (Nat.le_refl _)
  exact ⟨edited, by decide, by decide, Nat.zero_le _, Nat.le_add_left 1 199, accepted,
    read_of_unread unread⟩

end RetireJs

end ContainerScan
