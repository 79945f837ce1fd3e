import ContainerScan.Report.Decoding
import Mathlib.Data.List.Basic

/-! The shape of a report as data, and that the checks of a report accept exactly the values of that
shape: absent and null parts are fine, other names are passed over, and nothing else is taken for a
text, an array or an object. -/

namespace ContainerScan

namespace Json

/-- A value is the last one of its name among members. -/
def IsLast (name : String) (value : Json) (members : List (String × Json)) : Prop :=
  ∃ front back, members = front ++ (name, value) :: back ∧ ∀ member ∈ back, member.1 ≠ name

/-- No member has a name. -/
def IsAbsent (name : String) (members : List (String × Json)) : Prop :=
  ∀ member ∈ members, member.1 ≠ name

/-- Members behind another one hide it, if they have its name. -/
theorem lookup_cons (name : String) (member : String × Json) (members : List (String × Json)) :
    lookup name (member :: members) =
      (lookup name members).or (if member.1 = name then some member.2 else none) := by
  unfold lookup
  rw [List.reverse_cons, List.find?_append, Option.map_or]
  by_cases same : member.1 = name <;> simp [same]

/-- Only an absent name is not found. -/
theorem lookup_eq_none_iff {name : String} {members : List (String × Json)} :
    lookup name members = none ↔ IsAbsent name members := by
  simp [lookup, IsAbsent]

/-- What is found of a name is the last value that it has. -/
theorem lookup_eq_some_iff {name : String} {value : Json} {members : List (String × Json)} :
    lookup name members = some value ↔ IsLast name value members := by
  rw [lookup, Option.map_eq_some_iff]
  constructor
  · rintro ⟨⟨found, _⟩, isFound, rfl⟩
    -- In the reversed members it is the first one, so none of that name is behind it.
    obtain ⟨same, behind, before, parts, others⟩ := List.find?_eq_some_iff_append.mp isFound
    obtain rfl : found = name := of_decide_eq_true same
    refine ⟨before.reverse, behind.reverse, ?_, fun member among => ?_⟩
    · rw [← List.reverse_reverse members, parts]
      simp
    · simpa using others member (List.mem_reverse.mp among)
  · rintro ⟨front, back, rfl, others⟩
    refine ⟨(name, value), ?_, rfl⟩
    rw [List.find?_eq_some_iff_append]
    refine ⟨by simp, back.reverse, front.reverse, by simp, fun member among => ?_⟩
    simpa using others member (List.mem_reverse.mp among)

end Json

namespace Checked

variable {α β : Type}

/-- A check that finds nothing wrong. -/
def IsRight (checked : Checked α) : Prop :=
  ∃ part, checked = .ok part

/-- A value alone is right. -/
@[simp] theorem isRight_ok (part : α) : IsRight (.ok part) :=
  ⟨part, rfl⟩

/-- Violations are not right. -/
@[simp] theorem isRight_error (violations : List Violation) :
    ¬IsRight (.error violations : Checked α) :=
  nofun

/-- A breach is not right. -/
@[simp] theorem isRight_breach (broken : Breach) : ¬IsRight (breach broken : Checked α) :=
  nofun

/-- Changing a value leaves it as right as it was. -/
@[simp] theorem isRight_map (change : α → β) (checked : Checked α) :
    IsRight (checked.map change) ↔ checked.IsRight := by
  cases checked <;> simp [Except.map]

/-- Two checks side by side are right exactly if both are. -/
@[simp] theorem isRight_both (first : Checked α) (second : Checked β) :
    (both first second).IsRight ↔ first.IsRight ∧ second.IsRight := by
  cases first <;> cases second <;> simp [both]

/-- What is built from parts is right exactly if they are. -/
@[simp] theorem isRight_apply (build : Checked (α → β)) (part : Checked α) :
    (apply build part).IsRight ↔ build.IsRight ∧ part.IsRight := by
  simp [apply]

/-- A value is as right from one step further out. -/
@[simp] theorem isRight_within (place : Place) (checked : Checked α) :
    (within place checked).IsRight ↔ checked.IsRight := by
  cases checked <;> simp [within]

/-- Items are right exactly if each of them is. -/
@[simp] theorem isRight_items (check : Json → Checked α) (index : Nat) (values : List Json) :
    (items check index values).IsRight ↔ ∀ value ∈ values, (check value).IsRight := by
  -- The index only tells where violations are.
  induction values generalizing index with
  | nil => simp [items]
  | cons value rest ih => simp [items, ih]

end Checked

namespace Report

open Checked

/-- The shapes of the parts of a report. -/
inductive Shape where
  | anything
  | text
  | list (item : Shape)
  | document
  | file
  | library
  | weakness
  | identifiers
  deriving DecidableEq, Repr

/-- A place for a member of an object: its name, the name by which it goes where that one is absent,
and the shape of its value. -/
structure Slot where
  name : String
  other : String := name
  shape : Shape
  deriving DecidableEq, Repr

/-- The members that count in an object; the other shapes are not those of objects. -/
def Shape.slots : Shape → List Slot
  | .document => [⟨"data", "issues", .list .file⟩, { name := "messages", shape := .anything },
      { name := "errors", shape := .anything }]
  | .file => [{ name := "file", shape := .text }, { name := "results", shape := .list .library }]
  | .library => [{ name := "version", shape := .text }, { name := "component", shape := .text },
      { name := "detection", shape := .text },
      { name := "vulnerabilities", shape := .list .weakness }]
  | .weakness => [{ name := "info", shape := .list .text }, { name := "below", shape := .text },
      { name := "severity", shape := .text }, { name := "identifiers", shape := .identifiers }]
  | .identifiers => [{ name := "issue", shape := .text }, { name := "summary", shape := .text },
      ⟨"CVE", "cve", .list .text⟩]
  | .anything | .text | .list _ => []

/-- A slot holds the last value of its name, or of its other name where its own is absent. -/
def Slot.Holds (slot : Slot) (members : List (String × Json)) (value : Json) : Prop :=
  Json.IsLast slot.name value members ∨
    Json.IsAbsent slot.name members ∧ Json.IsLast slot.other value members

/-- A value fits a shape, where the parts of an object may be absent or null. -/
inductive Fits : Shape → Json → Prop where
  | anything (value : Json) : Fits .anything value
  | text (content : String) : Fits .text (.string content)
  | list {item : Shape} {items : List Json} (each : ∀ value ∈ items, Fits item value) :
      Fits (.list item) (.array items)
  | object {shape : Shape} {members : List (String × Json)} (isObject : shape.slots ≠ [])
      (each : ∀ slot ∈ shape.slots, ∀ value, slot.Holds members value → value ≠ .null →
        Fits slot.shape value) :
      Fits shape (.object members)

/-- What members put into a slot, if anything but null, fits it. -/
def Slot.Suits (slot : Slot) (members : List (String × Json)) : Prop :=
  ∀ value, slot.Holds members value → value ≠ .null → Fits slot.shape value

/-- Only strings are texts. -/
theorem isRight_text_iff (value : Json) : (Checked.text value).IsRight ↔ Fits .text value := by
  -- A text is right, and nothing else is.
  constructor
  · intro right
    cases value with
    | string content => exact .text content
    | _ => exact absurd right (isRight_breach _)
  · rintro ⟨⟩
    · exact isRight_ok _
    · contradiction

/-- Null is a text as well where it may stand for one. -/
theorem isRight_textOrNull_iff (value : Json) :
    (textOrNull value).IsRight ↔ (value ≠ .null → Fits .text value) := by
  cases value with
  | null => simp [textOrNull]
  | _ => simp [textOrNull, isRight_text_iff]

variable {α : Type} {check : Json → Checked α}

/-- An array is right exactly if its items are; null may stand for an empty one. -/
theorem isRight_arrayOrNull_iff {item : Shape}
    (exactly : ∀ value, (check value).IsRight ↔ Fits item value) (value : Json) :
    (arrayOrNull check value).IsRight ↔ (value ≠ .null → Fits (.list item) value) := by
  cases value with
  | null => simp [arrayOrNull]
  | array values =>
    have items : (arrayOrNull check (.array values)).IsRight ↔
        ∀ value ∈ values, Fits item value := by
      simp [arrayOrNull, Checked.list, exactly]
    rw [items]
    refine ⟨fun each _ => .list each, fun fits => ?_⟩
    cases fits (by simp) with
    | list each => exact each
  | object members =>
    -- An object has slots, and the shape of a list has none.
    refine iff_of_false (isRight_breach _) fun fits => ?_
    cases fits (by simp) with
    | object isObject => exact isObject rfl
  | _ => exact iff_of_false (isRight_breach _) fun fits => by cases fits (by simp)

/-- What is found for a slot among members. -/
def Slot.found (slot : Slot) (members : List (String × Json)) : Option Json :=
  (Json.lookup slot.name members).orElse fun _ => Json.lookup slot.other members

/-- What is found for a slot is what it holds. -/
theorem Slot.found_eq_some_iff {slot : Slot} {members : List (String × Json)} {value : Json} :
    slot.found members = some value ↔ slot.Holds members value := by
  rw [Slot.Holds, ← Json.lookup_eq_some_iff, ← Json.lookup_eq_some_iff,
    ← Json.lookup_eq_none_iff, found]
  cases Json.lookup slot.name members <;> simp

/-- A member is right exactly if what it holds suits its slot. -/
theorem isRight_member_iff (slot : Slot) (absent : α)
    (exactly : ∀ value, (check value).IsRight ↔ (value ≠ .null → Fits slot.shape value))
    (members : List (String × Json)) :
    (member slot.name slot.other absent check members).IsRight ↔ slot.Suits members := by
  -- A member that is missing suits its slot.
  simp only [Slot.Suits, ← Slot.found_eq_some_iff]
  unfold member
  rw [← Slot.found]
  cases slot.found members with
  | none => simp
  | some value => simp [exactly]

/-- A text among members is right exactly if it suits its slot. -/
theorem isRight_textMember_iff (name : String) (members : List (String × Json)) :
    (member name name "" textOrNull members).IsRight ↔
      { name := name, shape := .text : Slot }.Suits members :=
  isRight_member_iff { name := name, shape := .text } "" isRight_textOrNull_iff members

/-- A member that is kept as it is is always right. -/
theorem isRight_anyMember_iff (name : String) (members : List (String × Json)) :
    (member name name .null Except.ok members : Checked Json).IsRight ↔
      { name := name, shape := .anything : Slot }.Suits members :=
  isRight_member_iff { name := name, shape := .anything } .null
    (fun value => iff_of_true (isRight_ok value) fun _ => .anything value) members

/-- An object is right exactly if its members suit the slots of its shape. -/
theorem isRight_model_iff {shape : Shape} (isObject : shape.slots ≠ []) (otherwise : Breach)
    {build : List (String × Json) → Checked α}
    (exactly : ∀ members, (build members).IsRight ↔ ∀ slot ∈ shape.slots, slot.Suits members)
    (value : Json) : (model otherwise build value).IsRight ↔ Fits shape value := by
  cases value with
  | object members =>
    rw [model, exactly]
    refine ⟨.object isObject, fun fits => ?_⟩
    cases fits with
    | anything => exact absurd rfl isObject
    | object _ each => exact each
  | _ =>
    refine iff_of_false (isRight_breach _) fun fits => ?_
    -- What fits without being an object has a shape without slots.
    cases fits <;> exact isObject rfl

/-! The checks of a report, part by part from the inside to the outside. -/

/-- Identifiers are right exactly if their members are. -/
theorem isRight_identifiersOf_iff (members : List (String × Json)) :
    (identifiersOf members).IsRight ↔ ∀ slot ∈ Shape.identifiers.slots, slot.Suits members := by
  -- An object is right when every slot is suited.
  have issue := isRight_textMember_iff "issue" members
  have summary := isRight_textMember_iff "summary" members
  have cve := isRight_member_iff ⟨"CVE", "cve", .list .text⟩ []
    (isRight_arrayOrNull_iff isRight_text_iff) members
  simp [identifiersOf, Shape.slots, issue, summary, cve, and_assoc]

/-- Identifiers are an object, for which null may stand. -/
theorem isRight_decodeIdentifiers_iff (value : Json) :
    (decodeIdentifiers value).IsRight ↔ (value ≠ .null → Fits .identifiers value) := by
  -- Null stands for no identifiers at all.
  have object := isRight_model_iff (by decide) .notObject isRight_identifiersOf_iff value
  cases value with
  | null => simp [decodeIdentifiers]
  | _ => simpa [decodeIdentifiers] using object

/-- A weakness is right exactly if its members are. -/
theorem isRight_weaknessOf_iff (members : List (String × Json)) :
    (weaknessOf members).IsRight ↔ ∀ slot ∈ Shape.weakness.slots, slot.Suits members := by
  -- An object is right when every slot is suited.
  have info := isRight_member_iff { name := "info", shape := .list .text } []
    (isRight_arrayOrNull_iff isRight_text_iff) members
  have below := isRight_textMember_iff "below" members
  have severity := isRight_textMember_iff "severity" members
  have identifiers := isRight_member_iff { name := "identifiers", shape := .identifiers }
    Identifiers.empty isRight_decodeIdentifiers_iff members
  simp [weaknessOf, Shape.slots, info, below, severity, identifiers, and_assoc]

/-- A library is right exactly if its members are. -/
theorem isRight_libraryOf_iff (members : List (String × Json)) :
    (libraryOf members).IsRight ↔ ∀ slot ∈ Shape.library.slots, slot.Suits members := by
  -- An object is right when every slot is suited, the list of weaknesses among them.
  have version := isRight_textMember_iff "version" members
  have component := isRight_textMember_iff "component" members
  have detection := isRight_textMember_iff "detection" members
  have weakness := isRight_model_iff (by decide) .notObject isRight_weaknessOf_iff
  have vulnerabilities := isRight_member_iff
    { name := "vulnerabilities", shape := .list .weakness } []
    (isRight_arrayOrNull_iff weakness) members
  simp [libraryOf, Shape.slots, version, component, detection, vulnerabilities, and_assoc]

/-- A file is right exactly if its members are. -/
theorem isRight_scannedFileOf_iff (members : List (String × Json)) :
    (scannedFileOf members).IsRight ↔ ∀ slot ∈ Shape.file.slots, slot.Suits members := by
  -- An object is right when every slot is suited, the list of libraries among them.
  have file := isRight_textMember_iff "file" members
  have library := isRight_model_iff (by decide) .notObject isRight_libraryOf_iff
  have results := isRight_member_iff { name := "results", shape := .list .library } []
    (isRight_arrayOrNull_iff library) members
  simp [scannedFileOf, Shape.slots, file, results]

/-- A report is right exactly if its files are; its messages and errors may be anything. -/
theorem isRight_documentOf_iff (members : List (String × Json)) :
    (documentOf members).IsRight ↔ ∀ slot ∈ Shape.document.slots, slot.Suits members := by
  -- Messages and errors may be anything, and the files are what is looked at.
  have file := isRight_model_iff (by decide) .notObject isRight_scannedFileOf_iff
  have data := isRight_member_iff ⟨"data", "issues", .list .file⟩ []
    (isRight_arrayOrNull_iff file) members
  have messages := isRight_anyMember_iff "messages" members
  have errors := isRight_anyMember_iff "errors" members
  simp [documentOf, Shape.slots, data, messages, errors, and_assoc]

/-- A value is a report exactly if it fits the shape of one. -/
theorem isRight_decode_iff (value : Json) : (decode value).IsRight ↔ Fits .document value :=
  isRight_model_iff (by decide) .notObject isRight_documentOf_iff value

end Report

end ContainerScan
