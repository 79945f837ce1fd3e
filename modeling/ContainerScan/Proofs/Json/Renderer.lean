import ContainerScan.Json.Renderer
import ContainerScan.Proofs.Json.Grammar

/-! What the renderer makes of strings and containers writes them. -/

namespace ContainerScan.Json

open ContainerScan.Text

/-- A hexadecimal digit is read as its value. -/
theorem hexValue?_hexDigit {value : Nat} (small : value < 16) :
    hexValue? (hexDigit value) = some value := by
  revert value
  decide

/-- The four digits of a small code write it. -/
theorem isCode_hexDigits {code : Nat} (small : code < 65536) : IsCode (hexDigits 4 code) code where
  -- Four digits of base sixteen make up a code below its fourth power.
  four := rfl
  value := by
    have digit (value : Nat) : hexValue? (hexDigit (value % 16)) = some (value % 16) :=
      hexValue?_hexDigit (Nat.mod_lt _ (by decide))
    simp only [hexDigits, List.nil_append, List.cons_append, hexCode?, digit, Option.bind_some,
      Option.some.injEq]
    omega

/-- A character in front of a written text. -/
theorem spells_renderChar (c : Char) {text written : List Char} (rest : Spells text written) :
    Spells (c :: text) (renderChar c ++ written) := by
  -- A mark is escaped by a letter, a control character by its code; others stand as they are.
  unfold renderChar
  split
  · next mark => rcases mark with rfl | rfl <;> exact .letter rfl rest
  · next noMark =>
    rw [not_or] at noMark
    split
    · next control => exact .code (isCode_hexDigits (by omega)) rest
    · next shown => exact .plain noMark.1 noMark.2 (Nat.le_of_not_lt shown) rest

/-- The characters of a rendered string write its content. -/
theorem spells_render (text : List Char) : Spells text (text.flatMap renderChar) := by
  induction text with
  | nil => exact .nil
  | cons c text ih => exact spells_renderChar c ih

/-- What the renderer makes of a value writes it, whatever the bounds of numbers. -/
def Renders (value : Json) : Prop :=
  ∀ most, Writes most (.value value) (renderChars value)

/-- The rendered null writes null. -/
theorem renders_null : Json.null.Renders :=
  fun _ => .null

/-- The rendered true writes true. -/
theorem renders_yes : (Json.bool true).Renders :=
  fun _ => .yes

/-- A rendered string writes the string. -/
theorem renders_string (content : String) : (Json.string content).Renders :=
  fun _ => .string (spells_render content.toList)

/-- Rendered items with commas between them write the items. -/
theorem writes_joinItems (most : Bool → Nat) (item : Json) (items : List Json)
    (all : ∀ value ∈ item :: items, value.Renders) :
    Writes most (.items (item :: items)) (joinParts (renderItems (item :: items))) := by
  -- The comma belongs to the item before it, so the first item stays apart.
  induction items generalizing item with
  | nil =>
    have last := Writes.lastItem isGap_nil (all item (List.mem_cons_self ..) most) isGap_nil
    simpa [renderItems, joinParts] using last
  | cons next items ih =>
    have following := ih next fun value member => all value (List.mem_cons_of_mem _ member)
    have first := Writes.item isGap_nil (all item (List.mem_cons_self ..) most) isGap_nil following
    simpa [renderItems, joinParts] using first

/-- A rendered array writes the array, if its rendered items write them. -/
theorem renders_array (items : List Json) (all : ∀ value ∈ items, value.Renders) :
    (Json.array items).Renders := by
  cases items with
  | nil => exact fun _ => .emptyArray isGap_nil
  | cons item items => exact fun most => .array (writes_joinItems most item items all)

/-- An array of parts that are all written in one way is rendered as such. -/
theorem renders_map {α : Type} {write : α → Json} (all : ∀ part, (write part).Renders)
    (parts : List α) : (Json.array (parts.map write)).Renders := by
  refine renders_array _ fun value member => ?_
  obtain ⟨part, -, rfl⟩ := List.mem_map.mp member
  exact all part

/-- Rendered members with commas between them write the members. -/
theorem writes_joinMembers (most : Bool → Nat) (first : String × Json)
    (members : List (String × Json)) (all : ∀ member ∈ first :: members, member.2.Renders) :
    Writes most (.members (first :: members)) (joinParts (renderMembers (first :: members))) := by
  -- As with items, the comma belongs to the member before it.
  induction members generalizing first with
  | nil =>
    have last := Writes.lastMember isGap_nil (spells_render first.1.toList) isGap_nil isGap_nil
      (all first (List.mem_cons_self ..) most) isGap_nil
    simpa [renderMembers, renderString, joinParts] using last
  | cons next members ih =>
    have following := ih next fun value member => all value (List.mem_cons_of_mem _ member)
    have member := Writes.member isGap_nil (spells_render first.1.toList) isGap_nil isGap_nil
      (all first (List.mem_cons_self ..) most) isGap_nil following
    simpa [renderMembers, renderString, joinParts] using member

/-- A rendered object writes the object, if the rendered values of its members write them. -/
theorem renders_object (members : List (String × Json))
    (all : ∀ member ∈ members, member.2.Renders) : (Json.object members).Renders := by
  cases members with
  | nil => exact fun _ => .emptyObject isGap_nil
  | cons first members => exact fun most => .object (writes_joinMembers most first members all)

end ContainerScan.Json
