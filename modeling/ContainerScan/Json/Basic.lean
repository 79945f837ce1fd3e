import ContainerScan.Number.Reading

/-! JSON values, with whole numbers kept apart from the others and members kept in order. -/

namespace ContainerScan

/-- A JSON value. -/
inductive Json where
  | null
  | bool (value : Bool)
  | number (value : Number)
  | string (text : String)
  | array (items : List Json)
  | object (members : List (String × Json))
  deriving Repr, Inhabited

namespace Json

mutual

/-- Equality of values, decided part by part. -/
def decEq : (first second : Json) → Decidable (first = second)
  | .null, .null => isTrue rfl
  | .bool first, .bool second =>
    if same : first = second then isTrue (same ▸ rfl) else isFalse fun h => same (Json.bool.inj h)
  | .number first, .number second =>
    if same : first = second then isTrue (same ▸ rfl) else isFalse fun h => same (Json.number.inj h)
  | .string first, .string second =>
    if same : first = second then isTrue (same ▸ rfl) else isFalse fun h => same (Json.string.inj h)
  | .array first, .array second =>
    match decEqItems first second with
    | isTrue same => isTrue (same ▸ rfl)
    | isFalse different => isFalse fun h => different (Json.array.inj h)
  | .object first, .object second =>
    match decEqMembers first second with
    | isTrue same => isTrue (same ▸ rfl)
    | isFalse different => isFalse fun h => different (Json.object.inj h)
  -- Values of different kinds are never equal.
  | .null, .bool _ | .null, .number _ | .null, .string _ | .null, .array _ | .null, .object _
  | .bool _, .null | .bool _, .number _ | .bool _, .string _ | .bool _, .array _
  | .bool _, .object _ | .number _, .null | .number _, .bool _ | .number _, .string _
  | .number _, .array _ | .number _, .object _ | .string _, .null | .string _, .bool _
  | .string _, .number _ | .string _, .array _ | .string _, .object _ | .array _, .null
  | .array _, .bool _ | .array _, .number _ | .array _, .string _ | .array _, .object _
  | .object _, .null | .object _, .bool _ | .object _, .number _ | .object _, .string _
  | .object _, .array _ => isFalse nofun

/-- Equality of lists of values. -/
def decEqItems : (first second : List Json) → Decidable (first = second)
  | [], [] => isTrue rfl
  | [], _ :: _ | _ :: _, [] => isFalse nofun
  | first :: firsts, second :: seconds =>
    match decEq first second, decEqItems firsts seconds with
    | isTrue same, isTrue rest => isTrue (same ▸ rest ▸ rfl)
    | isFalse different, _ => isFalse fun h => different (List.cons.inj h).1
    | _, isFalse different => isFalse fun h => different (List.cons.inj h).2

/-- Equality of lists of members. -/
def decEqMembers : (first second : List (String × Json)) → Decidable (first = second)
  | [], [] => isTrue rfl
  | [], _ :: _ | _ :: _, [] => isFalse nofun
  | (name, first) :: firsts, (other, second) :: seconds =>
    match decEq first second, decEqMembers firsts seconds with
    | isTrue same, isTrue rest =>
      if equal : name = other then isTrue (equal ▸ same ▸ rest ▸ rfl)
      else isFalse fun h => equal (Prod.mk.inj (List.cons.inj h).1).1
    | isFalse different, _ => isFalse fun h => different (Prod.mk.inj (List.cons.inj h).1).2
    | _, isFalse different => isFalse fun h => different (List.cons.inj h).2

end

instance : DecidableEq Json := decEq

/-- A whole number. -/
def int (value : Int) : Json := .number (.whole value)

/-- A count. -/
def nat (value : Nat) : Json := .int value

/-- A value that may be absent, which is written as null. -/
def ofOption (value : Option Json) : Json := value.getD .null

/-- A text that may be absent, which is written as null. -/
def text? (text : Option String) : Json := ofOption (text.map .string)

/-- The value of a name among members, where the last of several counts. -/
def lookup (name : String) (members : List (String × Json)) : Option Json :=
  (members.reverse.find? fun member => member.1 = name).map Prod.snd

/-- The members of an object. -/
def members? : Json → Option (List (String × Json))
  | .object members => some members
  | _ => none

/-- The items of an array. -/
def items? : Json → Option (List Json)
  | .array items => some items
  | _ => none

/-- The text of a string. -/
def string? : Json → Option String
  | .string text => some text
  | _ => none

/-- Whether a value is null. -/
def isNull : Json → Bool
  | .null => true
  | _ => false

/-- Whether a value counts as present: null, false, zero and what is empty do not. -/
def isTruthy : Json → Bool
  | .null => false
  | .bool value => value
  | .number (.whole value) => value ≠ 0
  | .number (.real (.finite _ mantissa _)) => mantissa ≠ 0
  | .number (.real _) => true
  | .string text => text ≠ ""
  | .array items => !items.isEmpty
  | .object members => !members.isEmpty

/-- Two lists of members joined, where the second one decides about a name in both. -/
def merge (first second : List (String × Json)) : List (String × Json) :=
  first.filter (fun member => !second.any fun other => other.1 = member.1) ++ second

end Json

end ContainerScan
