import ContainerScan.Json.Reader

/-! The texts that write a JSON value: any blanks between the parts, any escapes inside strings. -/

namespace ContainerScan.Json

open ContainerScan.Text

/-- A gap between the parts of a text: blanks, or nothing. -/
def IsGap (text : List Char) : Prop :=
  ∀ c ∈ text, isSeparator c = true

instance (text : List Char) : Decidable (IsGap text) :=
  List.decidableBAll (fun c => isSeparator c = true) text

/-- No blanks are a gap. -/
theorem isGap_nil : IsGap [] :=
  nofun

/-- The value of hexadecimal digits behind a value, if all of them are digits. -/
def hexCode? : Nat → List Char → Option Nat
  | value, [] => some value
  | value, c :: rest => (hexValue? c).bind fun digit => hexCode? (value * 16 + digit) rest

/-- Four hexadecimal digits that write a code. -/
structure IsCode (digits : List Char) (code : Nat) : Prop where
  four : digits.length = 4
  value : hexCode? 0 digits = some code

/-- The characters of a string, and how they are written between its quotes. -/
inductive Spells : List Char → List Char → Prop where
  | nil : Spells [] []
  | plain {c : Char} {text written : List Char} (noQuote : c ≠ '\x22') (noBackslash : c ≠ '\\')
      (shown : 0x20 ≤ c.toNat) (rest : Spells text written) : Spells (c :: text) (c :: written)
  | letter {letter c : Char} {text written : List Char} (stands : letterEscape? letter = some c)
      (rest : Spells text written) : Spells (c :: text) ('\\' :: letter :: written)
  | code {c : Char} {digits text written : List Char} (code : IsCode digits c.toNat)
      (rest : Spells text written) : Spells (c :: text) ('\\' :: 'u' :: digits ++ written)
  -- What lies beyond sixteen bits is escaped by two codes.
  | pair {c : Char} {high low text written : List Char} (wide : 0x10000 ≤ c.toNat)
      (leading : IsCode high (0xD800 + (c.toNat - 0x10000) / 0x400))
      (trailing : IsCode low (0xDC00 + (c.toNat - 0x10000) % 0x400))
      (rest : Spells text written) :
      Spells (c :: text) ('\\' :: 'u' :: high ++ '\\' :: 'u' :: low ++ written)

/-- The sign in front of a number. -/
def minus (negative : Bool) : List Char :=
  if negative then ['-'] else []

/-- Some digits, and nothing else. -/
structure AreDigits (digits : List Char) : Prop where
  nonempty : digits ≠ []
  all : ∀ c ∈ digits, isDigit c = true

/-- The digits in front of a point: no superfluous zero, and not too many. -/
structure AreUnits (most : Nat) (digits : List Char) : Prop extends AreDigits digits where
  noZero : ∀ rest, digits = '0' :: rest → rest = []
  bounded : digits.length ≤ most

/-- The bounds of the reader: so many digits, whatever the sign. -/
abbrev byDigits : Bool → Nat :=
  fun _ => numberLimit

/-- Narrower bounds: so many characters, a minus among them. -/
def byCharacters : Bool → Nat :=
  fun negative => numberLimit - negative.toNat

/-- The digits behind a point, and how they are written with it. -/
inductive IsFraction : List Char → List Char → Prop where
  | none : IsFraction [] []
  | some {places : List Char} (digits : AreDigits places) : IsFraction places ('.' :: places)

/-- An exponent, and how it is written. -/
inductive IsExponent : Int → List Char → Prop where
  | none : IsExponent 0 []
  | some {mark : Char} {sign digits : List Char} (marks : mark = 'e' ∨ mark = 'E')
      (signs : sign = [] ∨ sign = ['+'] ∨ sign = ['-']) (areDigits : AreDigits digits) :
      IsExponent (Number.signed (sign = ['-']) (Number.digitsValue digits)) (mark :: sign ++ digits)

/-- A number, and how it is written with so many digits in front of its point as its sign leaves room
for. -/
inductive Numeral (most : Bool → Nat) : Number → List Char → Prop where
  | whole {digits : List Char} (negative : Bool) (units : AreUnits (most negative) digits) :
      Numeral most (.whole (Number.signed negative (Number.digitsValue digits)))
        (minus negative ++ digits)
  -- A fraction or an exponent makes a number real, whatever its value.
  | real {digits places fraction power : List Char} {exponent : Int} (negative : Bool)
      (units : AreUnits (most negative) digits) (isFraction : IsFraction places fraction)
      (isExponent : IsExponent exponent power) (notWhole : fraction ++ power ≠ []) :
      Numeral most (.real (.ofDecimal negative (Number.digitsValue (digits ++ places))
        (exponent - places.length))) (minus negative ++ digits ++ fraction ++ power)
  | infinite (negative : Bool) :
      Numeral most (.real (.infinite negative)) (minus negative ++ "Infinity".toList)
  | unordered : Numeral most (.real .unordered) "NaN".toList

/-- A part of a text: a value, or what stands inside a container. -/
inductive Part where
  | value (value : Json)
  | items (items : List Json)
  | members (members : List (String × Json))

/-- A part of a text, and how it is written with numbers that keep to some bounds. -/
inductive Writes (most : Bool → Nat) : Part → List Char → Prop where
  | null : Writes most (.value .null) "null".toList
  | yes : Writes most (.value (.bool true)) "true".toList
  | no : Writes most (.value (.bool false)) "false".toList
  | number {number : Number} {text : List Char} (numeral : Numeral most number text) :
      Writes most (.value (.number number)) text
  | string {content : String} {written : List Char} (spells : Spells content.toList written) :
      Writes most (.value (.string content)) ('\x22' :: written ++ ['\x22'])
  | emptyArray {gap : List Char} (blank : IsGap gap) :
      Writes most (.value (.array [])) ('[' :: gap ++ [']'])
  | array {items : List Json} {text : List Char} (inside : Writes most (.items items) text) :
      Writes most (.value (.array items)) ('[' :: text ++ [']'])
  | emptyObject {gap : List Char} (blank : IsGap gap) :
      Writes most (.value (.object [])) ('\x7b' :: gap ++ ['\x7d'])
  | object {members : List (String × Json)} {text : List Char}
      (inside : Writes most (.members members) text) :
      Writes most (.value (.object members)) ('\x7b' :: text ++ ['\x7d'])
  -- Each item and each member carries the gaps around it; behind all but the last is a comma.
  | lastItem {item : Json} {before text behind : List Char} (gap : IsGap before)
      (value : Writes most (.value item) text) (space : IsGap behind) :
      Writes most (.items [item]) (before ++ text ++ behind)
  | item {item : Json} {items : List Json} {before text behind more : List Char}
      (gap : IsGap before) (value : Writes most (.value item) text) (space : IsGap behind)
      (rest : Writes most (.items items) more) :
      Writes most (.items (item :: items)) (before ++ text ++ behind ++ ',' :: more)
  | lastMember {name : String} {value : Json}
      {before written middle between text behind : List Char}
      (gap : IsGap before) (spells : Spells name.toList written) (space : IsGap middle)
      (blank : IsGap between) (inside : Writes most (.value value) text) (last : IsGap behind) :
      Writes most (.members [(name, value)])
        (before ++ '\x22' :: written ++ '\x22' :: middle ++ ':' :: between ++ text ++ behind)
  | member {name : String} {value : Json} {members : List (String × Json)}
      {before written middle between text behind more : List Char}
      (gap : IsGap before) (spells : Spells name.toList written) (space : IsGap middle)
      (blank : IsGap between) (inside : Writes most (.value value) text) (last : IsGap behind)
      (rest : Writes most (.members members) more) :
      Writes most (.members ((name, value) :: members))
        (before ++ '\x22' :: written ++ '\x22' :: middle ++ ':' :: between ++ text ++ behind ++
          ',' :: more)

section Bounds

variable {most more : Bool → Nat}

/-- Fewer digits than one bound are fewer than a wider one. -/
theorem AreUnits.mono {narrow wide : Nat} {digits : List Char} (units : AreUnits narrow digits)
    (wider : narrow ≤ wide) : AreUnits wide digits :=
  ⟨units.toAreDigits, units.noZero, Nat.le_trans units.bounded wider⟩

/-- A number that keeps to some bounds keeps to wider ones. -/
theorem Numeral.mono {number : Number} {text : List Char} (numeral : Numeral most number text)
    (wider : ∀ negative, most negative ≤ more negative) : Numeral more number text := by
  -- Only the digits in front of the point are bounded.
  cases numeral with
  | whole negative units => exact .whole negative (units.mono (wider negative))
  | real negative units isFraction isExponent notWhole =>
    exact .real negative (units.mono (wider negative)) isFraction isExponent notWhole
  | infinite negative => exact .infinite negative
  | unordered => exact .unordered

/-- What is written with numbers that keep to some bounds is written with wider ones. -/
theorem Writes.mono {part : Part} {text : List Char} (writes : Writes most part text)
    (wider : ∀ negative, most negative ≤ more negative) : Writes more part text := by
  -- The parts inside a container are widened before it, and only numbers have bounds.
  induction writes with
  | null => exact .null
  | yes => exact .yes
  | no => exact .no
  | number numeral => exact .number (numeral.mono wider)
  | string spells => exact .string spells
  | emptyArray blank => exact .emptyArray blank
  | array inside ih => exact .array ih
  | emptyObject blank => exact .emptyObject blank
  | object inside ih => exact .object ih
  | lastItem gap value space ih => exact .lastItem gap ih space
  | item gap value space rest ih others => exact .item gap ih space others
  | lastMember gap spells space blank inside last ih =>
    exact .lastMember gap spells space blank ih last
  | member gap spells space blank inside last rest ih others =>
    exact .member gap spells space blank ih last others

/-- Characters are more than digits. -/
theorem byCharacters_le (negative : Bool) : byCharacters negative ≤ byDigits negative :=
  Nat.sub_le _ _

end Bounds

end ContainerScan.Json
