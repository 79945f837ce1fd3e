import ContainerScan.Proofs.Json.Reader
import ContainerScan.Proofs.Json.Spelling

/-! Whatever is read as a value has been written as one, and is not nested too deep. -/

namespace ContainerScan.Json

/-- The blanks that are passed over are a gap. -/
theorem exists_gap (text : List Char) : ∃ gap, IsGap gap ∧ text = gap ++ skipBlanks text :=
  ⟨text.takeWhile isSeparator, fun _ member => List.mem_takeWhile_imp member,
    List.takeWhile_append_dropWhile.symm⟩

/-- Two gaps are one. -/
theorem IsGap.append {gap more : List Char} (blank : IsGap gap) (others : IsGap more) :
    IsGap (gap ++ more) := by
  -- Every character belongs to one of the two gaps.
  intro c member
  rcases List.mem_append.mp member with first | second
  · exact blank c first
  · exact others c second

/-- A gap in front of items belongs to the first one. -/
theorem Writes.items_gap {items : List Json} {gap text : List Char} (blank : IsGap gap)
    (writes : Writes byDigits (.items items) text) : Writes byDigits (.items items) (gap ++ text) := by
  cases writes with
  | lastItem before value space => simpa using Writes.lastItem (blank.append before) value space
  | item before value space rest => simpa using Writes.item (blank.append before) value space rest

/-- A gap in front of members belongs to the first one. -/
theorem Writes.members_gap {members : List (String × Json)} {gap text : List Char}
    (blank : IsGap gap) (writes : Writes byDigits (.members members) text) :
    Writes byDigits (.members members) (gap ++ text) := by
  -- The blanks are added to those before the first name.
  cases writes with
  | lastMember before spells space between inside last =>
    simpa using Writes.lastMember (blank.append before) spells space between inside last
  | member before spells space between inside last rest =>
    simpa using Writes.member (blank.append before) spells space between inside last rest

/-- Nothing is nested in a value that opens like no container. -/
theorem Writes.nesting_eq_zero {value : Json} {c : Char} {text written rest : List Char}
    (writes : Writes byDigits (.value value) written) (opened : c :: text = written ++ rest)
    (noBracket : c ≠ '[') (noBrace : c ≠ '\x7b') : value.nesting = 0 := by
  -- Only brackets and braces nest, and each container begins by its own.
  cases writes with
  | emptyArray | array => exact absurd (List.cons.inj opened).1 noBracket
  | emptyObject | object => exact absurd (List.cons.inj opened).1 noBrace
  | _ => simp [nesting]

/-! What the readers of containers have found, wherever they give a value. -/

section Steps

variable {fuel depth : Nat} {text rest : List Char}

/-- A value is an array, an object, or no container. -/
theorem readValue_cases {value : Json} (read : readValue (fuel + 1) depth text = .ok (value, rest)) :
    (∃ inside, text = '[' :: inside ∧
      (skipBlanks inside = ']' :: rest ∧ value = .array [] ∨
        ∃ items, readItems fuel depth (skipBlanks inside) = .ok (items, rest) ∧
          value = .array items)) ∨
    (∃ inside, text = '\x7b' :: inside ∧
      (skipBlanks inside = '\x7d' :: rest ∧ value = .object [] ∨
        ∃ members, readMembers fuel depth (skipBlanks inside) = .ok (members, rest) ∧
          value = .object members)) ∨
    ∃ c tail, text = c :: tail ∧ c ≠ '[' ∧ c ≠ '\x7b' ∧
      readScalar c tail = .ok (value, rest) := by
  cases text with
  | nil => simp [readValue, refuse] at read
  | cons c inside =>
    simp only [readValue] at read
    -- A container is empty if its closing mark comes first, and is read part by part otherwise.
    split at read
    · next bracket =>
      subst bracket
      refine Or.inl ⟨inside, rfl, ?_⟩
      split at read
      · cases read
      · next closed =>
        cases read
        exact Or.inl ⟨closed, rfl⟩
      · next opened =>
        split at read
        · next items after found =>
          cases read
          exact Or.inr ⟨items, by rw [opened, found], rfl⟩
        · cases read
    · next noBracket =>
      split at read
      · next brace =>
        subst brace
        refine Or.inr (Or.inl ⟨inside, rfl, ?_⟩)
        split at read
        · cases read
        · next closed =>
          cases read
          exact Or.inl ⟨closed, rfl⟩
        · next opened =>
          split at read
          · next members after found =>
            cases read
            exact Or.inr ⟨members, by rw [opened, found], rfl⟩
          · cases read
      · next noBrace => exact Or.inr (Or.inr ⟨c, inside, rfl, noBracket, noBrace, read⟩)

/-- Items are one in front of the closing bracket, or one in front of others. -/
theorem readItems_cases {items : List Json}
    (read : readItems (fuel + 1) depth text = .ok (items, rest)) :
    ∃ item behind, readInner fuel depth text = .ok (item, behind) ∧
      (skipBlanks behind = ']' :: rest ∧ items = [item] ∨
        ∃ others more, skipBlanks behind = ',' :: others ∧
          readItems fuel depth (skipBlanks others) = .ok (more, rest) ∧ items = item :: more) := by
  simp only [readItems] at read
  split at read
  · cases read
  · next item behind inner =>
    refine ⟨item, behind, inner, ?_⟩
    -- Behind an item stands the bracket, or a comma that no bracket may follow.
    split at read
    · cases read
    · next closed =>
      cases read
      exact Or.inl ⟨closed, rfl⟩
    · next others comma =>
      split at read
      · cases read
      · cases read
      · next opened =>
        split at read
        · next more after found =>
          cases read
          exact Or.inr ⟨others, more, comma, by rw [opened, found], rfl⟩
        · cases read
    · cases read

/-- Members are one in front of the closing brace, or one in front of others. -/
theorem readMembers_cases {members : List (String × Json)}
    (read : readMembers (fuel + 1) depth text = .ok (members, rest)) :
    ∃ tail name colon inside value behind, text = '\x22' :: tail ∧
      readString .plain tail = .ok (name, colon) ∧ skipBlanks colon = ':' :: inside ∧
      readInner fuel depth (skipBlanks inside) = .ok (value, behind) ∧
      (skipBlanks behind = '\x7d' :: rest ∧ members = [(String.ofList name, value)] ∨
        ∃ others more, skipBlanks behind = ',' :: others ∧
          readMembers fuel depth (skipBlanks others) = .ok (more, rest) ∧
          members = (String.ofList name, value) :: more) := by
  -- A member has a name, a colon and a value, and reading it fails where one is missing.
  unfold readMembers at read
  split at read
  · cases read
  · next tail same =>
    cases same
    split at read
    · cases read
    · next name colon named =>
      split at read
      · cases read
      · next inside isColon =>
        split at read
        · cases read
        · next value behind inner =>
          refine ⟨tail, name, colon, inside, value, behind, rfl, named, isColon, inner, ?_⟩
          -- Behind a member stands the brace, or a comma that no brace may follow.
          split at read
          · cases read
          · next closed =>
            cases read
            exact Or.inl ⟨closed, rfl⟩
          · next others comma =>
            split at read
            · cases read
            · cases read
            · next opened =>
              split at read
              · next more after found =>
                cases read
                exact Or.inr ⟨others, more, comma, by rw [opened, found], rfl⟩
              · cases read
          · cases read
      · cases read
  · cases read

end Steps

/-- What texts write of which a reader with some fuel has read a part: the part, up to the mark that
closes it, and nothing that is nested too deep. -/
structure Recognizes (fuel : Nat) : Prop where
  value {depth : Nat} {text rest : List Char} {value : Json}
    (read : readValue fuel depth text = .ok (value, rest)) :
    ∃ written, text = written ++ rest ∧ Writes byDigits (.value value) written ∧ value.nesting ≤ depth
  inner {depth : Nat} {text rest : List Char} {value : Json}
    (read : readInner fuel depth text = .ok (value, rest)) :
    ∃ written, text = written ++ rest ∧ Writes byDigits (.value value) written ∧ value.nesting + 1 ≤ depth
  items {depth : Nat} {text rest : List Char} {items : List Json}
    (read : readItems fuel depth text = .ok (items, rest)) :
    ∃ written, text = written ++ ']' :: rest ∧ Writes byDigits (.items items) written ∧
      nestingItems items ≤ depth
  members {depth : Nat} {text rest : List Char} {members : List (String × Json)}
    (read : readMembers fuel depth text = .ok (members, rest)) :
    ∃ written, text = written ++ '\x7d' :: rest ∧ Writes byDigits (.members members) written ∧
      nestingMembers members ≤ depth

section Recognition

variable {fuel depth : Nat} {text rest : List Char}

/-- An array, an object or another value is written where it is read. -/
theorem Recognizes.ofValue {value : Json} (known : Recognizes fuel)
    (read : readValue (fuel + 1) depth text = .ok (value, rest)) :
    ∃ written, text = written ++ rest ∧ Writes byDigits (.value value) written ∧ value.nesting ≤ depth := by
  rcases readValue_cases read with
    ⟨inside, rfl, array⟩ | ⟨inside, rfl, object⟩ |
      ⟨c, tail, rfl, noBracket, noBrace, scalar⟩
  · -- The blanks behind the bracket are a gap of its own, or belong to the first item.
    obtain ⟨gap, blank, parts⟩ := exists_gap inside
    rcases array with ⟨closed, rfl⟩ | ⟨items, found, rfl⟩
    · rw [parts, closed]
      exact ⟨'[' :: gap ++ [']'], by simp, .emptyArray blank, Nat.zero_le _⟩
    · obtain ⟨written, within, writes, shallow⟩ := known.items found
      rw [parts, within]
      exact ⟨'[' :: (gap ++ written) ++ [']'], by simp, .array (writes.items_gap blank), shallow⟩
  · -- The same holds behind the brace, for the first member.
    obtain ⟨gap, blank, parts⟩ := exists_gap inside
    rcases object with ⟨closed, rfl⟩ | ⟨members, found, rfl⟩
    · rw [parts, closed]
      exact ⟨'\x7b' :: gap ++ ['\x7d'], by simp, .emptyObject blank, Nat.zero_le _⟩
    · obtain ⟨written, within, writes, shallow⟩ := known.members found
      rw [parts, within]
      exact ⟨'\x7b' :: (gap ++ written) ++ ['\x7d'], by simp,
        .object (writes.members_gap blank), shallow⟩
  · obtain ⟨written, parts, writes⟩ := writes_of_readScalar scalar
    have flat := writes.nesting_eq_zero parts noBracket noBrace
    exact ⟨written, parts, writes, flat.trans_le (Nat.zero_le depth)⟩

/-- A value inside a container is written one level further up. -/
theorem Recognizes.ofInner {value : Json} (known : Recognizes fuel)
    (read : readInner (fuel + 1) depth text = .ok (value, rest)) :
    ∃ written, text = written ++ rest ∧ Writes byDigits (.value value) written ∧
      value.nesting + 1 ≤ depth := by
  -- One level of the depth is used up for what stands inside.
  cases text with
  | nil => simp [readInner, refuse] at read
  | cons c tail =>
    cases depth with
    | zero => simp [readInner, refuse] at read
    | succ depth =>
      simp only [readInner] at read
      obtain ⟨written, parts, writes, shallow⟩ := known.value read
      exact ⟨written, parts, writes, Nat.succ_le_succ shallow⟩

/-- Items are written where they are read. -/
theorem Recognizes.ofItems {items : List Json} (known : Recognizes fuel)
    (read : readItems (fuel + 1) depth text = .ok (items, rest)) :
    ∃ written, text = written ++ ']' :: rest ∧ Writes byDigits (.items items) written ∧
      nestingItems items ≤ depth := by
  obtain ⟨item, behind, inner, outcome⟩ := readItems_cases read
  obtain ⟨written, rfl, writes, shallow⟩ := known.inner inner
  obtain ⟨gap, blank, parts⟩ := exists_gap behind
  rw [parts]
  -- The reader starts at the item itself, so no gap is in front of it.
  rcases outcome with ⟨closed, rfl⟩ | ⟨others, more, comma, found, rfl⟩
  · rw [closed]
    exact ⟨[] ++ written ++ gap, by simp, .lastItem isGap_nil writes blank, by simpa [nestingItems]⟩
  · obtain ⟨space, spaced, apart⟩ := exists_gap others
    obtain ⟨following, within, follows, deep⟩ := known.items found
    rw [comma, apart, within]
    exact ⟨[] ++ written ++ gap ++ ',' :: (space ++ following), by simp,
      .item isGap_nil writes blank (follows.items_gap spaced), Nat.max_le.mpr ⟨shallow, deep⟩⟩

/-- Members are written where they are read. -/
theorem Recognizes.ofMembers {members : List (String × Json)} (known : Recognizes fuel)
    (read : readMembers (fuel + 1) depth text = .ok (members, rest)) :
    ∃ written, text = written ++ '\x7d' :: rest ∧ Writes byDigits (.members members) written ∧
      nestingMembers members ≤ depth := by
  obtain ⟨tail, name, colon, inside, value, behind, rfl, named, isColon, inner, outcome⟩ :=
    readMembers_cases read
  obtain ⟨spelled, rfl, spells⟩ := spells_of_readString named
  rw [← String.toList_ofList (l := name)] at spells
  obtain ⟨middle, space, afterName⟩ := exists_gap colon
  obtain ⟨between, apart, beforeValue⟩ := exists_gap inside
  obtain ⟨written, isValue, writes, shallow⟩ := known.inner inner
  obtain ⟨gap, blank, afterValue⟩ := exists_gap behind
  -- Four gaps are passed over: around the colon, behind the value, and behind the comma.
  rw [afterName, isColon, beforeValue, isValue, afterValue]
  rcases outcome with ⟨closed, rfl⟩ | ⟨others, more, comma, found, rfl⟩
  · -- The last member ends at the brace, and any other one hands on to those behind it.
    rw [closed]
    exact ⟨_, by simp, .lastMember isGap_nil spells space apart writes blank,
      by simpa [nestingMembers]⟩
  · obtain ⟨front, spaced, parts⟩ := exists_gap others
    obtain ⟨following, within, follows, deep⟩ := known.members found
    rw [comma, parts, within]
    exact ⟨_, by simp, .member isGap_nil spells space apart writes blank (follows.members_gap spaced),
      Nat.max_le.mpr ⟨shallow, deep⟩⟩

end Recognition

/-- Readers with any fuel read only what is written. -/
theorem recognizes (fuel : Nat) : Recognizes fuel := by
  -- Every reader leaves one turn less to the readers of its parts.
  induction fuel with
  | zero =>
    refine ⟨fun {_ text _ _} read => ?_, fun {_ text _ _} read => ?_, fun read => ?_,
      fun read => ?_⟩
    · cases text <;> simp [readValue, refuse] at read
    · cases text <;> simp [readInner, refuse] at read
    · simp [readItems, refuse] at read
    · simp [readMembers, refuse] at read
  | succ fuel known => exact ⟨known.ofValue, known.ofInner, known.ofItems, known.ofMembers⟩

/-- A text writes the value that is read from it, with any blanks around it, and that value is not
nested too deep. -/
theorem writes_of_readText {text : List Char} {value : Json} (read : readText text = .ok value) :
    ∃ before written behind, text = before ++ written ++ behind ∧ IsGap before ∧
      Writes byDigits (.value value) written ∧ IsGap behind ∧ value.nesting ≤ depthLimit := by
  obtain ⟨before, gap, parts⟩ := exists_gap text
  unfold readText at read
  split at read
  · cases read
  · next found after isRead =>
    obtain ⟨written, within, writes, shallow⟩ := (recognizes _).value isRead
    obtain ⟨behind, blank, rest⟩ := exists_gap after
    -- Behind the value nothing is left but the last gap.
    split at read
    · next nothing =>
      cases read
      rw [nothing, List.append_nil] at rest
      subst rest
      exact ⟨before, written, after, by rw [parts, within, List.append_assoc], gap, writes, blank,
        shallow⟩
    · cases read

/-- A text writes a value with numbers that keep to some bounds, with any blanks around it. -/
def IsWrittenWithin (most : Bool → Nat) (value : Json) (text : String) : Prop :=
  ∃ before written behind, text.toList = before ++ written ++ behind ∧ IsGap before ∧
    Writes most (.value value) written ∧ IsGap behind

/-- A text writes a value with numbers that the reader takes. -/
abbrev IsWrittenAs (value : Json) (text : String) : Prop :=
  value.IsWrittenWithin byDigits text

/-- A text writes a value with numbers that are short enough even where a minus counts as one of their
characters. -/
abbrev IsWrittenBriefly (value : Json) (text : String) : Prop :=
  value.IsWrittenWithin byCharacters text

/-- What is written with short numbers is written with numbers that the reader takes. -/
theorem IsWrittenWithin.isWrittenAs {value : Json} {text : String}
    (written : value.IsWrittenBriefly text) : value.IsWrittenAs text := by
  obtain ⟨before, inside, behind, parts, gap, writes, blank⟩ := written
  -- The narrower of the two bounds leaves out the numbers on which they differ.
  exact ⟨before, inside, behind, parts, gap, writes.mono byCharacters_le, blank⟩

/-- A value is read exactly from the texts that write it, unless it is nested too deep. -/
theorem read_eq_ok_iff {text : String} {value : Json} :
    read text = .ok value ↔ value.IsWrittenAs text ∧ value.nesting ≤ depthLimit := by
  -- Reading gives the writing and the depth, and both together are read.
  have whole : read text = .ok value ↔ readText text.toList = .ok value := by
    unfold read
    cases readText text.toList <;> simp
  rw [whole]
  constructor
  · intro read
    obtain ⟨before, written, behind, parts, gap, writes, blank, shallow⟩ := writes_of_readText read
    exact ⟨⟨before, written, behind, parts, gap, writes, blank⟩, shallow⟩
  · rintro ⟨⟨before, written, behind, parts, gap, writes, blank⟩, shallow⟩
    rw [parts]
    exact readText_of_writes writes shallow gap blank

end ContainerScan.Json
