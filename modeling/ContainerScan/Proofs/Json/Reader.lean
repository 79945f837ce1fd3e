import ContainerScan.Proofs.Json.Scalars

/-! Values are read back from every text that writes them, unless they are nested too deep. -/

namespace ContainerScan.Json

mutual

/-- How many containers that hold something stand inside one another in a value. -/
def nesting : Json → Nat
  | .array items => nestingItems items
  | .object members => nestingMembers members
  | _ => 0

/-- How deep the items of an array make it. -/
def nestingItems : List Json → Nat
  | [] => 0
  | item :: items => max (item.nesting + 1) (nestingItems items)

/-- How deep the members of an object make it. -/
def nestingMembers : List (String × Json) → Nat
  | [] => 0
  | (_, value) :: members => max (value.nesting + 1) (nestingMembers members)

end

/-- A gap in front is passed over. -/
theorem skipBlanks_gap {gap : List Char} (blank : IsGap gap) (text : List Char) :
    skipBlanks (gap ++ text) = skipBlanks text :=
  List.dropWhile_append_of_pos blank

/-- Where something stands, nothing is passed over. -/
theorem skipBlanks_cons {c : Char} (shown : isSeparator c = false) (text : List Char) :
    skipBlanks (c :: text) = c :: text := by
  simp [skipBlanks, shown]

/-- A gap behind a number ends it, if a character behind the gap does. -/
theorem Ended.gap {gap rest : List Char} (blank : IsGap gap) (ended : Ended rest) :
    Ended (gap ++ rest) := by
  -- The first blank of the gap ends the number, and without one the text behind does.
  cases gap with
  | nil => exact ended
  | cons c gap =>
    have separates := blank c (List.mem_cons_self ..)
    simp only [isSeparator, Bool.or_eq_true, beq_iff_eq] at separates
    rcases separates with ((rfl | rfl) | rfl) | rfl <;> exact ⟨by rintro c ⟨⟩; rfl, rfl⟩

/-- The marks between and behind the parts of a container end a number. -/
theorem ended_mark {c : Char} (mark : c = ',' ∨ c = ']' ∨ c = '\x7d') (rest : List Char) :
    Ended (c :: rest) := by
  rcases mark with rfl | rfl | rfl <;> exact ⟨by rintro c ⟨⟩; rfl, rfl⟩

/-- Whether a character can open a value. -/
def opens (c : Char) : Bool :=
  opensScalar c || c == '[' || c == '\x7b'

/-- A value opens with a character of its own. -/
theorem Writes.head {value : Json} {text : List Char} (writes : Writes byDigits (.value value) text) :
    ∃ c tail, text = c :: tail ∧ opens c = true := by
  -- All but numbers open with a mark or a letter that is written out.
  cases writes with
  | number numeral =>
    obtain ⟨c, tail, same, first, -⟩ := numeral.reads
    exact ⟨c, tail, same, by rw [opens, first]; rfl⟩
  | _ => exact ⟨_, _, rfl, rfl⟩

/-- What is promised of the readers for a part of a text. -/
def Reads (part : Part) (text : List Char) : Prop :=
  match part with
  | .value value => ∀ fuel depth rest, 3 * text.length ≤ fuel → value.nesting ≤ depth →
      Ended rest → readValue fuel depth (text ++ rest) = .ok (value, rest)
  | .items items => ∀ fuel depth rest, 3 * text.length + 2 ≤ fuel → nestingItems items ≤ depth →
      readItems fuel depth (skipBlanks (text ++ ']' :: rest)) = .ok (items, rest)
  | .members members => ∀ fuel depth rest, 3 * text.length + 2 ≤ fuel →
      nestingMembers members ≤ depth →
      readMembers fuel depth (skipBlanks (text ++ '\x7d' :: rest)) = .ok (members, rest)

/-- A value that is no container is read by its first character. -/
theorem readValue_scalar {value : Json} {c : Char} {tail : List Char} (first : opensScalar c = true)
    {rest : List Char} (reads : readScalar c (tail ++ rest) = .ok (value, rest)) (fuel depth : Nat)
    (enough : 3 * (c :: tail).length ≤ fuel) :
    readValue fuel depth (c :: tail ++ rest) = .ok (value, rest) := by
  -- A value takes fuel, and no container opens with such a character.
  cases fuel with
  | zero => simp at enough
  | succ fuel =>
    have noBracket : c ≠ '[' := by rintro rfl; cases first
    have noBrace : c ≠ '\x7b' := by rintro rfl; cases first
    simp [readValue, noBracket, noBrace, reads]

/-- A string is read back from every way in which it is written. -/
theorem readScalar_string {content : String} {written : List Char}
    (spells : Spells content.toList written) (rest : List Char) :
    readScalar '\x22' (written ++ '\x22' :: rest) = .ok (.string content, rest) := by
  simp [readScalar, readString_of_spells spells]

/-- Whatever opens a value is no blank and closes nothing. -/
theorem opens_spec {c : Char} (first : opens c = true) :
    isSeparator c = false ∧ c ≠ ']' ∧ c ≠ '\x7d' := by
  -- Each of the characters in question is one that opens nothing.
  have noBlank : isSeparator c = false := by
    by_contra blank
    simp only [Bool.not_eq_false, isSeparator, Bool.or_eq_true, beq_iff_eq] at blank
    rcases blank with ((rfl | rfl) | rfl) | rfl <;> cases first
  exact ⟨noBlank, (by rintro rfl; cases first), (by rintro rfl; cases first)⟩

/-- In front of a value nothing is passed over but the gap. -/
theorem Writes.skipBlanks {value : Json} {text : List Char} (writes : Writes byDigits (.value value) text)
    {gap : List Char} (blank : IsGap gap) (rest : List Char) :
    skipBlanks (gap ++ (text ++ rest)) = text ++ rest := by
  obtain ⟨c, tail, rfl, first⟩ := writes.head
  rw [skipBlanks_gap blank]
  exact skipBlanks_cons (opens_spec first).1 _

/-- A value inside a container is read one level further down. -/
theorem readInner_append {value : Json} {text : List Char} (writes : Writes byDigits (.value value) text)
    (reads : Reads (.value value) text) {fuel depth : Nat} (enough : 3 * text.length + 1 ≤ fuel)
    (deep : value.nesting + 1 ≤ depth) {rest : List Char} (ended : Ended rest) :
    readInner fuel depth (text ++ rest) = .ok (value, rest) := by
  obtain ⟨c, tail, rfl, -⟩ := writes.head
  -- One unit of fuel and one level are spent on the way down.
  obtain ⟨fuel, rfl⟩ := Nat.exists_eq_add_one_of_ne_zero (Nat.ne_zero_of_lt enough)
  obtain ⟨depth, rfl⟩ := Nat.exists_eq_add_one_of_ne_zero (Nat.ne_zero_of_lt deep)
  have inside := reads fuel depth rest (by omega) (by omega) ended
  simpa [readInner] using inside

/-- Items open with a value. -/
theorem Writes.items_head {items : List Json} {text : List Char}
    (writes : Writes byDigits (.items items) text) (rest : List Char) :
    ∃ c tail, Json.skipBlanks (text ++ rest) = c :: tail ∧ opens c = true := by
  -- Behind the gap stands the first item.
  cases writes with
  | lastItem gap value space | item gap value space more =>
    obtain ⟨c, tail, same, first⟩ := value.head
    simp only [List.append_assoc, value.skipBlanks gap]
    exact ⟨c, _, by rw [same]; rfl, first⟩

/-- Members open with the quote of a name. -/
theorem Writes.members_head {members : List (String × Json)} {text : List Char}
    (writes : Writes byDigits (.members members) text) (rest : List Char) :
    ∃ tail, Json.skipBlanks (text ++ rest) = '\x22' :: tail := by
  -- Behind the gap stands the name of the first member.
  cases writes with
  | lastMember gap | member gap =>
    simp only [List.append_assoc, List.cons_append, skipBlanks_gap gap]
    exact ⟨_, rfl⟩

/-! The readers of containers, given what they find between the marks. -/

section Steps

variable {fuel depth : Nat} {text inside behind more rest tail : List Char} {c : Char}

/-- An array that holds something is read by the reader of its items. -/
theorem readValue_array {items : List Json} (opened : skipBlanks inside = c :: tail)
    (noBracket : c ≠ ']') (read : readItems fuel depth (c :: tail) = .ok (items, rest)) :
    readValue (fuel + 1) depth ('[' :: inside) = .ok (.array items, rest) := by
  simp [readValue, opened, read]

/-- An object that holds something is read by the reader of its members. -/
theorem readValue_object {members : List (String × Json)} (opened : skipBlanks inside = c :: tail)
    (noBrace : c ≠ '\x7d') (read : readMembers fuel depth (c :: tail) = .ok (members, rest)) :
    readValue (fuel + 1) depth ('\x7b' :: inside) = .ok (.object members, rest) := by
  simp [readValue, opened, read]

/-- An item in front of the closing bracket is the last one. -/
theorem readItems_last {item : Json} (read : readInner fuel depth text = .ok (item, behind))
    (closed : skipBlanks behind = ']' :: rest) :
    readItems (fuel + 1) depth text = .ok ([item], rest) := by
  simp [readItems, read, closed]

/-- An item in front of a comma is followed by others. -/
theorem readItems_more {item : Json} {items : List Json}
    (read : readInner fuel depth text = .ok (item, behind))
    (comma : skipBlanks behind = ',' :: more) (opened : skipBlanks more = c :: tail)
    (noBracket : c ≠ ']') (following : readItems fuel depth (c :: tail) = .ok (items, rest)) :
    readItems (fuel + 1) depth text = .ok (item :: items, rest) := by
  simp [readItems, read, comma, opened, following]

variable {name middle between : List Char} {value : Json}

/-- A member in front of the closing brace is the last one. -/
theorem readMembers_last (spelled : readString .plain text = .ok (name, middle))
    (colon : skipBlanks middle = ':' :: between)
    (read : readInner fuel depth (skipBlanks between) = .ok (value, behind))
    (closed : skipBlanks behind = '\x7d' :: rest) :
    readMembers (fuel + 1) depth ('\x22' :: text) = .ok ([(String.ofList name, value)], rest) := by
  simp [readMembers, spelled, colon, read, closed]

/-- A member in front of a comma is followed by others. -/
theorem readMembers_more {members : List (String × Json)}
    (spelled : readString .plain text = .ok (name, middle))
    (colon : skipBlanks middle = ':' :: between)
    (read : readInner fuel depth (skipBlanks between) = .ok (value, behind))
    (comma : skipBlanks behind = ',' :: more) (opened : skipBlanks more = '\x22' :: tail)
    (following : readMembers fuel depth ('\x22' :: tail) = .ok (members, rest)) :
    readMembers (fuel + 1) depth ('\x22' :: text) =
      .ok ((String.ofList name, value) :: members, rest) := by
  simp [readMembers, spelled, colon, read, comma, opened, following]

end Steps

/-- A last item is read up to the closing bracket. -/
theorem reads_lastItem {item : Json} {before text behind : List Char} (gap : IsGap before)
    (value : Writes byDigits (.value item) text) (space : IsGap behind) (reads : Reads (.value item) text) :
    Reads (.items [item]) (before ++ text ++ behind) := by
  intro fuel depth rest enough deep
  obtain ⟨fuel, rfl⟩ := Nat.exists_eq_add_one_of_ne_zero (by omega : fuel ≠ 0)
  simp only [List.length_append] at enough
  simp only [nestingItems] at deep
  -- A number as the item would be ended by the gap, or by the bracket behind it.
  have ended : Ended (behind ++ ']' :: rest) := (ended_mark (by simp) rest).gap space
  have read := readInner_append value reads (by omega : 3 * text.length + 1 ≤ fuel)
    (by omega : item.nesting + 1 ≤ depth) ended
  have closed := (skipBlanks_gap space (']' :: rest)).trans (skipBlanks_cons rfl rest)
  rw [List.append_assoc, List.append_assoc, value.skipBlanks gap]
  exact readItems_last read closed

/-- An item is read up to its comma, and the others behind that. -/
theorem reads_item {item : Json} {items : List Json} {before text behind more : List Char}
    (gap : IsGap before) (value : Writes byDigits (.value item) text) (space : IsGap behind)
    (following : Writes byDigits (.items items) more) (reads : Reads (.value item) text)
    (others : Reads (.items items) more) :
    Reads (.items (item :: items)) (before ++ text ++ behind ++ ',' :: more) := by
  intro fuel depth rest enough deep
  obtain ⟨fuel, rfl⟩ := Nat.exists_eq_add_one_of_ne_zero (by omega : fuel ≠ 0)
  simp only [List.length_append, List.length_cons] at enough
  simp only [nestingItems] at deep
  -- A number as the item would be ended by the gap, or by the comma behind it.
  have ended : Ended (behind ++ ',' :: (more ++ ']' :: rest)) := (ended_mark (by simp) _).gap space
  have read := readInner_append value reads (by omega : 3 * text.length + 1 ≤ fuel)
    (by omega : item.nesting + 1 ≤ depth) ended
  have comma := (skipBlanks_gap space (',' :: (more ++ ']' :: rest))).trans (skipBlanks_cons rfl _)
  -- Behind the comma another item must open, as the reader refuses a bracket there.
  obtain ⟨c, tail, opened, first⟩ := following.items_head (']' :: rest)
  have onward := others fuel depth rest (by omega) (by omega)
  rw [opened] at onward
  rw [List.append_assoc, List.append_assoc, List.append_assoc, value.skipBlanks gap]
  exact readItems_more read comma opened (opens_spec first).2.1 onward

/-- The name of a member is read, and the value behind the colon found. -/
theorem reads_name {name : String} {value : Json} {written middle between text : List Char}
    (spells : Spells name.toList written) (space : IsGap middle) (blank : IsGap between)
    (inside : Writes byDigits (.value value) text) (behind : List Char) :
    readString .plain (written ++ '\x22' :: (middle ++ ':' :: (between ++ (text ++ behind)))) =
        .ok (name.toList, middle ++ ':' :: (between ++ (text ++ behind))) ∧
      skipBlanks (middle ++ ':' :: (between ++ (text ++ behind))) =
        ':' :: (between ++ (text ++ behind)) ∧
      skipBlanks (between ++ (text ++ behind)) = text ++ behind :=
  ⟨readString_of_spells spells _, (skipBlanks_gap space _).trans (skipBlanks_cons rfl _),
    inside.skipBlanks blank behind⟩

/-- A last member is read up to the closing brace. -/
theorem reads_lastMember {name : String} {value : Json}
    {before written middle between text behind : List Char} (gap : IsGap before)
    (spells : Spells name.toList written) (space : IsGap middle) (blank : IsGap between)
    (inside : Writes byDigits (.value value) text) (last : IsGap behind)
    (reads : Reads (.value value) text) :
    Reads (.members [(name, value)])
      (before ++ '\x22' :: written ++ '\x22' :: middle ++ ':' :: between ++ text ++ behind) := by
  intro fuel depth rest enough deep
  obtain ⟨fuel, rfl⟩ := Nat.exists_eq_add_one_of_ne_zero (by omega : fuel ≠ 0)
  simp only [List.length_append, List.length_cons] at enough
  simp only [nestingMembers] at deep
  obtain ⟨spelled, colon, found⟩ := reads_name spells space blank inside (behind ++ '\x7d' :: rest)
  have ended : Ended (behind ++ '\x7d' :: rest) := (ended_mark (by simp) rest).gap last
  have read := readInner_append inside reads (by omega : 3 * text.length + 1 ≤ fuel)
    (by omega : value.nesting + 1 ≤ depth) ended
  -- The value begins behind the gap that follows the colon.
  rw [← found] at read
  have closed := (skipBlanks_gap last ('\x7d' :: rest)).trans (skipBlanks_cons rfl rest)
  have member := readMembers_last spelled colon read closed
  have quote := skipBlanks_cons (rfl : isSeparator '\x22' = false)
  simpa [skipBlanks_gap gap, quote] using member

/-- A member is read up to its comma, and the others behind that. -/
theorem reads_member {name : String} {value : Json} {members : List (String × Json)}
    {before written middle between text behind more : List Char} (gap : IsGap before)
    (spells : Spells name.toList written) (space : IsGap middle) (blank : IsGap between)
    (inside : Writes byDigits (.value value) text) (last : IsGap behind)
    (following : Writes byDigits (.members members) more) (reads : Reads (.value value) text)
    (others : Reads (.members members) more) :
    Reads (.members ((name, value) :: members))
      (before ++ '\x22' :: written ++ '\x22' :: middle ++ ':' :: between ++ text ++ behind ++
        ',' :: more) := by
  intro fuel depth rest enough deep
  obtain ⟨fuel, rfl⟩ := Nat.exists_eq_add_one_of_ne_zero (by omega : fuel ≠ 0)
  simp only [List.length_append, List.length_cons] at enough
  simp only [nestingMembers] at deep
  obtain ⟨spelled, colon, found⟩ :=
    reads_name spells space blank inside (behind ++ ',' :: (more ++ '\x7d' :: rest))
  have ended : Ended (behind ++ ',' :: (more ++ '\x7d' :: rest)) :=
    (ended_mark (by simp) _).gap last
  have read := readInner_append inside reads (by omega : 3 * text.length + 1 ≤ fuel)
    (by omega : value.nesting + 1 ≤ depth) ended
  -- The value begins behind the gap that follows the colon.
  rw [← found] at read
  have comma :=
    (skipBlanks_gap last (',' :: (more ++ '\x7d' :: rest))).trans (skipBlanks_cons rfl _)
  -- Behind the comma the quote of another name must follow.
  obtain ⟨tail, opened⟩ := following.members_head ('\x7d' :: rest)
  have onward := others fuel depth rest (by omega) (by omega)
  rw [opened] at onward
  have member := readMembers_more spelled colon read comma opened onward
  have quote := skipBlanks_cons (rfl : isSeparator '\x22' = false)
  simpa [skipBlanks_gap gap, quote] using member

/-- Every part is read back from every text that writes it. -/
theorem Writes.reads {part : Part} {text : List Char} (writes : Writes byDigits part text) :
    Reads part text := by
  -- The induction is on how the text is written, and covers values, items and members at once.
  induction writes with
  | null => exact fun fuel depth rest enough _ _ => readValue_scalar rfl rfl fuel depth enough
  | yes => exact fun fuel depth rest enough _ _ => readValue_scalar rfl rfl fuel depth enough
  | no => exact fun fuel depth rest enough _ _ => readValue_scalar rfl rfl fuel depth enough
  | number numeral =>
    intro fuel depth rest enough _ ended
    obtain ⟨c, tail, rfl, first, reads⟩ := numeral.reads
    exact readValue_scalar first (reads rest ended) fuel depth enough
  | string spells =>
    intro fuel depth rest enough _ _
    have content := readScalar_string spells rest
    exact readValue_scalar rfl (by simpa using content) fuel depth enough
  | emptyArray blank =>
    intro fuel depth rest enough _ _
    obtain ⟨fuel, rfl⟩ := Nat.exists_eq_add_one_of_ne_zero (by simp at enough; omega : fuel ≠ 0)
    have closed := (skipBlanks_gap blank (']' :: rest)).trans (skipBlanks_cons rfl rest)
    simp [readValue, closed]
  | array inside ih =>
    intro fuel depth rest enough deep _
    obtain ⟨fuel, rfl⟩ := Nat.exists_eq_add_one_of_ne_zero (by simp at enough; omega : fuel ≠ 0)
    obtain ⟨c, tail, opened, first⟩ := inside.items_head (']' :: rest)
    have items := ih fuel depth rest (by simp at enough; omega) deep
    rw [opened] at items
    simpa using readValue_array opened (opens_spec first).2.1 items
  | emptyObject blank =>
    intro fuel depth rest enough _ _
    obtain ⟨fuel, rfl⟩ := Nat.exists_eq_add_one_of_ne_zero (by simp at enough; omega : fuel ≠ 0)
    have closed := (skipBlanks_gap blank ('\x7d' :: rest)).trans (skipBlanks_cons rfl rest)
    simp [readValue, closed]
  | object inside ih =>
    intro fuel depth rest enough deep _
    obtain ⟨fuel, rfl⟩ := Nat.exists_eq_add_one_of_ne_zero (by simp at enough; omega : fuel ≠ 0)
    obtain ⟨tail, opened⟩ := inside.members_head ('\x7d' :: rest)
    have members := ih fuel depth rest (by simp at enough; omega) deep
    rw [opened] at members
    simpa using readValue_object opened (by decide) members
  | lastItem gap value space ih => exact reads_lastItem gap value space ih
  | item gap value space following ih others =>
    exact reads_item gap value space following ih others
  | lastMember gap spells space blank inside last ih =>
    exact reads_lastMember gap spells space blank inside last ih
  | member gap spells space blank inside last following ih others =>
    exact reads_member gap spells space blank inside last following ih others

/-- The value of a whole text is read back, with any blanks around it, if it is not nested too
deep. -/
theorem readText_of_writes {value : Json} {text before behind : List Char}
    (writes : Writes byDigits (.value value) text) (shallow : value.nesting ≤ depthLimit)
    (gap : IsGap before) (space : IsGap behind) :
    readText (before ++ text ++ behind) = .ok value := by
  have ended : Ended behind := by
    have nothing : Ended [] := ⟨nofun, rfl⟩
    simpa using nothing.gap space
  have passed : skipBlanks behind = [] := by
    rw [← List.append_nil behind, skipBlanks_gap space]
    rfl
  -- The fuel of the whole text is enough for the value in it.
  have read := writes.reads (3 * (before ++ text ++ behind).length + 3) depthLimit behind
    (by simp only [List.length_append]; omega) shallow ended
  simp only [readText, List.append_assoc, writes.skipBlanks gap] at read ⊢
  -- What is left behind the value is the last gap, and passing it leaves nothing.
  rw [read]
  simp [passed]

end ContainerScan.Json
