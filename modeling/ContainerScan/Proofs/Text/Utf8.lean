import ContainerScan.Text.Utf8
import Mathlib.Data.List.Basic

/-! Characters among bytes: every text is read back from its bytes, and no damage around plain
characters takes one of them away. -/

namespace ContainerScan.Text.Utf8

/-- A byte below the first continuation byte stands for a character by itself. -/
def IsPlain (byte : Nat) : Prop :=
  byte ≤ 0x7F

instance (byte : Nat) : Decidable (IsPlain byte) :=
  inferInstanceAs (Decidable (byte ≤ 0x7F))

/-- Inside a character only continuation bytes are awaited. -/
def State.Awaits : State → Prop
  -- The first byte may narrow the range of the second one, but never down to plain characters.
  | .start => True
  | .inside _ low _ _ => 0x80 ≤ low

/-- Between two characters a plain byte is a character. -/
theorem opening_of_plain {byte : Nat} (plain : IsPlain byte) :
    opening byte = ([Char.ofNat byte], .start) := by
  simp [opening, show byte ≤ 0x7F from plain]

/-- What a first byte opens awaits continuation bytes. -/
theorem opening_awaits (byte : Nat) : (opening byte).2.Awaits := by
  unfold opening
  -- Each kind of first byte has a range of its own for the second one.
  repeat' split
  all_goals simp [State.Awaits]

/-- A state that awaits continuation bytes leads to others that do. -/
theorem step_awaits (state : State) (byte : Nat) : (step state byte).2.Awaits := by
  cases state with
  | start => exact opening_awaits byte
  | inside owed low high bits =>
    simp only [step]
    split
    · -- The character is complete, or its next byte is any continuation byte.
      split <;> simp [State.Awaits]
    · exact opening_awaits byte

/-- A plain byte ends whatever has been begun before it, and stands for itself. -/
theorem decodeFrom_plain {state : State} (awaits : state.Awaits) {byte : UInt8}
    (plain : IsPlain byte.toNat) (rest : List UInt8) :
    decodeFrom state (byte :: rest) =
      decodeFrom state [] ++ Char.ofNat byte.toNat :: decodeFrom .start rest := by
  cases state with
  | start => simp [decodeFrom, step, opening_of_plain plain]
  | inside owed low high bits =>
    have low_le : 0x80 ≤ low := awaits
    -- The byte is out of the range that is awaited, and opens a character of its own.
    have outside : ¬(low ≤ byte.toNat ∧ byte.toNat ≤ high) := by
      have below : byte.toNat ≤ 0x7F := plain
      omega
    simp [decodeFrom, step, outside, opening_of_plain plain]

/-- Bytes before a plain byte are read as if nothing followed them, and bytes behind it as if
nothing came before them. -/
theorem decodeFrom_append_plain {state : State} (awaits : state.Awaits) (before : List UInt8)
    {byte : UInt8} (plain : IsPlain byte.toNat) (rest : List UInt8) :
    decodeFrom state (before ++ byte :: rest) =
      decodeFrom state before ++ Char.ofNat byte.toNat :: decodeFrom .start rest := by
  -- The reader goes through the first bytes one by one, in whatever state they leave it.
  induction before generalizing state with
  | nil => exact decodeFrom_plain awaits plain rest
  | cons first before ih =>
    have onward := ih (step_awaits state first.toNat)
    simp only [List.cons_append, decodeFrom]
    rw [onward, List.append_assoc]

/-- A character of the first half of a byte is written as that byte. -/
theorem encodeChar_of_plain {c : Char} (plain : IsPlain c.toNat) :
    String.utf8EncodeChar c = [UInt8.ofNat c.toNat] := by
  have below : c.toNat ≤ 0x7F := plain
  simp [String.utf8EncodeChar, below]

/-- The byte of a plain character is the number of the character. -/
theorem toNat_ofNat_of_plain {c : Char} (plain : IsPlain c.toNat) :
    (UInt8.ofNat c.toNat).toNat = c.toNat := by
  have below : c.toNat ≤ 0x7F := plain
  rw [UInt8.toNat_ofNat']
  omega

/-- How bytes spell a character from a state on: each byte but the last leads deeper into it. -/
inductive Spells (c : Char) : State → List UInt8 → Prop where
  | last {state : State} {byte : UInt8} (completes : step state byte.toNat = ([c], .start)) :
      Spells c state [byte]
  | more {state : State} {byte : UInt8} {rest : List UInt8} {owed low high bits : Nat}
      (deeper : step state byte.toNat = ([], .inside owed low high bits))
      -- Whatever comes next, only bytes from inside a character go on with this one.
      (continued : 0x80 ≤ low ∧ high ≤ 0xBF)
      (remaining : Spells c (.inside owed low high bits) rest) : Spells c state (byte :: rest)

/-- The first byte of two leaves the second one free. -/
theorem opening_two {lead : Nat} (least : 2 ≤ lead) (most : lead < 32) :
    opening (lead + 0xC0) = ([], .inside 1 0x80 0xBF lead) := by
  have range : 0xC2 ≤ lead + 0xC0 ∧ lead + 0xC0 ≤ 0xDF := by omega
  rw [opening, if_neg (by omega), if_pos range, Nat.add_sub_cancel]

/-- The first byte of three keeps long forms and surrogates out of the second one. -/
theorem opening_three : ∀ lead < 16,
    opening (lead + 0xE0) = ([], .inside 2 (if lead = 0 then 0xA0 else 0x80)
      (if lead = 0xD then 0x9F else 0xBF) lead) := by
  decide

/-- The first byte of four keeps long forms, and what is above all characters, out of the second
one. -/
theorem opening_four : ∀ lead < 5,
    opening (lead + 0xF0) = ([], .inside 3 (if lead = 0 then 0x90 else 0x80)
      (if lead = 4 then 0x8F else 0xBF) lead) := by
  decide

/-- A byte from inside a character is six bits and a mark. -/
theorem toNat_ofNat_inside {digit : Nat} (small : digit < 64) :
    (UInt8.ofNat (digit + 0x80)).toNat = digit + 0x80 :=
  UInt8.toNat_ofNat_of_lt' (Nat.lt_trans (Nat.add_lt_add_right small 0x80) (by decide))

/-- The last byte of a character brings its last bits. -/
theorem spells_last {c : Char} {low high bits digit : Nat} (small : digit < 64)
    (range : low ≤ digit + 0x80 ∧ digit + 0x80 ≤ high) (value : bits * 64 + digit = c.toNat) :
    Spells c (.inside 1 low high bits) [UInt8.ofNat (digit + 0x80)] := by
  refine .last ?_
  rw [toNat_ofNat_inside small, step, if_pos range, if_pos (Nat.le_refl 1), Nat.add_sub_cancel,
    value, Char.ofNat_toNat]

/-- A byte inside a character brings some of its bits, and leaves the next one free. -/
theorem spells_more {c : Char} {owed low high bits digit : Nat} {rest : List UInt8}
    (small : digit < 64) (range : low ≤ digit + 0x80 ∧ digit + 0x80 ≤ high)
    (remaining : Spells c (.inside (owed + 1) 0x80 0xBF (bits * 64 + digit)) rest) :
    Spells c (.inside (owed + 2) low high bits) (UInt8.ofNat (digit + 0x80) :: rest) := by
  refine .more ?_ ⟨Nat.le_refl _, Nat.le_refl _⟩ remaining
  rw [toNat_ofNat_inside small, step, if_pos range, if_neg (by omega), Nat.add_sub_cancel]
  rfl

/-- The bytes of a character spell it. -/
theorem spells_encodeChar (c : Char) : Spells c .start (String.utf8EncodeChar c) := by
  have valid : c.toNat < 0xD800 ∨ 0xDFFF < c.toNat ∧ c.toNat < 0x110000 := c.valid
  have small (digit : Nat) : digit % 64 < 64 := Nat.mod_lt _ (by decide)
  have free (digit : Nat) : 0x80 ≤ digit % 64 + 0x80 ∧ digit % 64 + 0x80 ≤ 0xBF := by omega
  have first {lead base : Nat} {state : State} (fits : lead + base < 256)
      (opened : opening (lead + base) = ([], state)) :
      step .start (UInt8.ofNat (lead + base)).toNat = ([], state) := by
    rw [UInt8.toNat_ofNat_of_lt' fits, step, opened]
  unfold String.utf8EncodeChar
  simp only [show c.val.toNat = c.toNat from rfl]
  -- There is a case for each number of bytes. What the first byte asks of the second one is that
  -- the character is none of those with fewer bytes, no surrogate, and not above all characters.
  split
  case isTrue plain =>
    refine .last ?_
    rw [toNat_ofNat_of_plain plain, step, opening_of_plain plain, Char.ofNat_toNat]
  split
  · exact .more (first (by omega) (opening_two (by omega) (by omega)))
      ⟨Nat.le_refl _, Nat.le_refl _⟩ (spells_last (small _) (free _) (by omega))
  split
  · refine .more (first (by omega) (opening_three _ (by omega))) ?_ (spells_more (small _) ?_
      (spells_last (small _) (free _) (by omega)))
    · split <;> split <;> omega
    · split <;> split <;> omega
  · refine .more (first (by omega) (opening_four _ (by omega))) ?_ (spells_more (small _) ?_
      (spells_more (small _) (free _) (spells_last (small _) (free _) (by omega))))
    · split <;> split <;> omega
    · split <;> split <;> omega

/-- What spells a character is read as it, and leaves the reader between two characters. -/
theorem Spells.decodeFrom_append {c : Char} {state : State} {bytes : List UInt8}
    (spells : Spells c state bytes) (rest : List UInt8) :
    decodeFrom state (bytes ++ rest) = c :: decodeFrom .start rest := by
  -- No byte but the last one brings a character, and that one ends it.
  induction spells with
  | last completes => simp [decodeFrom, completes]
  | more deeper continued remaining ih => simpa [decodeFrom, deeper] using ih

/-- A text is read back from its bytes, whatever follows them. -/
theorem decodeFrom_encode (text : List Char) (rest : List UInt8) :
    decodeFrom .start (encode text ++ rest) = text ++ decodeFrom .start rest := by
  -- Each character leaves the reader where the next one begins.
  induction text with
  | nil => rfl
  | cons c text ih =>
    rw [encode, List.flatMap_cons, List.append_assoc, (spells_encodeChar c).decodeFrom_append]
    exact congrArg (c :: ·) ih

/-- The bytes of a text are those of the standard encoding. -/
theorem encode_toList (text : String) : encode text.toList = text.toUTF8.data.toList := by
  have kept := @String.toByteArray_ofList text.toList
  rw [String.ofList_toList] at kept
  rw [String.toUTF8_eq_toByteArray, kept, List.utf8Encode, List.data_toByteArray, encode]

/-- Every text is decoded from its bytes. -/
theorem decode_encode (text : String) : decode (encode text.toList) = text := by
  have read := decodeFrom_encode text.toList []
  rw [List.append_nil] at read
  rw [decode, read, decodeFrom, List.append_nil, String.ofList_toList]

/-- Plain text survives any bytes around it, and parts the reading of what stands on its sides. -/
theorem decodeFrom_around_plain {text : List Char} (given : text ≠ [])
    (plain : ∀ c ∈ text, IsPlain c.toNat) (before behind : List UInt8) :
    decodeFrom .start (before ++ encode text ++ behind) =
      decodeFrom .start before ++ text ++ decodeFrom .start behind := by
  -- Its first byte cuts off what comes before, and the others follow between two characters.
  cases text with
  | nil => exact absurd rfl given
  | cons c text =>
    have first : IsPlain c.toNat := plain c (by simp)
    have same := toNat_ofNat_of_plain first
    have written : encode (c :: text) = UInt8.ofNat c.toNat :: encode text := by
      simp [encode, encodeChar_of_plain first]
    have cut := @decodeFrom_append_plain .start trivial before (UInt8.ofNat c.toNat)
      (by rwa [same]) (encode text ++ behind)
    rw [same, Char.ofNat_toNat, decodeFrom_encode] at cut
    simpa [written] using cut

end ContainerScan.Text.Utf8
