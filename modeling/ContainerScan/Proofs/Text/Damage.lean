import ContainerScan.Proofs.Text.Utf8
import Mathlib.Data.List.Chain

/-! Texts with damaged stretches between them: each stretch is read as one replacement character, and
each text as itself. -/

namespace ContainerScan.Text.Utf8

/-- A byte with which no character begins: it comes from inside of one, or is in none at all. -/
def IsForeign (byte : UInt8) : Prop :=
  (0x80 ≤ byte.toNat ∧ byte.toNat ≤ 0xC1) ∨ 0xF5 ≤ byte.toNat

instance (byte : UInt8) : Decidable (IsForeign byte) :=
  inferInstanceAs (Decidable ((0x80 ≤ byte.toNat ∧ byte.toNat ≤ 0xC1) ∨ 0xF5 ≤ byte.toNat))

/-- The bytes of a character begin with one that is not foreign. -/
theorem encodeChar_eq_cons (c : Char) :
    ∃ byte more, String.utf8EncodeChar c = byte :: more ∧ ¬IsForeign byte := by
  have valid : c.toNat < 0xD800 ∨ 0xDFFF < c.toNat ∧ c.toNat < 0x110000 := c.valid
  have own {first : Nat} (fits : first < 256)
      (range : first ≤ 0x7F ∨ 0xC2 ≤ first ∧ first ≤ 0xF4) : ¬IsForeign (UInt8.ofNat first) := by
    rw [IsForeign, UInt8.toNat_ofNat_of_lt' fits]
    omega
  unfold String.utf8EncodeChar
  simp only [show c.val.toNat = c.toNat from rfl]
  -- For each number of bytes the first one lies in a range of its own.
  split
  · exact ⟨_, _, rfl, own (by omega) (by omega)⟩
  split
  · exact ⟨_, _, rfl, own (by omega) (by omega)⟩
  split
  · exact ⟨_, _, rfl, own (by omega) (by omega)⟩
  · exact ⟨_, _, rfl, own (by omega) (by omega)⟩

/-- The least character whose bytes begin with a byte, if there is one. -/
def leastWith (byte : Nat) : Char :=
  if byte ≤ 0x7F then Char.ofNat byte
  else if byte ≤ 0xDF then Char.ofNat ((byte - 0xC0) * 64)
  else if byte ≤ 0xEF then Char.ofNat (max 0x800 ((byte - 0xE0) * 0x1000))
  else Char.ofNat (max 0x10000 ((byte - 0xF0) * 0x40000))

/-- Every byte that is not foreign begins a character. -/
theorem head_encodeChar_leastWith : ∀ byte < 256, ¬IsForeign (UInt8.ofNat byte) →
    (String.utf8EncodeChar (leastWith byte)).head? = some (UInt8.ofNat byte) := by
  decide +kernel

/-- The foreign bytes are those with which no character begins. -/
theorem isForeign_iff {byte : UInt8} :
    IsForeign byte ↔ ∀ c, (String.utf8EncodeChar c).head? ≠ some byte := by
  -- A character that began with a foreign byte would begin with one that is not foreign.
  constructor
  · intro foreign c begins
    obtain ⟨first, more, written, own⟩ := encodeChar_eq_cons c
    rw [written, List.head?_cons, Option.some.injEq] at begins
    exact own (begins ▸ foreign)
  · intro none
    by_contra own
    have begins := head_encodeChar_leastWith byte.toNat byte.toNat_lt
    rw [UInt8.ofNat_toNat] at begins
    exact none _ (begins own)

/-- A stretch of bytes that is no text: a foreign byte, or a character without its last bytes. -/
inductive IsDamage : List UInt8 → Prop where
  | foreign {byte : UInt8} (isForeign : IsForeign byte) : IsDamage [byte]
  | cutOff {c : Char} {part : List UInt8} (begun : part ≠ [])
      (opens : part <+: String.utf8EncodeChar c) (unfinished : part ≠ String.utf8EncodeChar c) :
      IsDamage part

/-- A damaged stretch, and the text behind it. -/
structure Scar where
  damage : List UInt8
  isDamage : IsDamage damage
  behind : String

/-- A text and damaged stretches, where some text stands between each stretch and the next. -/
structure Damaged where
  before : String
  scars : List Scar
  apart : scars.IsChain fun scar _ => scar.behind ≠ ""

namespace Damaged

/-- The bytes that come: those of each text, with the damaged stretches between them. -/
def bytes (damaged : Damaged) : List UInt8 :=
  damaged.before.toUTF8.data.toList ++
    damaged.scars.flatMap fun scar => scar.damage ++ scar.behind.toUTF8.data.toList

/-- The text that is left: a replacement character for each stretch. -/
def restored (damaged : Damaged) : String :=
  damaged.before ++
    String.join (damaged.scars.map fun scar => String.singleton replacement ++ scar.behind)

end Damaged

/-- Some bytes break off an unfinished character before them: there are none, or the first one goes on
with no character. -/
def Breaks (rest : List UInt8) : Prop :=
  ∀ byte ∈ rest.head?, ¬IsForeign byte

/-- The bytes of a text break off whatever stands before them. -/
theorem breaks_encode {text : List Char} (given : text ≠ []) (rest : List UInt8) :
    Breaks (encode text ++ rest) := by
  -- The first byte is that of the first character.
  cases text with
  | nil => exact absurd rfl given
  | cons c text =>
    obtain ⟨byte, more, written, own⟩ := encodeChar_eq_cons c
    intro first begins
    rw [encode, List.flatMap_cons, written] at begins
    obtain rfl := Option.some.inj begins
    exact own

/-- An unfinished character is read as one replacement where it is broken off. -/
theorem decodeFrom_inside {low high : Nat} (continued : 0x80 ≤ low ∧ high ≤ 0xBF)
    (owed bits : Nat) {rest : List UInt8} (breaks : Breaks rest) :
    decodeFrom (.inside owed low high bits) rest = replacement :: decodeFrom .start rest := by
  cases rest with
  | nil => rfl
  | cons byte rest =>
    -- The byte is out of the range that is awaited, and is read again as a first one.
    have outside : ¬(low ≤ byte.toNat ∧ byte.toNat ≤ high) := by
      have own : ¬IsForeign byte := breaks byte rfl
      unfold IsForeign at own
      omega
    simp [decodeFrom, step, outside]

/-- A character that is broken off before its last byte is read as one replacement. -/
theorem Spells.decodeFrom_part {c : Char} {state : State} {bytes part rest : List UInt8}
    (spells : Spells c state bytes) (begun : part ≠ []) (opens : part <+: bytes)
    (unfinished : part ≠ bytes) (breaks : Breaks rest) :
    decodeFrom state (part ++ rest) = replacement :: decodeFrom .start rest := by
  -- The bytes that are there lead deeper into the character, and what breaks it off comes behind them.
  induction spells generalizing part with
  | last =>
    rcases List.prefix_cons_iff.mp opens with rfl | ⟨more, rfl, further⟩
    · exact absurd rfl begun
    · exact absurd (by rw [List.prefix_nil.mp further]) unfinished
  | @more state byte later owed low high bits deeper continued remaining ih =>
    rcases List.prefix_cons_iff.mp opens with rfl | ⟨more, rfl, further⟩
    · exact absurd rfl begun
    have onward : decodeFrom state (byte :: more ++ rest) =
        decodeFrom (.inside owed low high bits) (more ++ rest) := by
      simp [decodeFrom, deeper]
    rw [onward]
    by_cases ended : more = []
    · rw [ended]
      exact decodeFrom_inside continued owed bits breaks
    · exact ih ended further fun whole => unfinished (by rw [whole])

/-- A foreign byte between two characters is read as one replacement. -/
theorem opening_of_foreign {byte : UInt8} (foreign : IsForeign byte) :
    opening byte.toNat = ([replacement], .start) := by
  -- It lies between the ranges of the first bytes, or above them all.
  grind [opening, IsForeign]

/-- A damaged stretch is read as one replacement where what follows breaks it off. -/
theorem IsDamage.decodeFrom {damage rest : List UInt8} (isDamage : IsDamage damage)
    (breaks : Breaks rest) :
    decodeFrom .start (damage ++ rest) = replacement :: Utf8.decodeFrom .start rest := by
  -- A foreign byte is replaced at once, and a beginning when what follows breaks it off.
  cases isDamage with
  | foreign isForeign => simp [Utf8.decodeFrom, step, opening_of_foreign isForeign]
  | cutOff begun opens unfinished =>
    exact (spells_encodeChar _).decodeFrom_part begun opens unfinished breaks

/-- Behind each damaged stretch its text is read as it is. -/
theorem decodeFrom_scars {scars : List Scar} (apart : scars.IsChain fun scar _ => scar.behind ≠ "") :
    decodeFrom .start (scars.flatMap fun scar => scar.damage ++ encode scar.behind.toList) =
      scars.flatMap fun scar => replacement :: scar.behind.toList := by
  -- Each stretch is broken off by what follows it, and each text leaves the reader at the next one.
  induction scars with
  | nil => rfl
  | cons scar rest ih =>
    obtain ⟨parted, later⟩ := List.isChain_cons.mp apart
    -- Only the last stretch may have no text behind it, and that one is broken off by the end.
    have breaks : Breaks (encode scar.behind.toList ++
        rest.flatMap fun scar => scar.damage ++ encode scar.behind.toList) := by
      by_cases given : scar.behind = ""
      · cases rest with
        | nil => simp [given, Breaks, encode]
        | cons next rest => exact absurd given (parted next rfl)
      · exact breaks_encode (fun empty => given (String.toList_injective empty)) _
    rw [List.flatMap_cons, List.append_assoc, scar.isDamage.decodeFrom breaks, decodeFrom_encode,
      ih later]
    rfl

/-- Of a damaged text everything is read but the damaged stretches, and each of these is read as one
replacement. -/
theorem decode_bytes (damaged : Damaged) : decode damaged.bytes = damaged.restored := by
  apply String.toList_injective
  -- Both sides are the first text, and behind it a replacement and a text for each stretch.
  simp only [Damaged.bytes, ← encode_toList]
  rw [decode, String.toList_ofList, decodeFrom_encode, decodeFrom_scars damaged.apart,
    Damaged.restored, String.toList_append, String.toList_join, List.flatMap_map]
  simp

end ContainerScan.Text.Utf8
