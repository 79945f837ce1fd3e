import ContainerScan.Proofs.Text.Utf8
import ContainerScan.Text.Letters
import Mathlib.Data.List.TakeWhile

/-! Words between blanks and in any case of their letters. Beside the Latin alphabet no letter becomes a
plain one, but for the sign of the Kelvin, which becomes a small k: a word without that letter is
told by the Latin alphabet alone. -/

namespace ContainerScan.Text

open Utf8

/-- A text is what trimming leaves of it, between blanks. -/
theorem exists_trim (text : List Char) :
    ∃ before behind, text = before ++ trim text ++ behind ∧
      ∀ c ∈ before ++ behind, isBlank c = true := by
  -- Blanks are taken from the front first, and then from the end of what is left.
  let inner := text.dropWhile isBlank
  refine ⟨text.takeWhile isBlank, (inner.reverse.takeWhile isBlank).reverse, ?_, ?_⟩
  · have front : text.takeWhile isBlank ++ inner = text := List.takeWhile_append_dropWhile
    have back : trim text ++ (inner.reverse.takeWhile isBlank).reverse = inner := by
      rw [trim, trimOf, trimEndOf, ← List.reverse_append, List.takeWhile_append_dropWhile,
        List.reverse_reverse]
    rw [List.append_assoc, back, front]
  · intro c member
    rw [List.mem_append, List.mem_reverse] at member
    exact member.elim List.mem_takeWhile_imp List.mem_takeWhile_imp

/-- A word without blanks is what trimming leaves, if there are only blanks around it. -/
theorem trim_append {before word behind : List Char}
    (blank : ∀ c ∈ before ++ behind, isBlank c = true) (solid : ∀ c ∈ word, isBlank c = false) :
    trim (before ++ word ++ behind) = word := by
  have inFront : ∀ c ∈ before, isBlank c = true := fun c member =>
    blank c (List.mem_append_left _ member)
  have inBack : ∀ c ∈ behind.reverse, isBlank c = true := fun c member =>
    blank c (List.mem_append_right _ (List.mem_reverse.mp member))
  -- A word that is empty, too, leaves nothing between the blanks.
  cases word with
  | nil =>
    have none : (before ++ behind).dropWhile isBlank = [] := List.dropWhile_eq_nil_iff.mpr blank
    simp [trim, trimOf, trimEndOf, none]
  | cons c word =>
    have first : (c :: word ++ behind).dropWhile isBlank = c :: word ++ behind := by
      simp [solid c (List.mem_cons_self ..)]
    have last : (c :: word).reverse.dropWhile isBlank = (c :: word).reverse := by
      rw [List.dropWhile_eq_self_iff]
      intro nonempty
      exact Bool.not_eq_true _ ▸ solid _ (List.mem_reverse.mp (List.getElem_mem nonempty))
    rw [trim, trimOf, trimEndOf, List.append_assoc, List.dropWhile_append_of_pos inFront, first,
      List.reverse_append, List.dropWhile_append_of_pos inBack, last, List.reverse_reverse]

/-- A blank is no letter. -/
theorem lowerLetter_of_blank {c : Char} (blank : isBlank c = true) : lowerLetter c = c := by
  -- No blank is a capital letter.
  refine if_neg fun capital => ?_
  have first : 0x41 ≤ c.toNat := capital.1
  have last : c.toNat ≤ 0x5A := capital.2
  simp only [isBlank, isSpace, Bool.or_eq_true, Bool.and_eq_true, decide_eq_true_eq,
    beq_iff_eq] at blank
  omega

/-- The sign of the Kelvin as a row of capital letters. -/
def kelvinRow : Nat × Nat × Nat × Int := (0x212A, 0x212A, 1, -8383)

/-- Every row but that of the Kelvin leads to characters, and to no plain ones. -/
theorem capitalRows_foreign : ∀ row ∈ capitalRows, row = kelvinRow ∨
    0x80 ≤ row.1 + row.2.2.2 ∧
      (row.2.1 + row.2.2.2 < 0xD800 ∨ 0xDFFF < row.1 + row.2.2.2) ∧
      row.2.1 + row.2.2.2 < 0x110000 := by
  decide +kernel

/-- A code point that is one is that of its character. -/
theorem toNat_ofNat_of_valid {code : Nat} (valid : code.isValidChar) :
    (Char.ofNat code).toNat = code := by
  rw [Char.ofNat, dif_pos valid]
  rfl

/-- The small form of a character that is not plain holds another such character, or a k. -/
theorem smallForm_foreign {c : Char} (foreign : ¬IsPlain c.toNat) :
    ∃ d ∈ smallForm c, ¬IsPlain d.toNat ∨ d = 'k' := by
  have high : ¬c.toNat < 0x80 := fun low => foreign (Nat.le_of_lt_succ low)
  unfold smallForm
  rw [if_neg high]
  split
  · -- The capital with a dot leaves its dot behind.
    exact ⟨'\u0307', by simp, Or.inl (by decide)⟩
  · split
    · next row _ _ way found =>
      have member := List.mem_of_find?_eq_some found
      have inside := List.find?_some found
      simp only [inRow, Bool.and_eq_true, decide_eq_true_eq] at inside
      obtain ⟨⟨first, last⟩, -⟩ := inside
      refine ⟨_, List.mem_singleton_self _, ?_⟩
      rcases capitalRows_foreign _ member with kelvin | ⟨beyond, gap, bound⟩
      · -- The row of the Kelvin holds that sign alone.
        simp only [kelvinRow, Prod.mk.injEq] at kelvin
        obtain ⟨rfl, rfl, -, rfl⟩ := kelvin
        have same : c.toNat = 0x212A := by omega
        exact Or.inr (by rw [same]; rfl)
      · simp only at beyond gap bound
        have valid : (c.toNat + way).toNat.isValidChar := by
          unfold Nat.isValidChar
          omega
        refine Or.inl fun plain => ?_
        rw [IsPlain, toNat_ofNat_of_valid valid] at plain
        omega
    · exact ⟨c, List.mem_singleton_self c, Or.inl foreign⟩

/-- A letter of the Latin alphabet becomes another plain one, and all else stays what it is. -/
theorem plain_lowerLetter {c : Char} : IsPlain (lowerLetter c).toNat ↔ IsPlain c.toNat := by
  -- A small letter is as plain as its capital.
  unfold lowerLetter
  split
  · next capital =>
    have first : 0x41 ≤ c.toNat := capital.1
    have last : c.toNat ≤ 0x5A := capital.2
    have valid : (c.toNat + 32).isValidChar := Or.inl (by omega)
    rw [toNat_ofNat_of_valid valid]
    simp only [IsPlain]
    omega
  · rfl

/-- Among plain characters the small forms are those of the Latin alphabet. -/
theorem lowercase_of_plain {text : List Char} (plain : ∀ c ∈ text, IsPlain c.toNat) :
    lowercase text = lower text := by
  -- A plain character has a small form of one character.
  induction text with
  | nil => rfl
  | cons c rest ih =>
    have low : c.toNat < 0x80 := Nat.lt_succ_of_le (plain c (List.mem_cons_self ..))
    have others := ih fun d member => plain d (List.mem_cons_of_mem _ member)
    simp only [lowercase, lower, List.flatMap_cons, List.map_cons] at others ⊢
    rw [others, smallForm, if_pos low]
    rfl

/-- In all scripts, the texts with a word as their small form are those that the Latin alphabet
alone takes to it, if the word is of plain characters other than k. -/
theorem lowercase_eq_iff {text word : List Char}
    (plain : ∀ c ∈ word, IsPlain c.toNat ∧ c ≠ 'k') :
    lowercase text = word ↔ lower text = word := by
  -- Either way, every character of the text is plain.
  constructor
  · rintro rfl
    refine (lowercase_of_plain fun c member => ?_).symm
    by_contra foreign
    obtain ⟨d, part, other⟩ := smallForm_foreign foreign
    obtain ⟨isPlain, notK⟩ := plain d (List.mem_flatMap.mpr ⟨c, member, part⟩)
    rcases other with beyond | isK
    · exact beyond isPlain
    · exact notK isK
  · rintro rfl
    refine lowercase_of_plain fun c member => ?_
    exact plain_lowerLetter.mp (plain _ (List.mem_map_of_mem member)).1

end ContainerScan.Text
