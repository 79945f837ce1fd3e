import ContainerScan.Text.Substitution
import Mathlib.Data.List.Basic

/-! What replacement makes of a text: nothing without the token, else one that tells the value. -/

namespace ContainerScan.Text

/-- A token occurs in a text exactly if it is a stretch of it. -/
theorem occursIn_iff {token text : List Char} : occursIn token text = true ↔ token <:+: text := by
  -- Either the token opens the text, or it is a stretch of what follows the first character.
  induction text with
  | nil => simp [occursIn]
  | cons c rest ih => simp [occursIn, ih, List.infix_cons_iff]

/-- A text without the token stays as it is. -/
theorem replaceAll_of_absent {token text : List Char} (absent : occursIn token text = false)
    (value : List Char) : replaceAll token value text = text := by
  -- No match opens at any character, so the scan passes over all of them.
  induction text with
  | nil => rfl
  | cons c rest ih =>
    simp only [occursIn, Bool.or_eq_false_iff] at absent
    rw [replaceAll_cons token value c rest absent.1, ih absent.2]

/-- A stretch without the first character of the token stays, and the replacement goes on behind
it. -/
theorem replaceAll_append_of_apart {mark : Char} {stretch : List Char} (apart : mark ∉ stretch)
    (token value rest : List Char) :
    replaceAll (mark :: token) value (stretch ++ rest) =
      stretch ++ replaceAll (mark :: token) value rest := by
  -- A match would begin with the mark, which none of these characters is.
  induction stretch with
  | nil => rfl
  | cons c stretch ih =>
    have differs : mark ≠ c := fun same => apart (same ▸ List.mem_cons_self)
    have closed : (mark :: token).isPrefixOf (c :: (stretch ++ rest)) = false := by
      simp [List.isPrefixOf, differs]
    rw [List.cons_append, replaceAll_cons _ value c _ closed,
      ih fun there => apart (.tail _ there), List.cons_append]

/-- The length of a replacement grows by the same count with each character of the value. -/
theorem length_replaceFrom (token text : List Char) (skip : Nat) :
    ∃ kept count, ∀ value,
      (replaceFrom token value skip text).length = kept + count * value.length := by
  -- A match counts once, a character beside all matches is kept, and one inside of a match is not.
  induction text generalizing skip with
  | nil => exact ⟨0, 0, fun value => by simp [replaceFrom]⟩
  | cons c rest ih =>
    cases skip with
    | succ skip =>
      obtain ⟨kept, count, same⟩ := ih skip
      exact ⟨kept, count, fun value => by rw [replaceFrom, same]⟩
    | zero =>
      by_cases opens : token.isPrefixOf (c :: rest) = true
      · obtain ⟨kept, count, same⟩ := ih (token.length - 1)
        refine ⟨kept, count + 1, fun value => ?_⟩
        rw [replaceFrom, if_pos opens, List.length_append, same, Nat.succ_mul]
        omega
      · obtain ⟨kept, count, same⟩ := ih 0
        refine ⟨kept + 1, count, fun value => ?_⟩
        rw [replaceFrom, if_neg opens, List.length_cons, same]
        omega

/-- The first occurrence of a token gives way to the value, and what comes before it stays. -/
theorem replaceAll_of_occurs {token text : List Char} (nonempty : token ≠ [])
    (occurs : occursIn token text = true) :
    ∃ before rest, ∀ value,
      replaceAll token value text = before ++ (value ++ replaceAll token value rest) := by
  -- Either the token opens here, or its first occurrence is that of the rest.
  induction text with
  | nil => exact absurd (by simpa [occursIn] using occurs) nonempty
  | cons c rest ih =>
    by_cases opens : token.isPrefixOf (c :: rest) = true
    · obtain ⟨later, same⟩ := List.isPrefixOf_iff_prefix.mp opens
      refine ⟨[], later, fun value => ?_⟩
      rw [← same, replaceAll_token token value later nonempty]
      rfl
    · have closed : token.isPrefixOf (c :: rest) = false := Bool.eq_false_iff.mpr opens
      have further : occursIn token rest = true := by simpa [occursIn, closed] using occurs
      obtain ⟨before, later, same⟩ := ih further
      exact ⟨c :: before, later,
        fun value => by rw [replaceAll_cons token value c rest closed, same]; rfl⟩

/-- Where the token occurs, different values give different texts. -/
theorem replaceAll_injective {token text : List Char} (nonempty : token ≠ [])
    (occurs : occursIn token text = true) {first second : List Char}
    (same : replaceAll token first text = replaceAll token second text) : first = second := by
  -- Both values stand at the same place, and they are equally long because the results are.
  obtain ⟨before, rest, shape⟩ := replaceAll_of_occurs nonempty occurs
  obtain ⟨kept, count, length⟩ := length_replaceFrom token rest 0
  rw [shape, shape, List.append_cancel_left_eq] at same
  have total := congrArg List.length same
  simp only [List.length_append, replaceAll, length] at total
  have scaled : (count + 1) * first.length = (count + 1) * second.length := by
    rw [Nat.succ_mul, Nat.succ_mul]
    omega
  exact (List.append_inj same (Nat.eq_of_mul_eq_mul_left (Nat.succ_pos count) scaled)).1

/-- A string without the token stays as it is. -/
theorem replace_of_absent {token text : String} (absent : contains text token = false)
    (value : String) : replace token value text = text := by
  rw [replace, replaceAll_of_absent absent, String.ofList_toList]

/-- A value that is not empty leaves of a text something, unless there was nothing. -/
theorem replace_eq_empty_iff {token value text : String} (nonempty : value ≠ "") :
    replace token value text = "" ↔ text = "" := by
  have stays : ∀ text, replaceAll token.toList value.toList text = [] ↔ text = [] := by
    intro text
    cases text with
    | nil => exact iff_of_true rfl rfl
    | cons c rest =>
      -- The first character stays, or the value stands in its place.
      unfold replaceAll replaceFrom
      split
      · simp [nonempty]
      · simp
  rw [← String.toList_inj, replace, String.toList_ofList]
  exact (stays text.toList).trans String.toList_eq_nil_iff

/-- A text several times in a row. -/
def copies (count : Nat) (text : List Char) : List Char :=
  (List.replicate count text).flatten

/-- One copy more stands in front of the others. -/
theorem copies_succ (count : Nat) (text : List Char) :
    copies (count + 1) text = text ++ copies count text := by
  rw [copies, List.replicate_succ, List.flatten_cons, copies]

/-- Replacing a token by nothing leaves nothing exactly of copies of it. -/
theorem replaceAll_nothing_eq_nil_iff {token text : List Char} (nonempty : token ≠ []) :
    replaceAll token [] text = [] ↔ ∃ count, text = copies count token := by
  constructor
  · -- The induction is on the length, for a match is passed over as a whole.
    intro gone
    induction measured : text.length using Nat.strongRecOn generalizing text with
    | ind size ih =>
      cases text with
      | nil => exact ⟨0, rfl⟩
      | cons c rest =>
        by_cases opens : token.isPrefixOf (c :: rest) = true
        · obtain ⟨later, same⟩ := List.isPrefixOf_iff_prefix.mp opens
          rw [← same, replaceAll_token token [] later nonempty, List.nil_append] at gone
          have shorter : later.length < size := by
            rw [← measured, ← same, List.length_append]
            have := List.length_pos_of_ne_nil nonempty
            omega
          obtain ⟨count, rfl⟩ := ih _ shorter gone rfl
          exact ⟨count + 1, by rw [copies_succ, same]⟩
        · -- A character that opens no match would stay.
          rw [replaceAll_cons token [] c rest (Bool.eq_false_iff.mpr opens)] at gone
          cases gone
  · rintro ⟨count, rfl⟩
    induction count with
    | zero => rfl
    | succ count ih => rw [copies_succ, replaceAll_token token [] _ nonempty, ih, List.append_nil]

/-- Where the token occurs, different values give different strings. -/
theorem replace_injective {token text : String} (nonempty : token ≠ "")
    (occurs : contains text token = true) {first second : String}
    (same : replace token first text = replace token second text) : first = second := by
  -- Strings are replaced in as their characters are, and they are equal if those are.
  have lists := String.ofList_injective same
  refine String.toList_injective (replaceAll_injective ?_ occurs lists)
  exact fun empty => nonempty (String.toList_injective empty)

end ContainerScan.Text
