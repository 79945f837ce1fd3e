import ContainerScan.Text.Blank
import Mathlib.Data.List.DropRight
import Mathlib.Data.List.Infix

/-! Texts without the blanks at their end. -/

namespace ContainerScan.Text

variable {drops : Char → Bool} {text kept ending : List Char}

/-- A text is what is kept of it, and an end of characters that are left out. -/
theorem exists_trimEndOf_append (drops : Char → Bool) (text : List Char) :
    ∃ ending, (∀ c ∈ ending, drops c = true) ∧ trimEndOf drops text ++ ending = text :=
  ⟨text.rtakeWhile drops, fun _ => List.mem_rtakeWhile_imp, List.rdropWhile_append_rtakeWhile⟩

/-- What is kept of a text is the front of it. -/
theorem prefix_trimEndOf : trimEndOf drops text <+: text :=
  List.rdropWhile_prefix ..

/-- Nothing is kept of a text if all of its characters are left out. -/
theorem trimEndOf_eq_nil_iff : trimEndOf drops text = [] ↔ ∀ c ∈ text, drops c = true :=
  List.rdropWhile_eq_nil_iff

/-- Leaving out the end a second time changes nothing. -/
theorem trimEndOf_trimEndOf : trimEndOf drops (trimEndOf drops text) = trimEndOf drops text :=
  List.rdropWhile_idempotent _ _

/-- What stands before a text is kept as long as anything of the text is. -/
theorem trimEndOf_append (front text : List Char) :
    trimEndOf drops (front ++ text) =
      if text.all drops then trimEndOf drops front else front ++ trimEndOf drops text := by
  rw [trimEndOf, List.reverse_append, List.dropWhile_append]
  -- Both sides ask whether anything is kept of the text.
  have asked : (text.reverse.dropWhile drops).isEmpty = text.all drops := by
    rw [Bool.eq_iff_iff, List.isEmpty_iff, List.dropWhile_eq_nil_iff, List.all_eq_true]
    simp only [List.mem_reverse]
  rw [asked]
  split_ifs
  · rfl
  · rw [List.reverse_append, List.reverse_reverse, trimEndOf]

/-- Characters that are left out make no difference at the end. -/
theorem trimEndOf_append_of_all (dropped : ∀ c ∈ ending, drops c = true) :
    trimEndOf drops (text ++ ending) = trimEndOf drops text := by
  rw [trimEndOf_append, if_pos (List.all_eq_true.mpr dropped)]

/-- What stands before two texts makes no difference between them. -/
theorem trimEndOf_append_congr {other : List Char} (front : List Char)
    (same : trimEndOf drops text = trimEndOf drops other) :
    trimEndOf drops (front ++ text) = trimEndOf drops (front ++ other) := by
  -- What is trimmed of the front depends on whether the end is trimmed away as a whole.
  have alike : text.all drops = other.all drops := by
    rw [Bool.eq_iff_iff, List.all_eq_true, List.all_eq_true, ← trimEndOf_eq_nil_iff, same,
      trimEndOf_eq_nil_iff]
  rw [trimEndOf_append, trimEndOf_append, same, alike]

/-- A part of a text from its front on is kept alike if it is long enough. -/
theorem trimEndOf_eq_of_isPrefix (long : trimEndOf drops text <+: kept) (front : kept <+: text) :
    trimEndOf drops kept = trimEndOf drops text := by
  obtain ⟨ending, dropped, whole⟩ := exists_trimEndOf_append drops text
  obtain ⟨more, rfl⟩ := long
  obtain ⟨rest, behind⟩ := front
  -- What the part has beyond that is the front of the end.
  have split : more ++ rest = ending := by
    rw [List.append_assoc] at behind
    exact List.append_cancel_left (behind.trans whole.symm)
  rw [trimEndOf_append_of_all, trimEndOf_trimEndOf]
  exact fun c member => dropped c (split ▸ List.mem_append_left rest member)

end ContainerScan.Text
