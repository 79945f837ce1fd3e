import ContainerScan.Proofs.Text.Blank
import ContainerScan.Text.Parts

/-! What the parts and lines of a text keep of it. -/

namespace ContainerScan.Text

variable {text : List Char}

/-- The characters of a text that are no blanks. -/
def solid (text : List Char) : List Char :=
  text.filter fun c => !isBlank c

@[simp]
theorem solid_nil : solid [] = [] := rfl

@[simp]
theorem solid_cons (c : Char) (text : List Char) :
    solid (c :: text) = if isBlank c then solid text else c :: solid text := by
  cases blank : isBlank c <;> simp [solid, blank]

@[simp]
theorem solid_append (text more : List Char) : solid (text ++ more) = solid text ++ solid more :=
  List.filter_append ..

/-- The characters of several texts that are no blanks. -/
theorem solid_flatten (texts : List (List Char)) :
    solid texts.flatten = (texts.map solid).flatten :=
  List.filter_flatten ..

/-- Nothing but blanks. -/
theorem solid_of_blank (blank : ∀ c ∈ text, isBlank c = true) : solid text = [] := by
  simpa [solid] using blank

/-- Only blanks are left out at the end of a text. -/
@[simp]
theorem solid_trimEndOf (text : List Char) : solid (trimEndOf isBlank text) = solid text := by
  obtain ⟨ending, blank, whole⟩ := exists_trimEndOf_append isBlank text
  conv_rhs => rw [← whole]
  rw [solid_append, solid_of_blank blank, List.append_nil]

/-! Parts between marks. -/

/-- A mark begins a new part, and any other character stands in the first part. -/
theorem splitOn_cons (mark c : Char) (rest : List Char) :
    splitOn mark (c :: rest) = if c = mark then [] :: splitOn mark rest
      else match splitOn mark rest with
        | part :: parts => (c :: part) :: parts
        | [] => [[c]] := rfl

/-- A text has at least one part. -/
theorem splitOn_ne_nil (mark : Char) (text : List Char) : splitOn mark text ≠ [] := by
  -- The part that is being split off is never dropped.
  cases text with
  | nil => exact List.cons_ne_nil _ _
  | cons c rest =>
    rw [splitOn_cons]
    split_ifs
    · exact List.cons_ne_nil _ _
    · split <;> exact List.cons_ne_nil _ _

/-- The parts of a text are all of it but the marks. -/
theorem flatten_splitOn (mark : Char) (text : List Char) :
    (splitOn mark text).flatten = text.filter (· ≠ mark) := by
  -- The induction takes one character to the first part, or begins a new one at a mark.
  induction text with
  | nil => rfl
  | cons c rest ih =>
    rw [splitOn_cons]
    by_cases marked : c = mark
    · simpa [marked] using ih
    · cases parts : splitOn mark rest with
      | nil => exact absurd parts (splitOn_ne_nil mark rest)
      | cons part others =>
        rw [parts] at ih
        simpa [marked] using ih

/-- A part of a text holds none but its characters. -/
theorem subset_of_mem_splitOn {mark : Char} {part : List Char} (member : part ∈ splitOn mark text) :
    part ⊆ text := fun c inside => by
  have found : c ∈ (splitOn mark text).flatten := List.mem_flatten.mpr ⟨part, member, inside⟩
  rw [flatten_splitOn] at found
  exact List.mem_of_mem_filter found

/-- Where the marks are blanks, the parts of a text lose nothing else. -/
theorem solid_splitOn {mark : Char} (blank : isBlank mark = true) (text : List Char) :
    solid (splitOn mark text).flatten = solid text := by
  rw [flatten_splitOn, solid, solid, List.filter_filter]
  refine List.filter_congr fun c _ => ?_
  by_cases marked : c = mark <;> simp [marked, blank]

/-! Lines. -/

/-- What ends a line is a blank. -/
theorem isBlank_of_endsLine {c : Char} (ends : endsLine c = true) : isBlank c = true := by
  -- Each character that ends a line is one of the blanks.
  simp only [endsLine, List.contains_eq_mem, List.mem_cons, List.not_mem_nil, or_false,
    decide_eq_true_eq] at ends
  simp only [isBlank, isSpace, Bool.or_eq_true, Bool.and_eq_true, decide_eq_true_eq, beq_iff_eq]
  omega

/-- Ends of lines that become alike are blanks before and after that. -/
theorem solid_unifiedLines (text : List Char) : solid (unifiedLines text) = solid text := by
  have newline : isBlank '\n' = true := by decide
  have carriage : isBlank '\r' = true := by decide
  fun_induction unifiedLines text <;> simp_all

/-- The lines of a text lose nothing but blanks. -/
theorem solid_linesOf (text : List Char) : solid (linesOf text).flatten = solid text := by
  -- What ends a line is a blank, and so is what stands for it.
  rw [linesOf, solid_splitOn (by decide), ← solid_unifiedLines text]
  induction unifiedLines text with
  | nil => rfl
  | cons c rest ih =>
    by_cases ends : endsLine c = true
    · simp [ends, ih, isBlank_of_endsLine ends, show isBlank '\n' = true by decide]
    · simp [ends, ih]

/-- What a line of a text holds stands in the text, unless it is a blank. -/
theorem mem_of_mem_linesOf {line : List Char} {c : Char} (member : line ∈ linesOf text)
    (inside : c ∈ line) (notBlank : isBlank c = false) : c ∈ text := by
  -- Of the text only its blanks may be lost.
  have found : c ∈ solid (linesOf text).flatten :=
    List.mem_filter.mpr ⟨List.mem_flatten.mpr ⟨line, member, inside⟩, by simp [notBlank]⟩
  rw [solid_linesOf] at found
  exact List.mem_of_mem_filter found

end ContainerScan.Text
