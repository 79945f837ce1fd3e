import ContainerScan.Display.Wrapping
import ContainerScan.Proofs.Text.Columns
import ContainerScan.Proofs.Text.Parts
import Mathlib.Data.List.Forall2
import Mathlib.Data.List.SplitBy

/-! Wrapping cuts a text into lines that keep all of it but blanks at their ends, as long as every
character takes up columns on its own. -/

namespace ContainerScan.Display

open Text

/-! Blanks in place of tabulators. -/

/-- Parts that are spread hold their own characters, with blanks between them. -/
theorem mem_spread {column : Nat} {parts : List (List Char)} {c : Char}
    (inside : c ∈ spread column parts) : c = ' ' ∨ ∃ part ∈ parts, c ∈ part := by
  fun_induction spread column parts with
  | case1 => contradiction
  | case2 _ part => exact .inr ⟨part, List.mem_singleton_self part, inside⟩
  | case3 _ part rest _ reached next ih =>
    -- The character stands in the first part, in the gap behind it, or further on.
    rw [List.append_assoc, List.mem_append, List.cons_append, List.mem_cons, List.mem_append]
      at inside
    rcases inside with own | blank | gap | further
    · exact .inr ⟨part, List.mem_cons_self, own⟩
    · exact .inl blank
    · exact .inl (List.eq_of_mem_replicate gap)
    · rcases ih further with blank | ⟨other, member, there⟩
      · exact .inl blank
      · exact .inr ⟨other, List.mem_cons_of_mem part member, there⟩

/-- Parts that are spread lose nothing but blanks. -/
theorem solid_spread (column : Nat) (parts : List (List Char)) :
    solid (spread column parts) = solid parts.flatten := by
  have blank : isBlank ' ' = true := by decide
  fun_induction spread column parts with
  | case1 => rfl
  | case2 => simp
  | case3 _ part rest _ reached next ih =>
    -- All that is put between the first part and the others is blank.
    have gap : solid (List.replicate (next - reached) ' ') = [] :=
      solid_of_blank fun c member => (List.eq_of_mem_replicate member) ▸ blank
    simp [ih, gap, blank]

/-- A line without its tabulators loses nothing but blanks. -/
theorem solid_withoutTabs (line : List Char) : solid (withoutTabs line) = solid line := by
  rw [withoutTabs, solid_spread, solid_splitOn (by decide)]

/-- Blanks in place of tabulators join nothing. -/
theorem isUnjoined_withoutTabs {line : List Char} (unjoined : IsUnjoined line) :
    IsUnjoined (withoutTabs line) := fun c inside => by
  rcases mem_spread inside with rfl | ⟨part, member, there⟩
  · decide
  · exact unjoined c (subset_of_mem_splitOn member there)

/-! Words, and parts of those that are too long for a line. -/

/-- The words of a line are all of it. -/
theorem flatten_words (line : List Char) : (words line).flatten = line := by
  have whole : (runs line).flatten = line := List.flatten_splitBy _ _
  unfold words
  split
  · -- Blanks that are a run of their own go to the first word.
    rename_i first second rest found
    rw [found] at whole
    split_ifs <;> simpa using whole
  · exact whole

/-- A word in parts is all of the word. -/
theorem flatten_chopFrom (width : Nat) (part : List Char) (used : Nat) (clusters : List Cluster) :
    (chopFrom width part used clusters).flatten = part ++ Cluster.flat clusters := by
  fun_induction chopFrom width part used clusters <;> simp_all

/-- A word in parts has at least one of them. -/
theorem chopFrom_ne_nil (width : Nat) (part : List Char) (used : Nat) (clusters : List Cluster) :
    chopFrom width part used clusters ≠ [] := by
  fun_induction chopFrom width part used clusters <;> simp_all

/-- No part of a word is wider than a line. -/
theorem ownColumns_le_of_mem_chopFrom {width used : Nat} {part : List Char}
    {clusters : List Cluster} (wide : 2 ≤ width) (marked : ∀ cluster ∈ clusters, cluster.IsMarked)
    (count : used = ownColumns part) (fits : used ≤ width) :
    ∀ found ∈ chopFrom width part used clusters, ownColumns found ≤ width := by
  fun_induction chopFrom width part used clusters with
  | case1 part used => simpa [← count] using fits
  | case2 part used cluster rest beyond ih =>
    -- A new part begins with a cluster, and no cluster is wider than a line.
    obtain ⟨own, others⟩ := List.forall_mem_cons.mp marked
    have narrow : cluster.columns ≤ width := by
      obtain ⟨c, marks, rfl, _⟩ := own
      exact (columnsOf_le_two c).trans wide
    refine List.forall_mem_cons.mpr ⟨count ▸ fits, ?_⟩
    exact ih others own.ownColumns.symm narrow
  | case3 part used cluster rest beyond ih =>
    -- The part goes on, and there was still room for the cluster.
    obtain ⟨own, others⟩ := List.forall_mem_cons.mp marked
    refine ih others ?_ (Nat.le_of_not_lt beyond)
    rw [ownColumns_append, own.ownColumns, count]

/-! Lines that are filled word by word. -/

/-- The parts that a word has when a new line begins with it. -/
def newParts (width : Nat) (word : List Char) : List (List Char) :=
  if width < columns (trimEndOf isBlank word) then Overflow.broken.parts width word else [word]

/-- The parts of a word are all of it. -/
theorem flatten_newParts (width : Nat) (word : List Char) :
    (newParts width word).flatten = word := by
  -- A word that fits stays whole, and a longer one is cut without a loss.
  unfold newParts
  split_ifs
  · exact (flatten_chopFrom ..).trans (Cluster.flat_ofText word)
  · exact List.flatten_singleton

/-- A new line begins with some part of a word, and ends with another one or the same. -/
theorem newParts_append_last (width : Nat) (word : List Char) :
    (newParts width word).dropLast ++ [(newParts width word).getLast?.getD []] =
      newParts width word := by
  -- There is always a last part.
  have some : newParts width word ≠ [] := by
    unfold newParts
    split_ifs
    · exact chopFrom_ne_nil width [] 0 (Cluster.ofText word)
    · exact List.cons_ne_nil _ _
  rw [List.getLast?_eq_some_getLast some, Option.getD_some, List.dropLast_append_getLast]

/-- A line that takes up no more columns than there are, but for blanks at its end. -/
def Fits (width : Nat) (line : List Char) : Prop :=
  IsUnjoined line ∧ ownColumns (trimEndOf isBlank line) ≤ width

/-- The parts of a word fit into lines. -/
theorem fits_of_mem_newParts {width : Nat} {word : List Char} (wide : 2 ≤ width)
    (unjoined : IsUnjoined word) : ∀ part ∈ newParts width word, Fits width part := by
  intro part member
  refine ⟨unjoined.of_subset fun c inside => ?_, ?_⟩
  · rw [← flatten_newParts width word]
    exact List.mem_flatten.mpr ⟨part, member, inside⟩
  · unfold newParts at member
    split_ifs at member with long
    · -- A word that is broken has no part wider than a line.
      refine (ownColumns_le_of_isPrefix prefix_trimEndOf).trans ?_
      exact ownColumns_le_of_mem_chopFrom wide (Cluster.isMarked_of_ofText unjoined) rfl
        (Nat.zero_le _) part member
    · -- A word that is not is no wider itself, but for blanks.
      obtain rfl := List.mem_singleton.mp member
      rw [← columns_eq (unjoined.of_subset prefix_trimEndOf.subset)]
      exact Nat.le_of_not_lt long

/-- A line is filled with a word, or new lines begin with the parts of the word. -/
theorem fill_cons (width : Nat) (line : List Char) (used : Nat) (word : List Char)
    (rest : List (List Char)) : fill .broken width line used (word :: rest) =
      if used + columns (trimEndOf isBlank word) ≤ width then
        fill .broken width (line ++ word) (used + columns word) rest
      else (if line.isEmpty then [] else [line]) ++ (newParts width word).dropLast ++
        fill .broken width ((newParts width word).getLast?.getD [])
          (columns ((newParts width word).getLast?.getD [])) rest := rfl

/-- There is always a line that is being filled. -/
theorem fill_ne_nil (width : Nat) (line : List Char) (used : Nat) (words : List (List Char)) :
    fill .broken width line used words ≠ [] := by
  -- The line that is being filled is never dropped.
  induction words generalizing line used with
  | nil => exact List.cons_ne_nil _ _
  | cons word rest ih =>
    rw [fill_cons]
    split_ifs <;> simp [ih]

/-- Filled lines hold all words in their order. -/
theorem flatten_fill (width : Nat) (line : List Char) (used : Nat) (words : List (List Char)) :
    (fill .broken width line used words).flatten = line ++ words.flatten := by
  induction words generalizing line used with
  | nil => simp [fill]
  | cons word rest ih =>
    rw [fill_cons]
    split_ifs with room empty
    · rw [ih, List.flatten_cons, List.append_assoc]
    -- Whether or not there was an open line, the parts of the word come next.
    all_goals
      have parts : (newParts width word).dropLast.flatten ++
          (newParts width word).getLast?.getD [] = word := by
        conv_rhs => rw [← flatten_newParts width word, ← newParts_append_last width word]
        simp
      simp_all [← List.append_assoc]

/-- A line that fits still does so with a word behind it for which there is room. -/
theorem Fits.append {width : Nat} {line word : List Char} (fits : Fits width line)
    (unjoined : IsUnjoined word)
    (room : ownColumns line + ownColumns (trimEndOf isBlank word) ≤ width) :
    Fits width (line ++ word) := by
  refine ⟨IsUnjoined.append_iff.mpr ⟨fits.1, unjoined⟩, ?_⟩
  rw [trimEndOf_append]
  split_ifs
  · -- Of a word of blanks nothing counts, nor of the blanks before it.
    exact fits.2
  · rwa [ownColumns_append]

/-- Filled lines fit. -/
theorem fits_of_mem_fill {width : Nat} {line : List Char} {used : Nat} {words : List (List Char)}
    (wide : 2 ≤ width) (fits : Fits width line) (count : used = ownColumns line)
    (unjoined : ∀ word ∈ words, IsUnjoined word) :
    ∀ found ∈ fill .broken width line used words, Fits width found := by
  -- The open line fits from word to word, and its columns are counted along.
  induction words generalizing line used with
  | nil => simpa [fill] using fits
  | cons word rest ih =>
    obtain ⟨own, others⟩ := List.forall_mem_cons.mp unjoined
    rw [fill_cons]
    by_cases room : used + columns (trimEndOf isBlank word) ≤ width
    · -- The word goes into the open line.
      rw [if_pos room, count, columns_eq own]
      rw [columns_eq (own.of_subset prefix_trimEndOf.subset), count] at room
      exact ih (fits.append own room) (ownColumns_append line word).symm others
    · -- The open line ends, and the last part of the word begins the next one.
      have parts := fits_of_mem_newParts wide own
      rw [← newParts_append_last width word, List.forall_mem_append, List.forall_mem_singleton]
        at parts
      rw [if_neg room, List.forall_mem_append, List.forall_mem_append]
      refine ⟨⟨?_, parts.1⟩, ih parts.2 (columns_eq parts.2.1) others⟩
      split_ifs
      · nofun
      · exact List.forall_mem_singleton.mpr fits

/-! Lines as they are set. -/

/-- What is kept of a text has at least the columns of its first character, unless it is nothing. -/
theorem trimEndOf_eq_nil_of_narrow {drops : Char → Bool} {c : Char} {text : List Char}
    (narrow : ownColumns (trimEndOf drops (c :: text)) < columnsOf c) :
    trimEndOf drops (c :: text) = [] := by
  -- Whatever is kept begins by the first character, which alone is too wide.
  have front : trimEndOf drops (c :: text) <+: c :: text := prefix_trimEndOf
  cases kept : trimEndOf drops (c :: text) with
  | nil => rfl
  | cons first rest =>
    rw [kept, List.cons_prefix_cons] at front
    rw [kept, ownColumns_cons, front.1] at narrow
    omega

/-- The front of a line that fits keeps all of it but blanks at its end. -/
theorem trimEndOf_fitting {width : Nat} {clusters : List Cluster}
    (marked : ∀ cluster ∈ clusters, cluster.IsMarked)
    (fits : ownColumns (trimEndOf isBlank (Cluster.flat clusters)) ≤ width) :
    trimEndOf isBlank (fitting width clusters) = trimEndOf isBlank (Cluster.flat clusters) := by
  induction clusters generalizing width with
  | nil => rfl
  | cons cluster rest ih =>
    obtain ⟨own, others⟩ := List.forall_mem_cons.mp marked
    rw [fitting]
    by_cases room : cluster.columns ≤ width
    · -- The cluster has its place, and what follows it must fit into the rest of the line.
      rw [if_pos room, Cluster.flat_cons]
      refine trimEndOf_append_congr _ (ih others ?_)
      rw [Cluster.flat_cons, trimEndOf_append] at fits
      split_ifs at fits with blank
      · rw [trimEndOf_eq_nil_iff.mpr (List.all_eq_true.mp blank)]
        exact Nat.zero_le _
      · rw [ownColumns_append, own.ownColumns] at fits
        omega
    · -- Where there is no place, blanks are set for what can only have been blanks.
      obtain ⟨c, marks, rfl, _⟩ := own
      have flat : Cluster.flat (⟨c :: marks, columnsOf c⟩ :: rest) =
          c :: (marks ++ Cluster.flat rest) := rfl
      rw [flat] at fits ⊢
      rw [if_neg room, trimEndOf_eq_nil_of_narrow (fits.trans_lt (Nat.lt_of_not_le room)),
        trimEndOf_eq_nil_iff]
      intro c member
      rw [List.eq_of_mem_replicate member]
      decide

/-- Blanks at the end of a line that are beyond a count are left out, and nothing else. -/
theorem trimEndOf_withoutExcess (count : Nat) (line : List Char) :
    trimEndOf isBlank (withoutExcess count line) = trimEndOf isBlank line := by
  refine trimEndOf_eq_of_isPrefix ?_ (List.take_prefix _ _)
  -- No more characters are left out than there are blanks at the end.
  have shorter : (trimEndOf isBlank line).length ≤ line.length := prefix_trimEndOf.length_le
  refine List.prefix_of_prefix_length_le prefix_trimEndOf (List.take_prefix _ _) ?_
  rw [withoutExcess, List.length_take]
  omega

/-- A line that fits is set without anything but blanks at its end. -/
theorem trimEndOf_set {width : Nat} {line : List Char} (fits : Fits width line) :
    trimEndOf isBlank (Overflow.broken.set width line) = trimEndOf isBlank line := by
  -- What a line loses by being set are blanks at its end, which trimming takes anyway.
  have unjoined : IsUnjoined (withoutExcess width line) :=
    fits.1.of_subset (List.take_subset _ _)
  have kept := trimEndOf_withoutExcess width line
  rw [← kept]
  unfold Overflow.set Overflow.limited
  split_ifs
  · rfl
  · have whole := Cluster.flat_ofText (withoutExcess width line)
    rw [cropped, trimEndOf_fitting (Cluster.isMarked_of_ofText unjoined), whole]
    rw [whole, kept]
    exact fits.2

/-! Whole texts. -/

/-- Lines that are the parts into which a line of a text is cut, but for blanks at their ends. -/
def IsCutInto (line : List Char) (lines : List (List Char)) : Prop :=
  ∃ parts : List (List Char), parts.flatten = withoutTabs line ∧
    lines.map (trimEndOf isBlank) = parts.map (trimEndOf isBlank)

/-- Lines in which a text is set: the parts of one of its lines after those of another. -/
def Sets (text : List Char) (lines : List (List Char)) : Prop :=
  ∃ groups, List.Forall₂ IsCutInto (splitOn '\n' text) groups ∧ groups.flatten = lines

/-- A line that is cut loses nothing but blanks. -/
theorem IsCutInto.solid_flatten {line : List Char} {lines : List (List Char)}
    (cut : IsCutInto line lines) :
    solid lines.flatten = solid line := by
  -- The lines differ from the parts in blanks at their ends.
  obtain ⟨parts, whole, alike⟩ := cut
  have trimmed (texts : List (List Char)) :
      solid (texts.map (trimEndOf isBlank)).flatten = solid texts.flatten := by
    rw [Text.solid_flatten, Text.solid_flatten, List.map_map]
    exact congrArg _ (List.map_congr_left fun text _ => solid_trimEndOf text)
  rw [← trimmed, alike, trimmed, whole, solid_withoutTabs]

/-- A text that is set loses nothing but blanks. -/
theorem Sets.solid_flatten {text : List Char} {lines : List (List Char)} (sets : Sets text lines) :
    solid lines.flatten = solid text := by
  -- The induction takes the lines of the text one by one, with those that each was cut into.
  obtain ⟨groups, cut, rfl⟩ := sets
  rw [← solid_splitOn (show isBlank '\n' = true by decide) text]
  generalize splitOn '\n' text = lines at cut
  induction cut with
  | nil => rfl
  | cons first _ ih => simp [first.solid_flatten, ih]

/-- Wrapping cuts a line. -/
theorem wrapLine_cuts {width : Nat} {line : List Char} (wide : 2 ≤ width)
    (unjoined : IsUnjoined line) : IsCutInto line (wrapLine .broken width line) := by
  have whole : (words (withoutTabs line)).flatten = withoutTabs line := flatten_words _
  have empty : Fits width [] := ⟨.nil, Nat.zero_le width⟩
  refine ⟨fill .broken width [] 0 (words (withoutTabs line)), ?_, ?_⟩
  · rw [flatten_fill, List.nil_append, whole]
  · -- Each filled line fits, so that setting it takes nothing but blanks from it.
    rw [wrapLine, List.map_map]
    refine List.map_congr_left fun part member => trimEndOf_set ?_
    refine fits_of_mem_fill wide empty rfl (fun word there => ?_) part member
    refine (isUnjoined_withoutTabs unjoined).of_subset fun c inside => ?_
    rw [← whole]
    exact List.mem_flatten.mpr ⟨word, there, inside⟩

/-- A text has at least one line. -/
theorem wrap_ne_nil (width : Nat) (text : List Char) : wrap .broken width text ≠ [] := by
  -- A text has at least one line, and that fills at least one.
  intro empty
  rw [wrap, List.flatMap_eq_nil_iff] at empty
  obtain ⟨line, member⟩ := List.exists_mem_of_ne_nil _ (splitOn_ne_nil '\n' text)
  exact fill_ne_nil _ _ _ _ (List.map_eq_nil_iff.mp (empty line member))

/-- Wrapping sets a text. -/
theorem wrap_sets {width : Nat} {text : List Char} (wide : 2 ≤ width)
    (unjoined : IsUnjoined text) : Sets text (wrap .broken width text) := by
  -- Every line of the text is wrapped by itself.
  refine ⟨(splitOn '\n' text).map (wrapLine .broken width), ?_, List.flatMap_def.symm⟩
  rw [List.forall₂_map_right_iff, List.forall₂_same]
  intro line member
  exact wrapLine_cuts wide (unjoined.of_subset (subset_of_mem_splitOn member))

end ContainerScan.Display
