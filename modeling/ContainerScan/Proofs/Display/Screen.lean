import ContainerScan.Display.Screen
import ContainerScan.Proofs.Display.Markup
import ContainerScan.Proofs.Display.Wrapping
import ContainerScan.Proofs.Step

/-! What is printed: a labelled value fails only where a tag in it does, and what it shows is printed
without any loss but of blanks where lines end. -/

namespace ContainerScan

namespace Display

open Text

/-! Blocks. -/

/-- A label as it is shown. -/
def labelText (label : String) : List Char :=
  ' ' :: ' ' :: padded 12 label.toList ++ [' ']

/-- A label whose characters have no meaning stays so in its column. -/
theorem isNeutral_padded {width : Nat} {label : List Char} (neutral : label.all isNeutral = true) :
    (padded width label).all isNeutral = true := by
  -- A text is padded by blanks alone, and these are neutral.
  have blank : isNeutral ' ' = true := by decide
  rw [padded, List.all_append, neutral, Bool.true_and, List.all_eq_true]
  intro c member
  rw [List.eq_of_mem_replicate member, blank]

/-- What stands behind a label shows what it shows alone. -/
theorem render_labelled {label : String} (neutral : label.toList.all isNeutral = true)
    (value : String) :
    render (labelled label ++ value) = (render value).map (labelText label ++ ·) := by
  have blank : isNeutral ' ' = true := by decide
  have column : (padded 12 label.toList).all isNeutral = true := isNeutral_padded neutral
  have dim : Style.normalized ['d', 'i', 'm'] = .ok ['d', 'i', 'm'] := by decide +kernel
  have text : (labelled label ++ value).toList =
      [' ', ' '] ++ '[' :: 'd' :: (['i', 'm'] ++ ']' :: (padded 12 label.toList ++
        '[' :: '/' :: (['d', 'i', 'm'] ++ ']' :: ([' '] ++ value.toList)))) := by
    simp [labelled]
  -- The tags around the label leave no style open, so the value is read as it is alone.
  have shown : shownPieces [] (pieces (labelled label ++ value).toList) =
      (shownPieces [] (pieces value.toList)).map (labelText label ++ ·) := by
    rw [text, shownPieces_append (by simp [blank]),
      shownPieces_opening (by decide) (by decide) (by decide) (by decide) dim,
      shownPieces_append column,
      shownPieces_closing (by decide) (by decide) (by decide) (by decide) dim,
      shownPieces_append (by simp [blank])]
    cases shownPieces [] (pieces value.toList) <;> simp [Except.map, labelText]
  -- A label has no control characters that the screen would leave out.
  have kept : withoutControls (labelText label) = labelText label := by
    rw [withoutControls, List.filter_eq_self]
    have plain : (labelText label).all isNeutral = true := by
      simp only [labelText, List.cons_append, List.all_cons, List.all_append, List.all_nil, blank,
        column, Bool.and_true]
    intro c member
    exact (Bool.and_eq_true_iff.mp (List.all_eq_true.mp plain c member)).2
  rw [render, render, shown]
  cases shownPieces [] (pieces value.toList) with
  | error failure => rfl
  | ok found =>
    rw [Except.map, Except.map, Except.map, withoutControls, List.filter_append]
    exact congrArg (fun front => Except.ok (front ++ withoutControls found)) kept

/-- A labelled value is set in lines, if it shows anything. -/
theorem filled_field {label : String} (neutral : label.toList.all isNeutral = true)
    (value : String) : Block.filled (.field label value) =
      (render value).map fun shown => wrap .broken screenWidth (labelText label ++ shown) := by
  rw [Block.filled, textLines, render_labelled neutral]
  cases render value <;> rfl

/-- The result of a scan is set in lines whatever it is, behind its label. -/
theorem filled_result (content : String) : ∃ first rest,
    wrap .broken screenWidth (withoutControls content.toList) = first :: rest ∧
      Block.filled (.result content) = .ok ((labelText "Result" ++ first) :: rest) := by
  -- The label is neutral, and a text is never wrapped into no lines at all.
  have label : render (labelled "Result") = .ok (labelText "Result") := by
    have neutral : "Result".toList.all isNeutral = true := by decide
    have alone := render_labelled neutral ""
    rw [String.append_empty] at alone
    rw [alone]
    rfl
  cases found : wrap .broken screenWidth (withoutControls content.toList) with
  | nil => exact absurd found (wrap_ne_nil _ _)
  | cons first rest =>
    refine ⟨first, rest, rfl, ?_⟩
    rw [Block.filled, resultLines, label, found]
    rfl

/-- A headline is set in a line, if its title shows anything. -/
theorem filled_headline (title : String) : Block.filled (.headline title) =
    (render title).map fun shown => [headlineText shown] := rfl

/-! Printed lines. -/

/-- A line without dashes has no end of a rule in front. -/
theorem afterEnd?_of_not_mem {line : List Char} (free : ruleDash ∉ line) :
    afterEnd? line = none := by
  -- A line without dashes does not begin by any.
  have none : line.takeWhile (· = ruleDash) = [] := by
    cases line with
    | nil => rfl
    | cons c rest =>
      have other : c ≠ ruleDash := fun same => free (same ▸ List.mem_cons_self)
      simp [other]
  unfold afterEnd?
  split
  · rw [none]
    rfl
  · rfl

/-- A line without dashes is printed without blanks at its end. -/
theorem printedLine_of_not_mem {line : List Char} (free : ruleDash ∉ line) :
    (printedLine line).toList = trimEndOf isBlank line := by
  have kept : ruleDash ∉ trimEndOf isBlank line := fun member =>
    free (prefix_trimEndOf.subset member)
  rw [printedLine, ruleTitle?, afterEnd?_of_not_mem kept, Option.bind_none, String.toList_ofList]

/-- The characters of several printed lines. -/
def charactersOf (printed : List String) : List Char :=
  printed.flatMap String.toList

/-- A text without dashes is printed without any loss but of blanks. -/
theorem solid_printedLines {content : List Char} (free : ruleDash ∉ content) :
    solid (charactersOf (printedLines content)) = solid content := by
  have dash : isBlank ruleDash = false := by decide
  have lines : (printedLines content).map (solid ∘ String.toList) = (linesOf content).map solid := by
    rw [printedLines, List.map_map]
    -- What stands in a line stands in the text, so no line is taken for a rule.
    refine List.map_congr_left fun line member => ?_
    have other : ruleDash ∉ line := fun inside => free (mem_of_mem_linesOf member inside dash)
    rw [Function.comp_apply, Function.comp_apply, printedLine_of_not_mem other, solid_trimEndOf]
  rw [charactersOf, List.flatMap_def, solid_flatten, List.map_map, lines, ← solid_flatten,
    solid_linesOf]

/-- A text stands in full between other printed lines: it is set in lines that are printed one after
the other. Only a line that looks like a rule is printed in a shorter form. -/
def Prints (text : List Char) (printed : List String) : Prop :=
  ∃ lines, Sets text lines ∧ lines.flatMap printedLines <:+: printed ∧
    (ruleDash ∉ text → solid (charactersOf (lines.flatMap printedLines)) = solid text)

/-- What stands between printed lines does so when others come first. -/
theorem Prints.append_left {text : List Char} {printed : List String} (prints : Prints text printed)
    (before : List String) : Prints text (before ++ printed) := by
  obtain ⟨lines, sets, there, solid⟩ := prints
  exact ⟨lines, sets, there.trans (List.suffix_append _ _).isInfix, solid⟩

/-- Lines in which a text is set are its lines on paper as well. -/
theorem Sets.solid_printed {text : List Char} {lines : List (List Char)} (sets : Sets text lines)
    (free : ruleDash ∉ text) :
    solid (charactersOf (lines.flatMap printedLines)) = solid text := by
  have dash : isBlank ruleDash = false := by decide
  -- The lines hold no dash either, since setting a text adds nothing but blanks.
  have others : ∀ line ∈ lines, ruleDash ∉ line := fun line member inside => by
    have found : ruleDash ∈ solid lines.flatten :=
      List.mem_filter.mpr ⟨List.mem_flatten.mpr ⟨line, member, inside⟩, by simp [dash]⟩
    rw [sets.solid_flatten] at found
    exact free (List.mem_of_mem_filter found)
  rw [← sets.solid_flatten]
  clear sets
  induction lines with
  | nil => rfl
  | cons line rest ih =>
    obtain ⟨own, more⟩ := List.forall_mem_cons.mp others
    have first := solid_printedLines own
    have later := ih more
    simp only [charactersOf, List.flatMap_cons, List.flatMap_append, List.flatten_cons,
      solid_append] at first later ⊢
    rw [first, later]

end Display

namespace World

open Display

/-- A block that fills lines is printed in them. -/
theorem print_of_filled {block : Block} {lines : List (List Char)}
    (filled : block.filled = .ok lines) (world : World) : print block world =
      .ok () { world with printed := world.printed ++ lines.flatMap printedLines } := by
  rw [print, Block.lines, filled]
  rfl

/-- A block that fills none is a failure. -/
theorem print_of_error {block : Block} {failure : Failure} (refused : block.filled = .error failure)
    (world : World) : print block world = .error failure world := by
  rw [print, Block.lines, refused]
  rfl

/-- Blocks that all fill lines are printed, each of them in its own lines. -/
theorem printAll_of_filled {blocks : List Block}
    (filled : ∀ block ∈ blocks, block.filled.isOk = true) (world : World) :
    ∃ printed, printAll blocks world = .ok () { world with printed := world.printed ++ printed } ∧
      ∀ block ∈ blocks, ∀ lines, block.filled = .ok lines →
        lines.flatMap printedLines <:+: printed := by
  induction blocks generalizing world with
  | nil => exact ⟨[], by simp [printAll, pure, EStateM.pure], nofun⟩
  | cons block rest ih =>
    obtain ⟨first, others⟩ := List.forall_mem_cons.mp filled
    obtain ⟨own, shown⟩ : ∃ lines, block.filled = .ok lines := by
      cases shown : block.filled with
      | error failure => simp [shown, Except.isOk, Except.toBool] at first
      | ok lines => exact ⟨lines, rfl⟩
    obtain ⟨printed, onward, there⟩ :=
      ih others { world with printed := world.printed ++ own.flatMap printedLines }
    refine ⟨own.flatMap printedLines ++ printed, ?_, List.forall_mem_cons.mpr ⟨?_, ?_⟩⟩
    -- The lines of the first block come before those of the others.
    · rw [printAll, Step.bind_of_ok (print_of_filled shown world), onward, List.append_assoc]
    · intro lines again
      obtain rfl := Except.ok.inj (shown.symm.trans again)
      exact (List.prefix_append _ _).isInfix
    · intro other member lines again
      exact (there other member lines again).trans (List.suffix_append _ _).isInfix

/-- A block that fills none ends the printing. -/
theorem printAll_of_error {blocks : List Block}
    (refused : ¬ ∀ block ∈ blocks, block.filled.isOk = true) (world : World) :
    ∃ failure final, printAll blocks world = .error failure final := by
  -- The induction goes to the first block that is refused.
  induction blocks generalizing world with
  | nil => exact absurd nofun refused
  | cons first rest ih =>
    rw [printAll]
    cases shown : first.filled with
    | error failure => exact ⟨failure, world, Step.bind_of_error (print_of_error shown world) _⟩
    | ok lines =>
      rw [Step.bind_of_ok (print_of_filled shown world)]
      refine ih (fun others => refused (List.forall_mem_cons.mpr ⟨?_, others⟩)) _
      rw [shown]
      rfl

end World

end ContainerScan
