import ContainerScan.Display.Markup
import ContainerScan.Proofs.Text.Columns
import Mathlib.Data.List.TakeWhile

/-! What texts with tags show: a text without brackets shows itself but for its codes and controls,
and what stands before a text changes nothing of it. -/

namespace ContainerScan.Display

open Text

/-! Pictures. -/

namespace Shortcode

/-- A character that is no colon is in no code. -/
theorem pictured_cons {c : Char} (other : c ≠ ':') (text : List Char) :
    pictured (c :: text) = c :: pictured text := by
  simp [pictured, picturedFrom, other]

end Shortcode

/-! The pieces of a text. -/

/-- A character that opens neither a tag nor a code, and that guards no tag. -/
def isNeutral (c : Char) : Bool :=
  c ≠ '[' && c ≠ '\\' && c ≠ ':' && !isTerminalControl c

section

variable {c : Char} {before text rest tag : List Char}

/-- No tag is found at a character that neither opens nor guards one. -/
theorem escapedTag?_of_head (bracket : c ≠ '[') (guard : c ≠ '\\') :
    escapedTag? (c :: rest) = none := by
  simp [escapedTag?, guard, bracket]

/-- A character that guards no bracket stays. -/
theorem unescaped_cons (guard : c ≠ '\\') : unescaped (c :: text) = c :: unescaped text := by
  simp [unescaped, guard]

/-- Characters that neither open nor guard a tag are read before what follows. -/
theorem piecesFrom_append {front : List Char} (neutral : front.all isNeutral = true) :
    piecesFrom before 0 (front ++ rest) = piecesFrom (front.reverse ++ before) 0 rest := by
  -- Neutral characters open no tag, so each joins the text before.
  induction front generalizing before with
  | nil => rfl
  | cons c front ih =>
    rw [List.all_cons, Bool.and_eq_true] at neutral
    obtain ⟨own, others⟩ := neutral
    simp only [isNeutral, Bool.and_eq_true, decide_eq_true_eq] at own
    rw [List.cons_append, piecesFrom, escapedTag?_of_head own.1.1.1 own.1.1.2]
    simpa using ih others

/-- Characters to pass over are passed over. -/
theorem piecesFrom_skip (skipped : List Char) :
    piecesFrom before skipped.length (skipped ++ rest) = piecesFrom before 0 rest := by
  induction skipped with
  | nil => rfl
  | cons c skipped ih => simpa [piecesFrom] using ih

/-- A tag between brackets is found where it stands. -/
theorem escapedTag?_of_tag {first : Char} (opens : opensTag first = true)
    (inside : (first :: tag).all (!isBracket ·) = true) :
    escapedTag? ('[' :: first :: (tag ++ ']' :: rest)) = some (0, first :: tag, rest) := by
  -- The bracket ends the tag, for none stands inside of it.
  have inside : ∀ c ∈ first :: tag, (!isBracket c) = true := List.all_eq_true.mp inside
  have ends : (!isBracket ']') = false := by decide
  have content : (first :: tag ++ ']' :: rest).takeWhile (!isBracket ·) = first :: tag := by
    rw [List.takeWhile_append_of_pos inside, List.takeWhile_cons_of_neg (by simp [ends]),
      List.append_nil]
  have behind : (first :: tag ++ ']' :: rest).dropWhile (!isBracket ·) = ']' :: rest := by
    rw [List.dropWhile_append_of_pos inside, List.dropWhile_cons_of_neg (by simp [ends])]
  have found : tag? (first :: (tag ++ ']' :: rest)) = some (first :: tag, rest) := by
    unfold tag?
    rw [← List.cons_append, content, behind]
    exact if_pos opens
  simp [escapedTag?, found]

/-- A tag ends the piece before it, and the pieces of what follows it are read anew. -/
theorem piecesFrom_tag {first : Char} (opens : opensTag first = true)
    (inside : (first :: tag).all (!isBracket ·) = true) :
    piecesFrom before 0 ('[' :: first :: (tag ++ ']' :: rest)) =
      .plain (unescaped before.reverse) :: .plain [] :: .ofTag (.ofText (first :: tag)) ::
        piecesFrom [] 0 rest := by
  -- The characters of the tag are counted off before reading goes on.
  have skipped : (first :: (tag ++ ']' :: rest)).length - rest.length =
      (first :: (tag ++ [']'])).length := by
    simp only [List.length_append, List.length_cons, List.length_nil]
    omega
  have onward : piecesFrom [] (first :: (tag ++ [']'])).length
      (first :: (tag ++ [']']) ++ rest) = piecesFrom [] 0 rest := piecesFrom_skip _
  rw [piecesFrom, escapedTag?_of_tag opens inside]
  simp only [escapedPieces, skipped]
  simpa using onward

end

/-! What pieces show. -/

section

variable {tags : List Tag} {shown : List Char}

/-- A piece between tags shows its text with pictures. -/
theorem shownPieces_plain (text : List Char) (rest : List Piece) :
    shownPieces tags (.plain text :: rest) =
      (shownPieces tags rest).map fun others => Shortcode.pictured text ++ others := by
  rw [shownPieces]
  cases shownPieces tags rest <;> rfl

/-- A character in front that has no meaning is shown in front, and changes nothing else. -/
theorem shownPieces_piecesFrom_concat {c : Char} (neutral : isNeutral c = true)
    (before : List Char) (skip : Nat) (text : List Char) :
    shownPieces tags (piecesFrom (before ++ [c]) skip text) =
      (shownPieces tags (piecesFrom before skip text)).map (c :: ·) := by
  simp only [isNeutral, Bool.and_eq_true, decide_eq_true_eq] at neutral
  obtain ⟨⟨⟨_, guard⟩, colon⟩, _⟩ := neutral
  have first (before : List Char) (pieces : List Piece) :
      shownPieces tags (.plain (unescaped (before ++ [c]).reverse) :: pieces) =
        (shownPieces tags (.plain (unescaped before.reverse) :: pieces)).map (c :: ·) := by
    rw [List.reverse_concat, unescaped_cons guard, shownPieces_plain, shownPieces_plain,
      Shortcode.pictured_cons colon]
    cases shownPieces tags pieces <;> rfl
  -- The character belongs to the piece that is being read, which is the first one.
  fun_induction piecesFrom before skip text with
  | case1 before => exact first before []
  | case2 before skip d rest ih => exact ih
  | case3 before d rest count tag after found ih =>
    rw [piecesFrom, found]
    exact first before _
  | case4 before d rest none ih =>
    rw [piecesFrom, none]
    exact ih

/-- What stands before a text is shown before it if it has no meaning. -/
theorem shownPieces_append {front : List Char} (neutral : front.all isNeutral = true)
    (text : List Char) :
    shownPieces tags (pieces (front ++ text)) =
      (shownPieces tags (pieces text)).map (front ++ ·) := by
  -- A neutral character stays alone, so it can be split off in front of the rest.
  induction front with
  | nil => cases found : shownPieces tags (pieces text) <;> simp [found, Except.map]
  | cons c front ih =>
    rw [List.all_cons, Bool.and_eq_true] at neutral
    obtain ⟨own, others⟩ := neutral
    have single : [c].all isNeutral = true := by
      rw [List.all_cons, own]
      rfl
    have step : pieces (c :: front ++ text) = piecesFrom ([] ++ [c]) 0 (front ++ text) :=
      piecesFrom_append single
    rw [step, shownPieces_piecesFrom_concat own]
    have rest := ih others
    unfold pieces at rest ⊢
    rw [rest]
    cases shownPieces tags (piecesFrom [] 0 text) <;> rfl

/-- A tag in front does what it does, and shows nothing itself. -/
theorem shownPieces_tag {first : Char} {tag : List Char} (opens : opensTag first = true)
    (inside : (first :: tag).all (!isBracket ·) = true) (text : List Char) :
    shownPieces tags (pieces ('[' :: first :: (tag ++ ']' :: text))) =
      shownPieces tags (.ofTag (.ofText (first :: tag)) :: pieces text) := by
  -- The plain pieces around the tag are empty and show nothing.
  have nothing (others : Except Failure (List Char)) :
      (others.map fun shown => Shortcode.pictured [] ++ shown) = others := by
    cases others <;> rfl
  rw [pieces, piecesFrom_tag opens inside, List.reverse_nil, shownPieces_plain, unescaped, nothing,
    shownPieces_plain, nothing, pieces]

/-- A tag without a sign of equality is all name. -/
theorem Tag.ofText_of_not_mem {name : List Char} (free : '=' ∉ name) :
    Tag.ofText name = ⟨name, none⟩ := by
  -- Without a sign of equality there are no parameters.
  have all : name.dropWhile (· ≠ '=') = [] := by
    rw [List.dropWhile_eq_nil_iff]
    intro c member
    simpa using ne_of_mem_of_not_mem member free
  rw [Tag.ofText, all]

/-- A tag that names a style opens the style. -/
theorem shownPieces_opening {first : Char} {name style : List Char}
    (opens : opensTag first = true) (letter : first ≠ '/')
    (inside : (first :: name).all (!isBracket ·) = true) (free : '=' ∉ first :: name)
    (described : Style.normalized (first :: name) = .ok style) (text : List Char) :
    shownPieces tags (pieces ('[' :: first :: (name ++ ']' :: text))) =
      shownPieces (⟨style, none⟩ :: tags) (pieces text) := by
  -- A tag that does not begin by a slash opens a style.
  have opening : Piece.ofTag ⟨first :: name, none⟩ = .opening ⟨first :: name, none⟩ := by
    simp [Piece.ofTag, letter]
  rw [shownPieces_tag opens inside, Tag.ofText_of_not_mem free, opening, shownPieces, described]
  rfl

/-- A tag that names the latest open style closes that. -/
theorem shownPieces_closing {name style : List Char} (some : name ≠ []) (bare : trim name = name)
    (inside : ('/' :: name).all (!isBracket ·) = true) (free : '=' ∉ '/' :: name)
    (described : Style.normalized name = .ok style) (text : List Char) :
    shownPieces (⟨style, none⟩ :: tags) (pieces ('[' :: '/' :: (name ++ ']' :: text))) =
      shownPieces tags (pieces text) := by
  -- The latest open tag has the style that is closed, and without parameters it may close.
  have closing : Piece.ofTag ⟨'/' :: name, none⟩ = .closing name := by
    simp [Piece.ofTag, bare, some]
  have may : Tag.mayClose ⟨style, none⟩ = true := by
    unfold Tag.mayClose
    split <;> simp_all
  rw [shownPieces_tag (by decide) inside, Tag.ofText_of_not_mem free, closing, shownPieces,
    described]
  simp [closed?, may, bind, Except.bind]

/-- The name of a tag that closes begins with its dash. -/
theorem Tag.ofText_slash (tag : List Char) :
    ∃ name, (Tag.ofText ('/' :: tag)).name = '/' :: name := by
  -- With or without parameters, the name keeps its first character.
  have dash : '/' ≠ '=' := by decide
  unfold Tag.ofText
  split
  · exact ⟨tag.takeWhile (· ≠ '='), by simp [dash]⟩
  · exact ⟨tag, rfl⟩

/-- A tag that closes is a failure where no tag is open. -/
theorem shownPieces_unopened {tag : List Char} (inside : ('/' :: tag).all (!isBracket ·) = true)
    (text : List Char) :
    (shownPieces [] (pieces ('[' :: '/' :: (tag ++ ']' :: text)))).isOk = false := by
  obtain ⟨name, named⟩ := Tag.ofText_slash tag
  have closing : Piece.ofTag (.ofText ('/' :: tag)) =
      if (trim name).isEmpty then .closingLatest else .closing (trim name) := by
    simp only [Piece.ofTag, named]
  rw [shownPieces_tag (by decide) inside, closing]
  split_ifs
  · rfl
  · -- Whatever its name describes, there is none to close.
    rw [shownPieces]
    cases Style.normalized (trim name) <;> rfl

/-- A text without tags shows itself with pictures. -/
theorem shownPieces_of_single {text : List Char} (single : pieces text = [.plain text]) :
    shownPieces tags (pieces text) = .ok (Shortcode.pictured text) := by
  rw [single, shownPieces_plain]
  simp [shownPieces, Except.map]

end

/-- A text in which every character stands for itself: there are no tags in it and no codes, and
nothing that joins characters. -/
structure IsPlain (text : List Char) : Prop where
  untagged : pieces text = [.plain text]
  unpictured : Shortcode.pictured text = text
  unjoined : IsUnjoined text

instance (text : List Char) : Decidable (IsPlain text) :=
  -- Each of the three conditions can be decided.
  decidable_of_iff
    (pieces text = [.plain text] ∧ Shortcode.pictured text = text ∧ IsUnjoined text)
    ⟨fun ⟨tag, picture, join⟩ => ⟨tag, picture, join⟩,
      fun ⟨tag, picture, join⟩ => ⟨tag, picture, join⟩⟩

/-- A text without tags always shows something. -/
theorem render_of_single {text : String} (single : pieces text.toList = [.plain text.toList]) :
    render text = .ok (withoutControls (Shortcode.pictured text.toList)) := by
  rw [render, shownPieces_of_single single]
  rfl

/-- A text whose first tag closes one is a failure. -/
theorem render_unopened {text : String} {front tag rest : List Char}
    (neutral : front.all isNeutral = true) (inside : ('/' :: tag).all (!isBracket ·) = true)
    (written : text.toList = front ++ '[' :: '/' :: (tag ++ ']' :: rest)) :
    (render text).isOk = false := by
  -- What stands in front of the tag shows itself and opens nothing.
  have refused := shownPieces_unopened inside rest
  rw [render, written, shownPieces_append neutral]
  cases shown : shownPieces [] (pieces ('[' :: '/' :: (tag ++ ']' :: rest))) with
  | error failure => rfl
  | ok found =>
    rw [shown] at refused
    cases refused

/-- A text in which every character stands for itself shows itself, but for what a terminal would act
on. -/
theorem IsPlain.render {text : String} (plain : IsPlain text.toList) :
    render text = .ok (withoutControls text.toList) := by
  rw [render_of_single plain.untagged, plain.unpictured]

/-- Without what a terminal would act on no more is joined. -/
theorem isUnjoined_withoutControls {text : List Char} (unjoined : IsUnjoined text) :
    IsUnjoined (withoutControls text) :=
  unjoined.of_subset List.filter_sublist.subset

end ContainerScan.Display
