import ContainerScan.Proofs.Text.Substitution

/-! Masking: a token does not survive its replacement by a value that is set apart from it. -/

namespace ContainerScan.Text

/-- A stretch that opens a text and does not hold a mark in it stands before the mark. -/
theorem prefix_of_prefix_mark {stretch before rest : List Char} {mark : Char}
    (apart : mark ∉ stretch) (opens : stretch <+: before ++ mark :: rest) : stretch <+: before := by
  rcases List.prefix_or_prefix_of_prefix opens (List.prefix_append before (mark :: rest)) with
    shorter | longer
  · exact shorter
  · -- If it went on behind what stands before the mark, it would hold the mark.
    obtain ⟨more, rfl⟩ := longer
    rw [List.prefix_append_right_inj] at opens
    cases more with
    | nil => simp
    | cons c more =>
      obtain ⟨rfl, _⟩ := List.cons_prefix_cons.mp opens
      simp at apart

/-- A token that does not hold a mark occurs on one side of it. -/
theorem infix_mark {token before rest : List Char} {mark : Char} (apart : mark ∉ token)
    (nonempty : token ≠ []) (occurs : token <:+: before ++ mark :: rest) :
    token <:+: before ∨ token <:+: rest := by
  -- The token has no mark in it, so it does not reach over one.
  induction before with
  | nil =>
    rcases List.infix_cons_iff.mp occurs with opens | further
    · have nothing : token <+: [] := prefix_of_prefix_mark apart opens
      exact absurd (List.prefix_nil.mp nothing) nonempty
    · exact Or.inr further
  | cons c before ih =>
    rcases List.infix_cons_iff.mp occurs with opens | further
    · have here : token <+: c :: before := prefix_of_prefix_mark apart opens
      exact Or.inl here.isInfix
    · rcases ih further with here | there
      · exact Or.inl (here.trans (List.infix_cons_iff.mpr (Or.inr List.infix_rfl)))
      · exact Or.inr there

/-- A token that opens a text gives way to the value. -/
theorem replaceAll_of_opens {token text : List Char} (opens : token <+: text)
    (nonempty : token ≠ []) (value : List Char) :
    ∃ rest, text = token ++ rest ∧
      replaceAll token value text = value ++ replaceAll token value rest := by
  obtain ⟨rest, rfl⟩ := opens
  exact ⟨rest, rfl, replaceAll_token token value rest nonempty⟩

/-- A character at which no token opens the text stays. -/
theorem replaceAll_of_not_opens {token rest : List Char} {c : Char}
    (other : ¬token <+: c :: rest) (value : List Char) :
    replaceAll token value (c :: rest) = c :: replaceAll token value rest := by
  refine replaceAll_cons token value c rest ?_
  rwa [Bool.eq_false_iff, ne_eq, List.isPrefixOf_iff_prefix]

/-- A stretch without the first character of the value opens a replacement only where it opened the
text itself. -/
theorem prefix_of_prefix_replaceAll {token stretch text value : List Char} {mark : Char}
    (nonempty : token ≠ []) (apart : mark ∉ stretch)
    (opens : stretch <+: replaceAll token (mark :: value) text) : stretch <+: text := by
  -- The stretch is read character by character, and no value can have begun on the way.
  induction stretch generalizing text with
  | nil => exact List.nil_prefix
  | cons c stretch ih =>
    by_cases matched : token <+: text
    · obtain ⟨rest, _, replaced⟩ := replaceAll_of_opens matched nonempty (mark :: value)
      rw [replaced, List.cons_append] at opens
      obtain ⟨rfl, _⟩ := List.cons_prefix_cons.mp opens
      simp at apart
    · cases text with
      | nil =>
        have empty : c :: stretch = [] := List.prefix_nil.mp opens
        cases empty
      | cons d rest =>
        rw [replaceAll_of_not_opens matched] at opens
        obtain ⟨rfl, further⟩ := List.cons_prefix_cons.mp opens
        exact List.cons_prefix_cons.mpr ⟨rfl, ih (fun there => apart (.tail _ there)) further⟩

/-- After its replacement by a value between two marks, a token is gone if it holds neither of the
marks and is no part of what stands between them. -/
theorem not_infix_replaceAll {token inner : List Char} {left right : Char} (nonempty : token ≠ [])
    (apartLeft : left ∉ token) (apartRight : right ∉ token) (absent : ¬token <:+: inner)
    (text : List Char) :
    ¬token <:+: replaceAll token (left :: (inner ++ [right])) text := by
  -- The induction is on the length, for a match is passed over as a whole.
  induction measured : text.length using Nat.strongRecOn generalizing text with
  | ind size ih =>
    intro occurs
    by_cases matched : token <+: text
    · obtain ⟨rest, rfl, replaced⟩ :=
        replaceAll_of_opens matched nonempty (left :: (inner ++ [right]))
      have shorter : rest.length < size := by
        rw [← measured, List.length_append]
        have := List.length_pos_of_ne_nil nonempty
        omega
      have gone := ih _ shorter rest rfl
      -- An occurrence would be one before the value, inside of it, or behind it.
      rw [replaced, List.cons_append, List.append_assoc] at occurs
      have split : token <:+: [] ∨ token <:+: inner ++ right :: replaceAll token _ rest :=
        infix_mark apartLeft nonempty occurs
      rcases split with nothing | inside
      · exact nonempty (List.infix_nil.mp nothing)
      · rcases infix_mark apartRight nonempty inside with inside | behind
        · exact absent inside
        · exact gone behind
    · cases text with
      | nil => exact nonempty (List.infix_nil.mp occurs)
      | cons c rest =>
        -- An occurrence that opens here would have been a match.
        have closed : ¬token <+: replaceAll token (left :: (inner ++ [right])) (c :: rest) :=
          fun opens => matched (prefix_of_prefix_replaceAll nonempty apartLeft opens)
        rw [replaceAll_of_not_opens matched] at occurs closed
        rcases List.infix_cons_iff.mp occurs with opens | further
        · exact closed opens
        · exact ih rest.length (by simp [← measured]) rest rfl further

end ContainerScan.Text
