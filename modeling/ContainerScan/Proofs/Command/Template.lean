import ContainerScan.Command
import ContainerScan.Proofs.Text.Masking

/-! Templates as sequences of literal parts and tokens, and the commands that come of them: every
token gives way to its value, and every literal part stays. -/

namespace ContainerScan.Command

/-- A part of a template. -/
inductive Part where
  /-- A text that stands for itself. -/
  | literal (text : String)
  /-- The place of the address of the repository. -/
  | repository
  /-- The place of the branch. -/
  | branch
  deriving DecidableEq, Repr

namespace Part

/-- The token for the address of the repository without the marks around it. -/
def repositoryWord : String := "GIT_REPO"

/-- Whether a part can be told from the tokens around it: a literal one holds no mark of a token, and
is not what stands between the marks of the token for the address. -/
def isApart : Part → Bool
  | literal text => '%' ∉ text.toList ∧ text ≠ repositoryWord
  | _ => true

/-- Whether one part can follow another: two literal ones in a row would be a single one. -/
def precedes : Part → Part → Bool
  | literal _, literal _ => false
  | _, _ => true

/-- What a part is read as, given a text in place of the address and one in place of the branch. -/
def readAs (address name : String) : Part → String
  | literal text => text
  | repository => address
  | branch => name

/-- A literal part is apart if it holds no mark and is not the inside of the token. -/
theorem isApart_literal {text : String} :
    (literal text).isApart = true ↔ '%' ∉ text.toList ∧ text ≠ repositoryWord := by
  simp [isApart]

end Part

/-- A template in parts, in which each literal part reaches from one token to the next. -/
structure Template where
  parts : List Part
  apart : ∀ part ∈ parts, part.isApart = true
  maximal : parts.IsChain fun first second => first.precedes second

namespace Template

/-- A template with a text in place of each address, and one in place of each branch. -/
def readAs (address name : String) (template : Template) : String :=
  String.join (template.parts.map (Part.readAs address name))

/-- A template as it is written, with the tokens in their places. -/
def written (template : Template) : String :=
  template.readAs repositoryToken branchToken

end Template

/-- The characters of parts, given a text in place of the address and one in place of the branch. -/
def charactersOf (address name : String) (parts : List Part) : List Char :=
  parts.flatMap fun part => (part.readAs address name).toList

/-- Parts are read one after the other. -/
theorem charactersOf_cons (address name : String) (part : Part) (rest : List Part) :
    charactersOf address name (part :: rest) =
      (part.readAs address name).toList ++ charactersOf address name rest :=
  rfl

/-- A template is read character by character. -/
theorem Template.readAs_toList (address name : String) (template : Template) :
    (template.readAs address name).toList = charactersOf address name template.parts := by
  rw [Template.readAs, String.toList_join, List.flatMap_map, charactersOf]

/-- A token begins with a mark. -/
theorem exists_mark_of_token {part : Part} (token : ∀ text, part ≠ .literal text)
    (rest : List Part) :
    ∃ more, charactersOf repositoryToken branchToken (part :: rest) = '%' :: more := by
  -- Both tokens begin by their mark.
  cases part with
  | literal text => exact absurd rfl (token text)
  | repository => exact ⟨_, rfl⟩
  | branch => exact ⟨_, rfl⟩

/-- Behind the mark that closes a token the token for the address cannot go on: that would take a
literal part which is what stands between its marks. -/
theorem not_opens_word {parts : List Part} (apart : ∀ part ∈ parts, part.isApart = true)
    (maximal : parts.IsChain fun first second => first.precedes second) :
    ¬Part.repositoryWord.toList ++ ['%'] <+: charactersOf repositoryToken branchToken parts := by
  intro opens
  have unmarked : '%' ∉ Part.repositoryWord.toList := by decide
  cases parts with
  | nil => cases List.prefix_nil.mp opens
  | cons first rest =>
    cases first with
    -- The two tokens begin with a mark, and the word does not.
    | repository => exact absurd (List.cons_prefix_cons.mp opens).1 (by decide)
    | branch => exact absurd (List.cons_prefix_cons.mp opens).1 (by decide)
    | literal text =>
      obtain ⟨plain, other⟩ := Part.isApart_literal.mp (apart _ List.mem_cons_self)
      cases rest with
      | nil =>
        -- The literal part would have to bring the closing mark along.
        have held : '%' ∈ charactersOf repositoryToken branchToken [.literal text] :=
          opens.subset (by simp)
        exact plain (by simpa [charactersOf, Part.readAs] using held)
      | cons second rest =>
        -- What follows the literal part is a token, so the closing mark would be the opening one.
        have follows := (List.isChain_cons_cons.mp maximal).1
        have token : ∀ text, second ≠ .literal text := by
          rintro text rfl
          cases follows
        obtain ⟨more, begun⟩ := exists_mark_of_token token rest
        rw [charactersOf_cons, begun] at opens
        obtain ⟨later, same⟩ := opens
        rw [List.append_assoc] at same
        have longer : Part.repositoryWord.toList <+: text.toList :=
          Text.prefix_of_prefix_mark unmarked ⟨_, same⟩
        have shorter : text.toList <+: Part.repositoryWord.toList :=
          Text.prefix_of_prefix_mark plain ⟨_, same.symm⟩
        exact other (String.toList_injective (shorter.eq_of_length_le longer.length_le))

/-- The word of the token for the branch, between its two marks. -/
theorem branchToken_toList : branchToken.toList = '%' :: ("GIT_BRANCH".toList ++ ['%']) := by
  decide

/-- The token for the address is replaced wherever it stands, and nowhere else. -/
theorem replaceAll_repository (address : String) {parts : List Part}
    (apart : ∀ part ∈ parts, part.isApart = true)
    (maximal : parts.IsChain fun first second => first.precedes second) :
    Text.replaceAll repositoryToken.toList address.toList
        (charactersOf repositoryToken branchToken parts) =
      charactersOf address branchToken parts := by
  -- The induction is on the parts, each of which is told by how its own text begins.
  induction parts with
  | nil => rfl
  | cons part rest ih =>
    have apartRest : ∀ part ∈ rest, part.isApart = true := fun _ member => apart _ (.tail _ member)
    have further := ih apartRest maximal.of_cons
    rw [charactersOf_cons, charactersOf_cons, ← further]
    cases part with
    | literal text =>
      have plain := (Part.isApart_literal.mp (apart _ List.mem_cons_self)).1
      exact Text.replaceAll_append_of_apart plain ..
    | repository => exact Text.replaceAll_token _ _ _ (by decide)
    | branch =>
      -- The other token differs behind its first mark, and its last mark opens no match either.
      have closed : repositoryToken.toList.isPrefixOf
          ('%' :: charactersOf repositoryToken branchToken rest) = false := by
        rw [Bool.eq_false_iff, ne_eq, List.isPrefixOf_iff_prefix]
        intro opens
        exact not_opens_word apartRest maximal.of_cons (List.cons_prefix_cons.mp opens).2
      have inside : '%' ∉ "GIT_BRANCH".toList := by decide
      change Text.replaceAll repositoryToken.toList address.toList (branchToken.toList ++ _) =
        branchToken.toList ++ _
      rw [branchToken_toList, List.cons_append, List.append_assoc,
        Text.replaceAll_cons _ _ _ _ rfl]
      exact congrArg _ ((Text.replaceAll_append_of_apart inside ..).trans
        (congrArg _ (Text.replaceAll_cons _ _ _ _ closed)))

/-- The token for the branch is replaced wherever it stands, and nowhere else, if the address that
has been filled in holds no mark of a token. -/
theorem replaceAll_branch {address : String} (plain : '%' ∉ address.toList) (name : String)
    {parts : List Part} (apart : ∀ part ∈ parts, part.isApart = true) :
    Text.replaceAll branchToken.toList name.toList (charactersOf address branchToken parts) =
      charactersOf address name parts := by
  induction parts with
  | nil => rfl
  | cons part rest ih =>
    have further := ih fun _ member => apart _ (.tail _ member)
    rw [charactersOf_cons, charactersOf_cons, ← further]
    -- Only the tokens for the branch are left with marks, so no match begins anywhere else.
    cases part with
    | literal text =>
      have unmarked := (Part.isApart_literal.mp (apart _ List.mem_cons_self)).1
      exact Text.replaceAll_append_of_apart unmarked ..
    | repository => exact Text.replaceAll_append_of_apart plain ..
    | branch => exact Text.replaceAll_token _ _ _ (by decide)

/-- A template is filled in part by part: each token gives way to its value, and each literal part
stays. -/
theorem fill_template (template : Template) {address name : String} (given : address ≠ "")
    (plain : '%' ∉ address.toList) (named : name ≠ "") :
    fill address name template.written = template.readAs address name := by
  have replaced : Text.replace branchToken name
      (Text.replace repositoryToken address template.written) = template.readAs address name := by
    apply String.toList_injective
    rw [Text.replace, Text.replace, String.toList_ofList, String.toList_ofList, Template.written,
      Template.readAs_toList, Template.readAs_toList,
      replaceAll_repository address template.apart template.maximal,
      replaceAll_branch plain name template.apart]
  unfold fill
  by_cases empty : template.written = ""
  · -- Nothing can be replaced in a template without characters.
    rw [if_pos (Or.inr (Or.inr empty)), ← replaced, empty]
    rfl
  · rw [if_neg (by simp [given, named, empty]), replaced]

-- The word between two marks is read as a token, and the two tokens around it are torn apart.
example : fill "R" "B" "%GIT_BRANCH%GIT_REPO%GIT_BRANCH%" = "%GIT_BRANCHRGIT_BRANCH%" := by
  decide +kernel

/-- Tokens that follow each other without a gap, words between them that are nearly tokens, and a
branch that looks like a token. -/
theorem fill_template_adjacent :
    fill "git@x/y" "%GIT_REPO%" "%GIT_BRANCH%GIT_BRANCH%GIT_REPO%%GIT_REPO%GIT_REP%GIT_BRANCH%" =
      "%GIT_REPO%GIT_BRANCHgit@x/ygit@x/yGIT_REP%GIT_REPO%" :=
  fill_template ⟨[.branch, .literal "GIT_BRANCH", .repository, .repository, .literal "GIT_REP",
    .branch], by decide, by decide⟩ (by decide) (by decide) (by decide)

end ContainerScan.Command
