import ContainerScan.Text.Cluster
import Mathlib.Tactic.SplitIfs

/-! The columns of a text add up from those of its characters, as long as no character joins others or
asks for a picture. -/

namespace ContainerScan.Text

/-- A text in which every character takes up columns on its own. -/
def IsUnjoined (text : List Char) : Prop :=
  ∀ c ∈ text, c ≠ joiner ∧ c ≠ pictureSelector

instance (text : List Char) : Decidable (IsUnjoined text) :=
  decidable_of_iff (text.all fun c => c ≠ joiner && c ≠ pictureSelector)
    (by simp [IsUnjoined])

namespace IsUnjoined

variable {text more : List Char} {c : Char}

/-- Nothing joins the characters of no text. -/
theorem nil : IsUnjoined [] := nofun

/-- A text is free of joiners if both of its parts are. -/
@[simp]
theorem append_iff : IsUnjoined (text ++ more) ↔ IsUnjoined text ∧ IsUnjoined more :=
  List.forall_mem_append

/-- A text is free of joiners if its first character and the rest are. -/
@[simp]
theorem cons_iff :
    IsUnjoined (c :: text) ↔ (c ≠ joiner ∧ c ≠ pictureSelector) ∧ IsUnjoined text :=
  List.forall_mem_cons

/-- Parts of a text are free of joiners with it. -/
theorem of_subset (unjoined : IsUnjoined text) (subset : more ⊆ text) : IsUnjoined more :=
  fun c member => unjoined c (subset member)

end IsUnjoined

/-- No character takes up more than two columns. -/
theorem columnsOf_le_two (c : Char) : columnsOf c ≤ 2 := by
  unfold columnsOf
  dsimp only
  split_ifs <;> omega

/-- The columns of the characters of a text on their own. -/
def ownColumns : List Char → Nat
  | [] => 0
  | c :: rest => columnsOf c + ownColumns rest

@[simp]
theorem ownColumns_nil : ownColumns [] = 0 := rfl

@[simp]
theorem ownColumns_cons (c : Char) (text : List Char) :
    ownColumns (c :: text) = columnsOf c + ownColumns text := rfl

@[simp]
theorem ownColumns_append (text more : List Char) :
    ownColumns (text ++ more) = ownColumns text + ownColumns more := by
  induction text with
  | nil => simp
  | cons c rest ih => simp [ih, Nat.add_assoc]

/-- Characters without columns have none together. -/
theorem ownColumns_eq_zero {text : List Char} (none : ∀ c ∈ text, columnsOf c = 0) :
    ownColumns text = 0 := by
  -- The columns of a text are those of its characters.
  induction text with
  | nil => rfl
  | cons c rest ih =>
    obtain ⟨own, others⟩ := List.forall_mem_cons.mp none
    rw [ownColumns_cons, own, ih others]

/-- A part from the front on has no more columns than the text. -/
theorem ownColumns_le_of_isPrefix {part text : List Char} (front : part <+: text) :
    ownColumns part ≤ ownColumns text := by
  obtain ⟨rest, rfl⟩ := front
  rw [ownColumns_append]
  exact Nat.le_add_right _ _

/-- The columns of a text without joiners are those of its characters. -/
theorem columnsFrom_eq (latest : Option Char) {text : List Char} (unjoined : IsUnjoined text) :
    columnsFrom latest text = ownColumns text := by
  -- Without joiners and selectors no character takes on the width of another one.
  fun_induction columnsFrom latest text with
  | case1 => rfl
  | case5 _ c => simp
  | case8 latest c next rest _ _ ih =>
    rw [ownColumns_cons, ih (IsUnjoined.cons_iff.mp unjoined).2]
  | _ => simp at unjoined

/-- The columns of a text without joiners are those of its characters. -/
theorem columns_eq {text : List Char} (unjoined : IsUnjoined text) :
    columns text = ownColumns text :=
  columnsFrom_eq none unjoined

namespace Cluster

/-- The characters of clusters one after the other. -/
def flat (clusters : List Cluster) : List Char :=
  clusters.flatMap characters

@[simp]
theorem flat_nil : flat [] = [] := rfl

@[simp]
theorem flat_cons (cluster : Cluster) (rest : List Cluster) :
    flat (cluster :: rest) = cluster.characters ++ flat rest := rfl

/-- Clusters hold all characters in their order. -/
theorem flat_following (cluster : Cluster) (latest : Option Char) (text : List Char) :
    flat (following cluster latest text) = cluster.characters ++ text := by
  fun_induction following cluster latest text <;> simp_all [extended]

/-- The clusters of a text hold all of its characters in their order. -/
theorem flat_ofText (text : List Char) : flat (ofText text) = text := by
  cases text with
  | nil => rfl
  | cons c rest => exact flat_following _ _ _

/-- A cluster of one character, and of others behind it that take up no columns. -/
def IsMarked (cluster : Cluster) : Prop :=
  ∃ c marks, cluster = ⟨c :: marks, columnsOf c⟩ ∧ ∀ mark ∈ marks, columnsOf mark = 0

/-- A marked cluster stays one with another mark. -/
theorem IsMarked.extended {cluster : Cluster} (marked : cluster.IsMarked) {mark : Char}
    (unseen : columnsOf mark = 0) : (cluster.extended [mark] 0).IsMarked := by
  obtain ⟨c, marks, rfl, none⟩ := marked
  refine ⟨c, marks ++ [mark], rfl, ?_⟩
  simpa [or_imp, forall_and] using ⟨none, unseen⟩

/-- A character on its own is a marked cluster. -/
theorem isMarked_single (c : Char) : IsMarked ⟨[c], columnsOf c⟩ :=
  ⟨c, [], rfl, nofun⟩

/-- Without joiners every cluster is a character with marks. -/
theorem isMarked_of_following {cluster : Cluster} {latest : Option Char} {text : List Char}
    (marked : cluster.IsMarked) (unjoined : IsUnjoined text) :
    ∀ found ∈ following cluster latest text, found.IsMarked := by
  -- Without joiners a cluster grows by marks alone, and all else begins a new one.
  fun_induction following cluster latest text with
  | case1 => simpa using marked
  | case2 | case5 | case6 | case7 => simp_all
  | case3 cluster _ c _ unseen =>
    simp only [IsUnjoined.cons_iff] at unjoined
    simpa using marked.extended (unseen.resolve_left unjoined.1.1)
  | case4 cluster _ c => simpa using ⟨marked, isMarked_single c⟩
  | case8 cluster latest c next rest _ _ unseen ih =>
    exact ih (marked.extended unseen) (IsUnjoined.cons_iff.mp unjoined).2
  | case9 cluster latest c next rest _ _ _ ih =>
    simp only [List.mem_cons, forall_eq_or_imp]
    exact ⟨marked, ih (isMarked_single c) (IsUnjoined.cons_iff.mp unjoined).2⟩

/-- Without joiners every cluster of a text is a character with marks. -/
theorem isMarked_of_ofText {text : List Char} (unjoined : IsUnjoined text) :
    ∀ found ∈ ofText text, found.IsMarked := by
  -- The first character begins the first cluster.
  cases text with
  | nil => nofun
  | cons c rest =>
    obtain ⟨⟨noJoiner, noSelector⟩, others⟩ := IsUnjoined.cons_iff.mp unjoined
    refine isMarked_of_following ?_ others
    simpa [noJoiner, noSelector] using isMarked_single c

/-- The columns of a marked cluster are those of its characters. -/
theorem IsMarked.ownColumns {cluster : Cluster} (marked : cluster.IsMarked) :
    ownColumns cluster.characters = cluster.columns := by
  obtain ⟨c, marks, rfl, none⟩ := marked
  rw [ownColumns_cons, ownColumns_eq_zero none, Nat.add_zero]

end Cluster

end ContainerScan.Text
