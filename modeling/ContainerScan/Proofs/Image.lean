import ContainerScan.Image
import ContainerScan.Proofs.Availability
import Mathlib.Data.List.Basic

/-! References and the versions that they name: a reference is split where its tag or its digest
begins, and a pull asks for the tag of its image exactly where its reference names no version. -/

namespace ContainerScan

open Step

section Split

variable {mark : Char} {text before after : List Char}

/-- A text is split at a mark behind which there is no other. -/
theorem splitAtLast_append (before : List Char) (last : mark ∉ after) :
    splitAtLast mark (before ++ mark :: after) = some (before, after) := by
  -- From the end of the text everything up to the mark is taken.
  have unmarked : ∀ c ∈ after.reverse, decide (c ≠ mark) = true := fun c member =>
    decide_eq_true fun same => last (same ▸ List.mem_reverse.mp member)
  have found : ((before ++ mark :: after).reverse.takeWhile (· ≠ mark)).reverse = after := by
    rw [List.reverse_append, List.reverse_cons, List.append_assoc,
      List.takeWhile_append_of_pos unmarked]
    simp
  have marked : (before ++ mark :: after).contains mark = true := by simp
  have length : (before ++ mark :: after).length - after.length - 1 = before.length := by
    rw [List.length_append, List.length_cons]
    omega
  simp only [splitAtLast, found, marked, length, if_true, List.take_left]

/-- Only a text without the mark is not split. -/
theorem splitAtLast_eq_none_iff : splitAtLast mark text = none ↔ mark ∉ text := by
  simp [splitAtLast]

/-- A text is split only at its last mark. -/
theorem splitAtLast_eq_some_iff :
    splitAtLast mark text = some (before, after) ↔ text = before ++ mark :: after ∧ mark ∉ after := by
  -- Either the text has a mark, and then a last one, or it is not split at all.
  constructor
  · intro split
    by_cases present : mark ∈ text
    · -- The last mark is the first one from the end.
      obtain ⟨later, earlier, back, last⟩ :=
        List.eq_append_cons_of_mem (List.mem_reverse.mpr present)
      have parts : text = earlier.reverse ++ mark :: later.reverse := by
        rw [← List.reverse_reverse text, back]
        simp
      have unmarked : mark ∉ later.reverse := fun member => last (List.mem_reverse.mp member)
      rw [parts, splitAtLast_append _ unmarked] at split
      obtain ⟨rfl, rfl⟩ := Prod.mk.inj (Option.some.inj split)
      exact ⟨parts, unmarked⟩
    · rw [splitAtLast_eq_none_iff.mpr present] at split
      cases split
  · rintro ⟨rfl, last⟩
    exact splitAtLast_append before last

end Split

/-- How a reference names a version: by a digest behind its last `@`, or where it has none of these by
a tag behind its last colon. A colon with a slash behind it belongs to a port and not to a tag. -/
inductive NamesVersion : String → String → String → Prop where
  | digest {repository digest : String} (last : '@' ∉ digest.toList) :
      NamesVersion (repository ++ "@" ++ digest) repository digest
  | tag {repository tag : String} (plain : '@' ∉ repository.toList)
      (last : ∀ mark ∈ ['/', ':', '@'], mark ∉ tag.toList) :
      NamesVersion (repository ++ ":" ++ tag) repository tag

/-- A reference that names a version is split where that begins. -/
theorem NamesVersion.split {reference repository version : String}
    (names : NamesVersion reference repository version) :
    splitReference reference = (repository, some version) := by
  -- Nothing behind the mark of the version holds another mark of that kind.
  cases names with
  | digest last =>
    have split := splitAtLast_append repository.toList last
    simp [splitReference, split]
  | tag plain last =>
    have split := splitAtLast_append repository.toList (last ':' (by simp))
    have unmarked : '@' ∉ repository.toList ++ ':' :: version.toList := by
      simp [plain, last '@' (by simp)]
    simp [splitReference, splitAtLast_eq_none_iff.mpr unmarked, split, last '/' (by simp)]

/-- Whatever is split off a reference is the version that it names. -/
theorem namesVersion_of_split {reference repository version : String}
    (split : splitReference reference = (repository, some version)) :
    NamesVersion reference repository version := by
  -- An `@` anywhere decides first, and only without one does the last colon count.
  simp only [splitReference] at split
  split at split
  case h_1 before digest marked =>
    obtain ⟨parts, last⟩ := splitAtLast_eq_some_iff.mp marked
    obtain ⟨rfl, rfl⟩ : String.ofList before = repository ∧ String.ofList digest = version := by
      simpa using split
    have written : reference = String.ofList before ++ "@" ++ String.ofList digest :=
      String.toList_injective (by simpa using parts)
    rw [written]
    exact .digest (by simpa using last)
  case h_2 unmarked =>
    split at split
    case h_1 before tag marked =>
      obtain ⟨parts, last⟩ := splitAtLast_eq_some_iff.mp marked
      -- A slash behind the colon would leave the reference without a version.
      by_cases port : '/' ∈ tag
      · simp [port] at split
      obtain ⟨rfl, rfl⟩ : String.ofList before = repository ∧ String.ofList tag = version := by
        simpa [port] using split
      have written : reference = String.ofList before ++ ":" ++ String.ofList tag :=
        String.toList_injective (by simpa using parts)
      obtain ⟨front, back⟩ : '@' ∉ before ∧ '@' ∉ tag := by
        simpa [parts] using splitAtLast_eq_none_iff.mp unmarked
      rw [written]
      exact .tag (by simpa using front) (by simpa [last, back] using port)
    case h_2 => simp at split

/-- A reference is split into what names a version, and that version. -/
theorem splitReference_eq_iff {reference repository version : String} :
    splitReference reference = (repository, some version) ↔
      NamesVersion reference repository version :=
  ⟨namesVersion_of_split, NamesVersion.split⟩

/-- Whether a reference names a version at all. -/
def IsVersioned (reference : String) : Prop :=
  ∃ repository version, NamesVersion reference repository version ∧ version ≠ ""

namespace Image

variable {image : Image}

/-- Beside a reference that names a version no tag is asked for. -/
theorem pullTag_of_isVersioned (versioned : IsVersioned image.pullReference) :
    image.pullTag = none := by
  obtain ⟨repository, version, names, given⟩ := versioned
  simp [pullTag, names.split, given]

/-- Beside a reference that names no version the tag of the image is asked for. -/
theorem pullTag_of_not_isVersioned (unversioned : ¬IsVersioned image.pullReference) :
    image.pullTag = some image.tag := by
  unfold pullTag
  split
  · next version split =>
    -- What is split off names the version, unless it is empty.
    have names : NamesVersion image.pullReference (splitReference image.pullReference).1 version :=
      namesVersion_of_split (Prod.ext rfl split)
    have empty : version = "" := by
      by_contra given
      exact unversioned ⟨_, _, names, given⟩
    rw [if_pos empty]
  · rfl

/-- Whether the reference names a version decides about the tag beside it. -/
theorem pullTag_cases (image : Image) :
    IsVersioned image.pullReference ∧ image.pullTag = none ∨
      ¬IsVersioned image.pullReference ∧ image.pullTag = some image.tag := by
  by_cases versioned : IsVersioned image.pullReference
  · exact Or.inl ⟨versioned, pullTag_of_isVersioned versioned⟩
  · exact Or.inr ⟨versioned, pullTag_of_not_isVersioned versioned⟩

end Image

/-- A pull never leaves it open which version is wanted. From an address the tag of the image is asked
for unless the address names a version itself. Without an address, and where the name holds no digest,
the image is pulled under the very reference by which it is looked up, which names its tag. Every wait
for the image looks it up by its name and tag, and makes no other pull than this one. -/
theorem Availability.ensure_names_version (image : Image) (given : image.tag ≠ "")
    (plain : ∀ mark ∈ ['/', ':', '@'], mark ∉ image.tag.toList) :
    (image.canonicalUrl ≠ "" → image.pullReference = image.canonicalUrl ∧
      (IsVersioned image.canonicalUrl ∧ image.pullTag = none ∨
        ¬IsVersioned image.canonicalUrl ∧ image.pullTag = some image.tag)) ∧
    (image.canonicalUrl = "" → '@' ∉ image.name.toList →
      image.pullReference = image.name ++ ":" ++ image.tag ∧
      splitReference image.pullReference = (image.name, some image.tag) ∧
      image.pullTag = none) ∧
    ((∃ tag, image.pullTag = some tag ∧ tag ≠ "") ∨
      image.pullTag = none ∧ IsVersioned image.pullReference) ∧
    ∀ settings logger world,
      let wanted := Availability.of image settings logger
      let lookup : Query := ⟨.images, [], [("name", .string (image.name ++ ":" ++ image.tag))]⟩
      let pulling : Query :=
        ⟨.pull, [.string image.pullReference], [("tag", .text? image.pullTag)]⟩
      World.Asked [lookup] world (after wanted.isLoaded world) ∧
      (∀ limit, World.Asked [pulling] world (after (wanted.pullWithin limit) world)) ∧
      World.AsksOnly (fun query => query = lookup ∨ query = pulling) world
        (after wanted.ensure world) := by
  refine ⟨fun address => ?_, fun own unmarked => ?_, ?_, fun settings logger world => ?_⟩
  · -- What is pulled is the address, and whether it names a version decides.
    have pulled : image.pullReference = image.canonicalUrl := if_neg address
    have decided := image.pullTag_cases
    rw [pulled] at decided
    exact ⟨pulled, decided⟩
  · -- The tag begins behind the last colon, whatever ports and paths the name has before it.
    have pulled : image.pullReference = image.name ++ ":" ++ image.tag := if_pos own
    have names : NamesVersion image.pullReference image.name image.tag := by
      rw [pulled]
      exact .tag unmarked plain
    exact ⟨pulled, names.split, Image.pullTag_of_isVersioned ⟨_, _, names, given⟩⟩
  · -- What is asked for beside a reference without a version is the tag, which is not empty.
    rcases image.pullTag_cases with ⟨versioned, absent⟩ | ⟨-, asked⟩
    · exact Or.inr ⟨absent, versioned⟩
    · exact Or.inl ⟨image.tag, asked, given⟩
  · let wanted := Availability.of image settings logger
    exact ⟨wanted.isLoaded_asked world, fun limit => wanted.pullWithin_asked limit world,
      wanted.ensure_asksOnly.leads world⟩

/-- The tag is named behind the port of a registry, and asked for where only a port is named. -/
theorem Availability.ensure_names_version_port :
    let image : Image := { name := "localhost:5000/scanners/retirejs", tag := "2.0.11" }
    let mirrored : Image := { image with canonicalUrl := "localhost:5000/retirejs" }
    (image.tag ≠ "" ∧ ∀ mark ∈ ['/', ':', '@'], mark ∉ image.tag.toList) ∧
      splitReference image.pullReference = ("localhost:5000/scanners/retirejs", some "2.0.11") ∧
      image.pullTag = none ∧
      ¬IsVersioned mirrored.canonicalUrl ∧ mirrored.pullTag = some "2.0.11" := by
  -- The port of the registry has a colon too, but a slash stands behind it.
  intro image mirrored
  have plain : ∀ mark ∈ ['/', ':', '@'], mark ∉ image.tag.toList := by simp [image]
  obtain ⟨-, own, -⟩ := Availability.ensure_names_version image (by decide) plain
  obtain ⟨-, split, untagged⟩ := own rfl (by decide)
  have tagged : mirrored.pullTag = some "2.0.11" := by decide
  obtain ⟨address, -⟩ := Availability.ensure_names_version mirrored (by decide) plain
  refine ⟨⟨by decide, plain⟩, split, untagged, ?_⟩
  rcases (address (by decide)).2 with ⟨-, absent⟩ | named
  · rw [tagged] at absent
    cases absent
  · exact named

end ContainerScan
