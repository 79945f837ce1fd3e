import ContainerScan.Analyzer.RetireJs
import ContainerScan.Proofs.Json.Reader
import ContainerScan.Proofs.Json.Renderer
import ContainerScan.Report.Encoding

/-! A report is read back from every text that writes it. -/

namespace ContainerScan

namespace Checked

/-- A text is what a string stands for. -/
@[simp] theorem textOrNull_string (content : String) : textOrNull (.string content) = .ok content :=
  rfl

/-- What is right stays right one step further out. -/
@[simp] theorem within_ok {α : Type} (place : Place) (value : α) :
    within place (.ok value) = .ok value :=
  rfl

/-- Parts side by side that are right make what is built from them right. -/
@[simp] theorem apply_ok {α β : Type} (build : α → β) (part : α) :
    apply (.ok build) (.ok part) = .ok (build part) :=
  rfl

/-- Items that are all read back are read back as a list. -/
theorem items_map {α : Type} {check : Json → Checked α} {write : α → Json}
    (back : ∀ part, check (write part) = .ok part) (index : Nat) (parts : List α) :
    items check index (parts.map write) = .ok parts := by
  -- The index tells only where a breach would be, so it stays quantified over.
  induction parts generalizing index with
  | nil => rfl
  | cons part parts ih => simp [items, back, ih, within, both, Except.map]

/-- An array whose items are all read back is read back. -/
theorem arrayOrNull_map {α : Type} {check : Json → Checked α} {write : α → Json}
    (back : ∀ part, check (write part) = .ok part) (parts : List α) :
    arrayOrNull check (.array (parts.map write)) = .ok parts :=
  items_map back 0 parts

end Checked

namespace Report

open Checked

/-- Written texts are read back. -/
@[simp] theorem texts_encode (texts : List String) :
    arrayOrNull text (encodeTexts texts) = .ok texts := by
  have back : ∀ content, text (.string content) = .ok content := fun _ => rfl
  exact arrayOrNull_map back texts

/-- Written identifiers are read back. -/
@[simp] theorem decodeIdentifiers_encode (identifiers : Identifiers) :
    decodeIdentifiers identifiers.encode = .ok identifiers := by
  simp [decodeIdentifiers, Identifiers.encode, model, identifiersOf, member, Json.lookup]

/-- A written weakness is read back. -/
theorem weaknessOf_encode (weakness : Weakness) :
    model .notObject weaknessOf weakness.encode = .ok weakness := by
  simp [Weakness.encode, model, weaknessOf, member, Json.lookup]

/-- A written library is read back. -/
theorem libraryOf_encode (library : Library) :
    model .notObject libraryOf library.encode = .ok library := by
  have weaknesses := arrayOrNull_map weaknessOf_encode library.weaknesses
  simp [Library.encode, model, libraryOf, member, Json.lookup, weaknesses]

/-- A written file is read back. -/
theorem scannedFileOf_encode (scanned : ScannedFile) :
    model .notObject scannedFileOf scanned.encode = .ok scanned := by
  have libraries := arrayOrNull_map libraryOf_encode scanned.libraries
  simp [ScannedFile.encode, model, scannedFileOf, member, Json.lookup, libraries]

/-- The report on some files as an object. -/
def encodeFiles (files : List ScannedFile) : Json :=
  .object [("data", .array (files.map ScannedFile.encode))]

/-- A written report is read back, without messages and errors. -/
theorem decode_encodeFiles (files : List ScannedFile) :
    decode (encodeFiles files) = .ok ⟨files, .null, .null⟩ := by
  have back := arrayOrNull_map scannedFileOf_encode files
  simp [decode, encodeFiles, model, documentOf, member, Json.lookup, back]

/-! A written report is not nested deep. -/

section Nesting

open Json

/-- An array is one level deeper than its items. -/
theorem nestingItems_map {α : Type} {write : α → Json} {bound : Nat}
    (shallow : ∀ part, (write part).nesting ≤ bound) (parts : List α) :
    nestingItems (parts.map write) ≤ bound + 1 := by
  -- Each item adds a level, and the deepest one counts.
  induction parts with
  | nil => simp [nestingItems]
  | cons part parts ih =>
    have first := shallow part
    simp only [List.map_cons, nestingItems]
    omega

/-- Texts are an array of strings. -/
theorem texts_nesting (texts : List String) : (encodeTexts texts).nesting ≤ 1 := by
  have strings : ∀ content, (Json.string content).nesting ≤ 0 := fun _ => Nat.le_refl 0
  simpa [encodeTexts, nesting] using nestingItems_map strings texts

/-- A weakness holds its identifiers, and these hold texts. -/
theorem weakness_nesting (weakness : Weakness) : weakness.encode.nesting ≤ 3 := by
  -- The deepest way is through the identifiers to the texts in them.
  have info := texts_nesting weakness.info
  have cve := texts_nesting weakness.identifiers.cve
  simp only [Weakness.encode, Identifiers.encode, nesting, nestingMembers]
  omega

/-- A library holds its weaknesses. -/
theorem library_nesting (library : Library) : library.encode.nesting ≤ 5 := by
  have weaknesses := nestingItems_map weakness_nesting library.weaknesses
  simp only [Library.encode, nesting, nestingMembers]
  omega

/-- A file holds its libraries. -/
theorem scannedFile_nesting (scanned : ScannedFile) : scanned.encode.nesting ≤ 7 := by
  have libraries := nestingItems_map library_nesting scanned.libraries
  simp only [ScannedFile.encode, nesting, nestingMembers]
  omega

/-- A report holds its files. -/
theorem encodeFiles_nesting (files : List ScannedFile) : (encodeFiles files).nesting ≤ 9 := by
  have inside := nestingItems_map scannedFile_nesting files
  simp only [encodeFiles, nesting, nestingMembers]
  omega

end Nesting

/-! The rendered report is one of the texts that write it. -/

section Rendering

open Json

/-- Rendered texts write them. -/
theorem texts_renders (texts : List String) : (encodeTexts texts).Renders :=
  renders_map renders_string texts

/-- Rendered identifiers write them. -/
theorem identifiers_renders (identifiers : Identifiers) : identifiers.encode.Renders := by
  refine renders_object _ ?_
  simp only [List.forall_mem_cons]
  exact ⟨renders_string _, renders_string _, texts_renders _, nofun⟩

/-- A rendered weakness writes it. -/
theorem weakness_renders (weakness : Weakness) : weakness.encode.Renders := by
  refine renders_object _ ?_
  simp only [List.forall_mem_cons]
  exact ⟨texts_renders _, renders_string _, renders_string _, identifiers_renders _, nofun⟩

/-- A rendered library writes it. -/
theorem library_renders (library : Library) : library.encode.Renders := by
  -- Names are always rendered, so only the values of the members matter.
  refine renders_object _ ?_
  simp only [List.forall_mem_cons]
  exact ⟨renders_string _, renders_string _, renders_string _,
    renders_map weakness_renders library.weaknesses, nofun⟩

/-- A rendered file writes it. -/
theorem scannedFile_renders (scanned : ScannedFile) : scanned.encode.Renders := by
  refine renders_object _ ?_
  simp only [List.forall_mem_cons]
  exact ⟨renders_string _, renders_map library_renders scanned.libraries, nofun⟩

/-- A rendered report writes it. -/
theorem encodeFiles_renders (files : List ScannedFile) : (encodeFiles files).Renders := by
  refine renders_object _ ?_
  simp only [List.forall_mem_cons]
  exact ⟨renders_map scannedFile_renders files, nofun⟩

end Rendering

/-- A report is read from every text that writes it, with any blanks around it. -/
theorem ofText_of_writes {files : List ScannedFile} {text before behind : List Char}
    (writes : Json.Writes Json.byDigits (.value (encodeFiles files)) text) (gap : Json.IsGap before)
    (space : Json.IsGap behind) :
    ofText (String.ofList (before ++ text ++ behind)) = .ok ⟨files, .null, .null⟩ := by
  -- Nine levels are within what the reader allows.
  have shallow : (encodeFiles files).nesting ≤ Json.depthLimit :=
    Nat.le_trans (encodeFiles_nesting files) (by decide)
  have read := Json.readText_of_writes writes shallow gap space
  rw [ofText, Json.read, String.toList_ofList, read]
  exact decode_encodeFiles files

end Report

namespace RetireJs

/-- A report on any files has a rendering, and from every text that writes it, with any blanks
around, the analyzer gets one issue for each file, with every weakness of every library. -/
theorem read_of_writes (files : List Report.ScannedFile) :
    Json.Writes Json.byDigits (.value (Report.encodeFiles files)) (Json.renderChars (Report.encodeFiles files)) ∧
    ∀ text before behind, Json.Writes Json.byDigits (.value (Report.encodeFiles files)) text →
      Json.IsGap before → Json.IsGap behind →
      analyzer.read (String.ofList (before ++ text ++ behind)) =
        .ok ⟨files.map fun scanned => {
          file := scanned.file
          vulnerabilities := scanned.libraries.flatMap fun library =>
            library.weaknesses.map fun weakness => {
              component := library.component
              version := library.version
              detection := library.detection
              severity := weakness.severity
              summary := weakness.identifiers.summary
              issue := weakness.identifiers.issue
              identifiers := weakness.identifiers.cve
              below := weakness.below
              info := weakness.info } }⟩ := by
  -- The rendering is one text of many, and all are read to the same document.
  refine ⟨Report.encodeFiles_renders files _, fun text before behind writes gap space => ?_⟩
  have document := Report.ofText_of_writes writes gap space
  change read _ = _
  rw [read, document]
  rfl

/-- A rendered report with the end of line of a terminal behind it is read. -/
theorem read_of_writes_terminal :
    let weakness : Report.Weakness :=
      ⟨["https://host/\x22advisory\x22"], "3.0.0", "medium",
        ⟨"2432", "a \\ and a 𝄞", ["CVE-2015-9251"]⟩⟩
    let library : Report.Library := ⟨"1.8.1", "jquery", "filename", [weakness]⟩
    let files : List Report.ScannedFile := [⟨"a.js", [library]⟩, ⟨"b.js", []⟩]
    Json.IsGap ['\r', '\n'] ∧
      analyzer.read (String.ofList
        ([] ++ Json.renderChars (Report.encodeFiles files) ++ ['\r', '\n'])) =
        .ok ⟨[{ file := "a.js", vulnerabilities := [{
            component := "jquery", version := "1.8.1", detection := "filename", severity := "medium"
            summary := "a \\ and a 𝄞", issue := "2432", identifiers := ["CVE-2015-9251"]
            below := "3.0.0", info := ["https://host/\x22advisory\x22"] }] },
          { file := "b.js" }]⟩ := by
  intro weakness library files
  -- A terminal ends its lines by two characters, which are a gap.
  have gap : Json.IsGap ['\r', '\n'] := by decide
  have rendered := read_of_writes files
  exact ⟨gap, rendered.2 _ [] _ rendered.1 Json.isGap_nil gap⟩

end RetireJs

end ContainerScan
