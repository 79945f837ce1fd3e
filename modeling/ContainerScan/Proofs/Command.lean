import ContainerScan.Command
import ContainerScan.Proofs.Text.Substitution
import ContainerScan.Proofs.World

/-! Which private key reaches a command: none, unless the text that is filled in holds the token. -/

namespace ContainerScan.Command

/-- A command gets its key filled in; the warning aside nothing happens. -/
theorem insertKeyLogged_apply (key command : String) (world : World) :
    ∃ events, insertKeyLogged key command world =
      .ok (insertKey key command) { world with events := events } := by
  -- A warning precedes the command only where a key is asked for and there is none.
  by_cases lacks : lacksKey key command = true
  · have opened : insertKeyLogged key command world =
        (World.log logger .warning "No private SSH key configured, substituting an empty value" >>=
          fun _ => pure (insertKey key command)) world := by
      simp only [insertKeyLogged, lacks, if_true]
    rw [opened]
    exact World.log_pure_apply logger .warning _ [] (insertKey key command) world
  · refine ⟨world.events, ?_⟩
    simp only [insertKeyLogged, lacks]
    rfl

/-- A command always resolves, with the given key or that of the process; only events are added. -/
theorem resolveLogged_apply (repository branch template : String) (key : Option String)
    (world : World) :
    ∃ events, resolveLogged repository branch template key world =
      .ok (resolve repository branch template (key.getD world.settings.sshKey))
        { world with events := events } := by
  -- An empty command is returned as it is, and any other one gets its key.
  have opened : resolveLogged repository branch template key world =
      (if fill repository branch template = "" then pure ""
        else withKey (fill repository branch template) key) world := rfl
  rw [opened, resolve]
  by_cases empty : fill repository branch template = ""
  · rw [if_pos empty, if_pos empty]
    exact ⟨world.events, rfl⟩
  · rw [if_neg empty, if_neg empty]
    exact insertKeyLogged_apply _ _ world

/-- Commands with two keys are the same exactly if the keys are, or if no key is asked for. -/
theorem resolve_eq_iff (repository branch template first second : String) :
    resolve repository branch template first = resolve repository branch template second ↔
      first = second ∨ Text.contains (fill repository branch template) keyToken = false := by
  -- An empty command is not filled in at all, and holds no token either.
  unfold resolve insertKey
  by_cases empty : fill repository branch template = ""
  · rw [if_pos empty, if_pos empty, empty]
    exact iff_of_true rfl (Or.inr (by decide))
  · rw [if_neg empty, if_neg empty]
    -- A token that is there lets the key show in the command; otherwise no key can.
    cases asked : Text.contains (fill repository branch template) keyToken with
    | false =>
      rw [Text.replace_of_absent asked, Text.replace_of_absent asked]
      exact iff_of_true rfl (Or.inr rfl)
    | true =>
      refine ⟨fun same => Or.inl (Text.replace_injective (by decide) asked same), ?_⟩
      rintro (same | absent)
      · rw [same]
      · contradiction

/-- Whether a command is empty does not depend on a key, if there is one. -/
theorem resolve_eq_empty_iff {repository branch template key : String} (nonempty : key ≠ "") :
    resolve repository branch template key = "" ↔ fill repository branch template = "" := by
  unfold resolve insertKey
  -- A key is only put into a command that is not empty.
  by_cases empty : fill repository branch template = ""
  · simp [empty]
  · rw [if_neg empty]
    exact Text.replace_eq_empty_iff nonempty

/-- Two runs of one template give the same command exactly if their keys are the same, or if the
text with repository and branch filled in does not hold the token of the key. -/
theorem resolveLogged_same_iff (repository branch template : String) (first second : Option String)
    (one two : World) :
    ∃ left right leftEnd rightEnd,
      resolveLogged repository branch template first one = .ok left leftEnd ∧
      resolveLogged repository branch template second two = .ok right rightEnd ∧
      (left = right ↔
        first.getD one.settings.sshKey = second.getD two.settings.sshKey ∨
          Text.contains (fill repository branch template) keyToken = false) := by
  obtain ⟨oneEvents, resolvedOne⟩ := resolveLogged_apply repository branch template first one
  obtain ⟨twoEvents, resolvedTwo⟩ := resolveLogged_apply repository branch template second two
  exact ⟨_, _, _, _, resolvedOne, resolvedTwo, resolve_eq_iff ..⟩

/-- A template without the token is no safeguard: a repository can bring the token along. -/
theorem template_without_key_not_enough :
    ¬ ∀ (repository branch template first second : String) (world one two : World)
        (left right : String),
      Text.contains template keyToken = false →
      resolveLogged repository branch template (some first) world = .ok left one →
      resolveLogged repository branch template (some second) world = .ok right two →
      left = right := by
  -- The template asks for the repository alone, and the repository is named after the token.
  intro claimed
  obtain ⟨oneEvents, one⟩ := resolveLogged_apply "https://host/GIT_PRIVATE_SSH_KEY" "main"
    "git clone %GIT_REPO%" (some "first") { settings := .standard }
  obtain ⟨twoEvents, two⟩ := resolveLogged_apply "https://host/GIT_PRIVATE_SSH_KEY" "main"
    "git clone %GIT_REPO%" (some "second") { settings := .standard }
  have same := claimed _ _ _ _ _ _ _ _ _ _ (by decide +kernel) one two
  exact absurd same (by decide +kernel)

end ContainerScan.Command
