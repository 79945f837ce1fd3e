import ContainerScan.CommandLine.Meaning

/-! What arguments mean: a flag is only found where it stands, and a scan is only one on request. -/

namespace ContainerScan.CommandLine

namespace Form

/-- An option that stands alone is a flag of the form, and no value follows it. -/
theorem flag_of_classifyOption {form : Form} {argument : List Char} {name flag : String}
    {value : Option String}
    (classified : form.classifyOption argument name value = .ok (.flag flag)) :
    flag = name ∧ name ∈ form.flags ∧ value = none := by
  -- Only an argument without a value can be taken for a flag, and only if the form has it.
  unfold classifyOption at classified
  split at classified
  · cases value <;> cases classified
  · split at classified
    · rename_i member
      cases value with
      | some value => cases classified
      | none =>
        cases classified
        exact ⟨rfl, by simpa using member, rfl⟩
    · split at classified <;> cases classified

/-- Only the name of a flag is taken for that flag. -/
theorem flag_of_classify {form : Form} {argument flag : String}
    (classified : form.classify argument = .ok (.flag flag)) :
    flag = argument ∧ flag ∈ form.flags := by
  unfold classify at classified
  split at classified
  · cases classified
  · rename_i c rest _ text
    dsimp only at classified
    split at classified
    · rename_i value _
      obtain ⟨_, _, absurd⟩ := flag_of_classifyOption classified
      cases absurd
    · rename_i whole
      obtain ⟨rfl, member, _⟩ := flag_of_classifyOption classified
      -- No sign of equality was found, so the name is the whole argument.
      have parts :=
        @List.takeWhile_append_dropWhile _ (fun c : Char => decide (c ≠ '=')) ('-' :: c :: rest)
      rw [whole, List.append_nil] at parts
      refine ⟨?_, member⟩
      rw [parts, ← text, String.ofList_toList]
  · cases classified

/-- Each flag that is found was there before, or is a flag of the form and one of the arguments. -/
theorem mem_flags_of_sortFrom {form : Form} {arguments : List String} {waiting : Option String}
    {given sorted : Given} (done : form.sortFrom waiting given arguments = .ok sorted)
    {flag : String} (member : flag ∈ sorted.flags) :
    flag ∈ given.flags ∨ (flag ∈ form.flags ∧ flag ∈ arguments) := by
  -- Of all arguments only one that is taken for a flag adds to the flags that were found.
  induction arguments generalizing waiting given with
  | nil =>
    cases waiting <;> cases done
    exact Or.inl member
  | cons argument rest ih =>
    have later {now : Given} (found : flag ∈ now.flags ∨ (flag ∈ form.flags ∧ flag ∈ rest))
        (same : now.flags = given.flags) :
        flag ∈ given.flags ∨ (flag ∈ form.flags ∧ flag ∈ argument :: rest) := by
      rw [same] at found
      exact found.imp_right fun ⟨known, there⟩ => ⟨known, List.mem_cons_of_mem argument there⟩
    cases waiting with
    | some option =>
      -- What an option was waiting for is its value, whatever it looks like.
      have done : form.sortFrom none { given with values := given.values ++ [(option, argument)] }
        rest = .ok sorted := done
      exact later (ih done) rfl
    | none =>
      unfold sortFrom at done
      split at done
      · cases done
      · cases done
        exact Or.inl member
      · rename_i name classified
        obtain ⟨rfl, known⟩ := flag_of_classify classified
        rcases ih done with before | ⟨other, there⟩
        · rcases List.mem_append.mp before with before | this
          · exact Or.inl before
          · rw [List.mem_singleton] at this
            rw [this]
            exact Or.inr ⟨known, List.mem_cons_self⟩
        · exact Or.inr ⟨other, List.mem_cons_of_mem _ there⟩
      · exact later (ih done) rfl
      · exact later (ih done) rfl
      · split at done
        · exact later (ih done) rfl
        · cases done
          exact Or.inl member

/-- Each flag that is found is a flag of the form and one of the arguments. -/
theorem mem_flags_of_sort {form : Form} {arguments : List String} {sorted : Given}
    (done : form.sort arguments = .ok sorted) {flag : String} (member : flag ∈ sorted.flags) :
    flag ∈ form.flags ∧ flag ∈ arguments := by
  rcases mem_flags_of_sortFrom done member with before | found
  · cases before
  · exact found

end Form

namespace Meaning

/-- What the arguments of the command for a scan mean is up to that command. -/
theorem ofArguments_run (options : List String) :
    ofArguments ("run" :: options) = ofCommand scanForm scanRequest options := rfl

/-- A sequence of computations succeeds only where its first part does. -/
theorem exists_of_bind_ok {ε α β : Type} {first : Except ε α} {next : α → Except ε β} {value : β}
    (done : (first >>= next) = .ok value) : ∃ middle, next middle = .ok value := by
  cases first with
  | error failure => cases done
  | ok middle => exact ⟨middle, done⟩

/-- The command for a scan can only ask for a scan. -/
theorem run_of_scanRequest {given : Given} {wanted : Request}
    (asked : scanRequest given = .ok wanted) : ∃ scan, wanted = .run scan := by
  -- Every one of the options may be missing, and then nothing is asked for.
  obtain ⟨_, asked⟩ := exists_of_bind_ok asked
  obtain ⟨name, asked⟩ := exists_of_bind_ok asked
  obtain ⟨template, asked⟩ := exists_of_bind_ok asked
  obtain ⟨url, asked⟩ := exists_of_bind_ok asked
  obtain ⟨branch, asked⟩ := exists_of_bind_ok asked
  split at asked
  · cases asked
  · cases asked
    exact ⟨_, rfl⟩

/-- Without the flag for help the command for a scan asks for a scan, or is misused. -/
theorem ofArguments_run_cases {options : List String} (plain : "--help" ∉ options) :
    (∃ wrong, ofArguments ("run" :: options) = .misuse wrong) ∨
    (∃ scan, ofArguments ("run" :: options) = .request (.run scan)) := by
  -- The only flag of the form is the one for help, which is not among the arguments.
  rw [ofArguments_run, ofCommand]
  cases done : scanForm.sort options with
  | error wrong => exact Or.inl ⟨wrong, rfl⟩
  | ok given =>
    cases flagged : given.flags with
    | cons flag rest =>
      have member : flag ∈ given.flags := by
        rw [flagged]
        exact List.mem_cons_self
      obtain ⟨known, there⟩ := Form.mem_flags_of_sort done member
      obtain rfl : flag = "--help" := by simpa [scanForm] using known
      exact absurd there plain
    | nil =>
      cases asked : scanRequest given with
      | error wrong => exact Or.inl ⟨wrong, by simp only [flagged, asked]⟩
      | ok wanted =>
        obtain ⟨scan, rfl⟩ := run_of_scanRequest asked
        exact Or.inr ⟨scan, by simp only [flagged, asked]⟩

end Meaning

end ContainerScan.CommandLine
