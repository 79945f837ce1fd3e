import ContainerScan.Proofs.Analyzer
import ContainerScan.Proofs.Text.Words
import Mathlib.Data.List.Perm.Basic

/-! Verdicts and the counts of severities: which words fail a scan, and that a verdict looks at the
same vulnerabilities as the counts, in whatever order and in however many parts they come. -/

namespace ContainerScan

namespace Severity

/-- A text names a severity: its word, in any case of the Latin letters, with only blanks around. -/
def IsNamedBy (severity : Severity) (text : String) : Prop :=
  ∃ before word behind, text.toList = before ++ word ++ behind ∧
    (∀ c ∈ before ++ behind, Text.isBlank c = true) ∧ Text.lower word = severity.text.toList

/-- The words for severities are plain, without blanks, and without the letter k. -/
theorem text_plain (severity : Severity) : ∀ c ∈ severity.text.toList,
    (Text.Utf8.IsPlain c.toNat ∧ c ≠ 'k') ∧ Text.isBlank c = false := by
  rw [← List.forall_iff_forall_mem]
  cases severity <;> decide

/-- The severity of a text is the one whose word its small form is between blanks. -/
theorem ofText?_eq_some_iff_lowercase (severity : Severity) (text : String) :
    ofText? text = some severity ↔
      Text.lowercase (Text.trim text.toList) = severity.text.toList := by
  -- No two severities have the same text.
  rw [ofText?]
  constructor
  · intro found
    have same := List.find?_some found
    exact (of_decide_eq_true same).symm
  · intro same
    rw [same]
    cases severity <;> decide

/-- The severity of a text is the one that the text names. -/
theorem ofText?_eq_some_iff (severity : Severity) (text : String) :
    ofText? text = some severity ↔ severity.IsNamedBy text := by
  have plain : ∀ c ∈ severity.text.toList, Text.Utf8.IsPlain c.toNat ∧ c ≠ 'k' :=
    fun c member => (text_plain severity c member).1
  rw [ofText?_eq_some_iff_lowercase, Text.lowercase_eq_iff plain]
  constructor
  · -- Trimming takes off the blanks, and what is left is the word.
    intro same
    obtain ⟨before, behind, parts, blank⟩ := Text.exists_trim text.toList
    exact ⟨before, _, behind, parts, blank, same⟩
  · rintro ⟨before, word, behind, parts, blank, same⟩
    -- A blank in the word would be one in the word for the severity.
    have solid : ∀ c ∈ word, Text.isBlank c = false := by
      intro c member
      by_contra isBlank
      rw [Bool.not_eq_false] at isBlank
      have kept : c ∈ severity.text.toList := by
        rw [← same, ← Text.lowerLetter_of_blank isBlank]
        exact List.mem_map_of_mem member
      rw [(text_plain severity c kept).2] at isBlank
      cases isBlank
    rw [parts, Text.trim_append blank solid, same]

end Severity

/-- A vulnerability whose severity, as the scanner reported it, names medium or high. -/
def Vulnerability.IsGrave (vulnerability : Vulnerability) : Prop :=
  Severity.medium.IsNamedBy vulnerability.severity ∨ Severity.high.IsNamedBy vulnerability.severity

/-- A vulnerability fails a scan exactly if it is grave. -/
theorem Vulnerability.isFailing_iff_isGrave (vulnerability : Vulnerability) :
    vulnerability.isFailing = true ↔ vulnerability.IsGrave := by
  rw [isFailing_iff, level, Severity.ofText?_eq_some_iff, Severity.ofText?_eq_some_iff]
  rfl

/-- The same file with its vulnerabilities in some order. -/
structure Issue.IsReordering (issue other : Issue) : Prop where
  file : issue.file = other.file
  vulnerabilities : issue.vulnerabilities.Perm other.vulnerabilities

namespace Findings

/-- The same issues in some order, each with its vulnerabilities in some order. -/
def IsReordering (findings other : Findings) : Prop :=
  ∃ issues, findings.issues.Perm issues ∧ List.Forall₂ Issue.IsReordering issues other.issues

/-- What two scans find together. -/
def join (findings other : Findings) : Findings :=
  ⟨findings.issues ++ other.issues⟩

variable {findings other : Findings}

/-- A scan is failed exactly if some vulnerability in it fails it. -/
theorem verdict_failed_iff : findings.verdict = .failed ↔
    ∃ vulnerability ∈ findings.vulnerabilities, vulnerability.isFailing = true := by
  rw [← List.any_eq_true, verdict]
  cases findings.vulnerabilities.any Vulnerability.isFailing <;> decide

/-- There are two verdicts. -/
theorem verdict_passed_iff_not_failed : findings.verdict = .passed ↔ ¬findings.verdict = .failed := by
  cases findings.verdict <;> decide

/-- Reordered findings have the same vulnerabilities in some order. -/
theorem IsReordering.vulnerabilities (reordered : findings.IsReordering other) :
    findings.vulnerabilities.Perm other.vulnerabilities := by
  obtain ⟨issues, perm, inside⟩ := reordered
  refine (perm.flatMap fun issue _ => List.Perm.refl _).trans ?_
  unfold Findings.vulnerabilities
  -- Issue by issue, the vulnerabilities of one list are those of the other.
  generalize other.issues = others at inside
  clear perm
  induction inside with
  | nil => exact List.Perm.refl _
  | cons same _ ih => exact same.vulnerabilities.append ih

/-- Neither the verdict nor the counts look at the order of vulnerabilities. -/
theorem graded_of_perm (perm : findings.vulnerabilities.Perm other.vulnerabilities) :
    other.verdict = findings.verdict ∧ other.severityCounts = findings.severityCounts := by
  -- Counting does not look at the order, and neither does looking for a grave one.
  have counts : ∀ severity, other.count severity = findings.count severity := fun severity =>
    (perm.countP_eq _).symm
  refine ⟨?_, ?_⟩
  · rw [verdict, verdict, perm.any_eq]
  · simp only [severityCounts, counts]

/-- The vulnerabilities that two scans find together. -/
@[simp] theorem vulnerabilities_join :
    (findings.join other).vulnerabilities = findings.vulnerabilities ++ other.vulnerabilities :=
  List.flatMap_append

/-- A scan is failed exactly if vulnerabilities of medium or high severity are counted. -/
theorem verdict_failed_iff_count :
    findings.verdict = .failed ↔ 0 < findings.count .medium + findings.count .high := by
  simp only [verdict_failed_iff, Vulnerability.isFailing_iff, Nat.add_pos_iff_pos_or_pos, count,
    List.countP_pos_iff, decide_eq_true_eq]
  -- One grave vulnerability is a medium one or a high one.
  constructor
  · rintro ⟨vulnerability, member, medium | high⟩
    · exact Or.inl ⟨vulnerability, member, medium⟩
    · exact Or.inr ⟨vulnerability, member, high⟩
  · rintro (⟨vulnerability, member, medium⟩ | ⟨vulnerability, member, high⟩)
    · exact ⟨vulnerability, member, Or.inl medium⟩
    · exact ⟨vulnerability, member, Or.inr high⟩

/-- The counts are those of the vulnerabilities with a known severity, parted by severity. -/
theorem count_total :
    findings.count .low + findings.count .medium + findings.count .high =
      findings.vulnerabilities.countP fun vulnerability => vulnerability.level.isSome := by
  unfold count
  induction findings.vulnerabilities with
  | nil => rfl
  | cons vulnerability rest ih =>
    -- One vulnerability counts for its severity and no other, or for none.
    simp only [List.countP_cons, ← ih]
    rcases vulnerability.level with _ | (_ | _ | _) <;> simp <;> omega

/-- What the verdict on findings and their counts of severities come from. -/
structure Graded (findings : Findings) : Prop where
  /-- A word is on the scale exactly if it names a severity. -/
  known : ∀ (vulnerability : Vulnerability) severity,
    vulnerability.level = some severity ↔ severity.IsNamedBy vulnerability.severity
  failed_iff : findings.verdict = .failed ↔
    ∃ issue ∈ findings.issues, ∃ vulnerability ∈ issue.vulnerabilities, vulnerability.IsGrave
  passed_iff : findings.verdict = .passed ↔
    ¬∃ issue ∈ findings.issues, ∃ vulnerability ∈ issue.vulnerabilities, vulnerability.IsGrave
  shown : findings.severityCounts = .object [("low", .nat (findings.count .low)),
    ("medium", .nat (findings.count .medium)), ("high", .nat (findings.count .high))]
  agrees : findings.verdict = .failed ↔ 0 < findings.count .medium + findings.count .high
  total : findings.count .low + findings.count .medium + findings.count .high =
    findings.vulnerabilities.countP fun vulnerability => vulnerability.level.isSome
  reordered : ∀ other, findings.IsReordering other →
    other.verdict = findings.verdict ∧ other.severityCounts = findings.severityCounts
  joined : ∀ other,
    ((findings.join other).verdict = .failed ↔
      findings.verdict = .failed ∨ other.verdict = .failed) ∧
    ∀ severity, (findings.join other).count severity =
      findings.count severity + other.count severity

/-- Findings fail exactly for a vulnerability whose word for its severity is medium or high, and
for nothing else that a scanner may write; the counts agree with that, and neither the order of
findings nor their division into parts has an influence. -/
theorem graded (findings : Findings) : findings.Graded := by
  -- A verdict is about all vulnerabilities, of whatever issue; the other laws follow from counting.
  have failed_iff : findings.verdict = .failed ↔
      ∃ issue ∈ findings.issues, ∃ vulnerability ∈ issue.vulnerabilities,
        vulnerability.IsGrave := by
    simp only [verdict_failed_iff, Vulnerability.isFailing_iff_isGrave, vulnerabilities,
      List.mem_flatMap]
    constructor
    · rintro ⟨vulnerability, ⟨issue, among, member⟩, grave⟩
      exact ⟨issue, among, vulnerability, member, grave⟩
    · rintro ⟨issue, among, vulnerability, member, grave⟩
      exact ⟨vulnerability, ⟨issue, among, member⟩, grave⟩
  exact {
    known := fun vulnerability severity => Severity.ofText?_eq_some_iff severity _
    failed_iff := failed_iff
    passed_iff := by rw [verdict_passed_iff_not_failed, failed_iff]
    shown := rfl
    agrees := verdict_failed_iff_count
    total := count_total
    reordered := fun other reordered => graded_of_perm reordered.vulnerabilities
    joined := fun other => by
      refine ⟨?_, fun severity => ?_⟩
      · simp only [verdict_failed_iff, vulnerabilities_join, List.mem_append, or_and_right,
          exists_or]
      · simp only [count, vulnerabilities_join, List.countP_append] }

/-- Blanks and capitals do not matter; a letter with a dot of its own does. -/
example : verdict ⟨[⟨"a.js", [{ severity := "\u2003HiGh\x1c" }]⟩]⟩ = .failed ∧
    verdict ⟨[⟨"a.js", [{ severity := "H\u0130GH" }, { severity := "low" }]⟩]⟩ = .passed := by
  decide

end Findings

end ContainerScan
