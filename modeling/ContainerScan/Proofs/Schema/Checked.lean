import ContainerScan.Schema.Checked

/-! When checks come to a value, which they do only where none of their parts finds anything wrong. -/

namespace ContainerScan.Checked

variable {α β : Type}

/-- Two checks side by side come to what each of them comes to. -/
theorem both_eq_ok_iff {first : Checked α} {second : Checked β} {pair : α × β} :
    both first second = .ok pair ↔ first = .ok pair.1 ∧ second = .ok pair.2 := by
  cases first <;> cases second <;> simp [both, Prod.ext_iff]

/-- What is changed comes to the change of what it is changed from. -/
theorem map_eq_ok_iff {checked : Checked α} {change : α → β} {value : β} :
    checked.map change = .ok value ↔ ∃ part, checked = .ok part ∧ change part = value := by
  cases checked <;> simp [Except.map]

/-- What awaits a further check comes to what it makes of the value of that check. -/
theorem apply_eq_ok_iff {build : Checked (α → β)} {part : Checked α} {value : β} :
    apply build part = .ok value ↔
      ∃ change found, build = .ok change ∧ part = .ok found ∧ change found = value := by
  simp [apply, map_eq_ok_iff, both_eq_ok_iff, and_assoc]

/-- A check comes to the same value from one step further out. -/
theorem within_eq_ok_iff {place : Place} {checked : Checked α} {value : α} :
    within place checked = .ok value ↔ checked = .ok value := by
  cases checked <;> simp [within]

end ContainerScan.Checked
