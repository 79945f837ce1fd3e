import ContainerScan.Proofs.Number.Sign
import ContainerScan.Proofs.Schema.Checked
import ContainerScan.Settings.Dotenv

/-! Settings are accepted only with a port in range and with times greater than zero, except that the
value that compares with nothing is let through for a time that need not be whole. -/

namespace ContainerScan

namespace Binary64

/-- Rounding never comes to the value that compares with nothing. -/
theorem ofFraction_ne_unordered (negative : Bool) (dividend divisor : Nat) :
    ofFraction negative dividend divisor ≠ .unordered := by
  unfold ofFraction
  dsimp only
  split_ifs <;> simp [zero]

/-- Digits never write the value that compares with nothing. -/
theorem ofDecimal_ne_unordered (negative : Bool) (digits : Nat) (exponent : Int) :
    ofDecimal negative digits exponent ≠ .unordered := by
  unfold ofDecimal
  dsimp only
  split_ifs <;> simp [zero, ofFraction_ne_unordered]

end Binary64

namespace Number

/-- A text that is the name of the value that compares with nothing, in any case of its letters. -/
def IsUnorderedName (text : List Char) : Prop :=
  String.ofList (Text.lower (splitSign text).2) = "nan"

/-- A text with that name between blanks, or with underscores inside it where nothing else keeps the
text from being read. -/
def NamesUnordered (text : List Char) : Prop :=
  IsUnorderedName (Text.trimOf Text.isSpace text) ∨
    plainRealOf? (Text.trimOf Text.isSpace text) = none ∧ IsUnorderedName (withoutUnderscores text)

/-- The value that compares with nothing is only ever read from its name. -/
theorem plainRealOf?_eq_unordered_iff {text : List Char} :
    plainRealOf? text = some .unordered ↔ IsUnorderedName text := by
  unfold plainRealOf? unsignedReal? IsUnorderedName
  dsimp only
  split_ifs with endless named empty
  · -- The names of the infinite values are other ones.
    rcases endless with endless | endless <;> simp [endless]
  · simp [named]
  · simp [named]
  · simp [named, Binary64.ofDecimal_ne_unordered]

/-- Blanks and underscores make no other text be read as that value. -/
theorem looseRealOf?_eq_unordered_iff {text : List Char} :
    looseRealOf? text = some .unordered ↔ NamesUnordered text := by
  unfold looseRealOf? NamesUnordered
  rw [← plainRealOf?_eq_unordered_iff, ← plainRealOf?_eq_unordered_iff]
  cases plainRealOf? (Text.trimOf Text.isSpace text) <;> simp

end Number

namespace Settings

open Checked

/-! What the rules of the fields let through. -/

/-- A value passes a further rule if it is found and the rule has nothing against it. -/
theorem checked_eq_ok_iff {α : Type} {refusal : α → Option String} {value : Checked α}
    {found : α} : checked refusal value = .ok found ↔ value = .ok found ∧ refusal found = none := by
  -- A value is refused as it was, or by the rule; otherwise it is passed on.
  cases value with
  | error violations => simp [checked, Except.bind]
  | ok other =>
    cases refused : refusal other <;> simp [checked, Except.bind, refused, breach]
    · rintro rfl
      exact refused
    · rintro rfl
      simp [refused]

/-- Only ports in range pass. -/
theorem portRefusal_eq_none_iff {port : Int} :
    portRefusal port = none ↔ 1 ≤ port ∧ port ≤ 65535 := by
  simp [portRefusal]

/-- Only times greater than zero pass, where they are whole seconds. -/
theorem wholeTimeRefusal_eq_none_iff {time : Int} : wholeTimeRefusal time = none ↔ 0 < time := by
  simp [wholeTimeRefusal]

/-- Where times need not be whole, what compares with nothing passes as well. -/
theorem realTimeRefusal_eq_none_iff {time : Binary64} :
    realTimeRefusal time = none ↔ time.IsPositive ∨ time = .unordered := by
  rw [← Binary64.atMostZero_eq_false_iff]
  simp [realTimeRefusal]

/-- A whole number never becomes the value that compares with nothing. -/
theorem realOfWhole_ne_unordered (value : Int) : realOfWhole value ≠ .ok .unordered := by
  unfold realOfWhole Binary64.ofInt?
  cases Binary64.ofRat value <;> simp [breach]

/-- A value that is the one that compares with nothing, or a text that names it. -/
def IsUnordered : Json → Prop
  | .number (.real value) => value = .unordered
  | .string text => Number.NamesUnordered text.toList
  | _ => False

/-- Only such a value is read as the one that compares with nothing. -/
theorem coerceReal_eq_unordered_iff {value : Json} :
    coerceReal value = .ok .unordered ↔ IsUnordered value := by
  -- Whole numbers and flags have an order, so only a real number or a text may lack one.
  cases value with
  | string text =>
    rw [IsUnordered, ← Number.looseRealOf?_eq_unordered_iff]
    cases read : Number.looseRealOf? text.toList <;> simp [coerceReal, read, breach]
  | number number => cases number <;> simp [coerceReal, IsUnordered, realOfWhole_ne_unordered]
  | bool flag => simp [coerceReal, IsUnordered, realOfWhole_ne_unordered]
  | _ => simp [coerceReal, IsUnordered, breach]

/-! What the settings hold, field by field. -/

variable {sources : List Source} {settings : Settings}

/-- A setting holds its standard value, or what its check makes of the value given for it. -/
theorem setting_cases {α : Type} {name : String} {standard found : α} {check : Json → Checked α}
    (accepted : setting sources name standard check = .ok found) :
    given sources name = none ∧ found = standard ∨
      ∃ value, given sources name = some value ∧ check value = .ok found := by
  -- A setting that is not given has its standard value, unchecked.
  cases source : given sources name with
  | none =>
    simp only [setting, source, Except.ok.injEq] at accepted
    exact .inl ⟨rfl, accepted.symm⟩
  | some value =>
    simp only [setting, source, within_eq_ok_iff] at accepted
    exact .inr ⟨value, rfl, accepted⟩

/-- A rule has nothing against a setting if it has nothing against the standard value. -/
theorem setting_passes {α : Type} {name : String} {standard found : α}
    {refusal : α → Option String} {coerce : Json → Checked α} (usual : refusal standard = none)
    (accepted : setting sources name standard (fun value => checked refusal (coerce value)) =
      .ok found) : refusal found = none := by
  obtain ⟨_, rfl⟩ | ⟨value, _, passed⟩ := setting_cases accepted
  · exact usual
  · exact (checked_eq_ok_iff.mp passed).2

/-- The settings that have a rule of their own are what is read for each of them. -/
theorem ofSources_ruled (accepted : ofSources sources = .ok settings) :
    setting sources "docker_api_port" standard.port
        (fun value => checked portRefusal (coerceWhole value)) = .ok settings.port ∧
      setting sources "image_pull_interval" standard.pullInterval
        (fun value => checked realTimeRefusal (coerceReal value)) = .ok settings.pullInterval ∧
      setting sources "image_pull_timeout" standard.pullTimeout
        (fun value => checked realTimeRefusal (coerceReal value)) = .ok settings.pullTimeout ∧
      setting sources "container_wait_timeout" standard.waitTimeout
        (fun value => checked wholeTimeRefusal (coerceWhole value)) = .ok settings.waitTimeout := by
  simp only [ofSources, apply_eq_ok_iff, Except.ok.injEq] at accepted
  -- The fields come off from the last one to the first.
  obtain ⟨_, _, accepted, waits, rfl⟩ := accepted
  obtain ⟨_, _, accepted, timeouts, rfl⟩ := accepted
  obtain ⟨_, _, accepted, intervals, rfl⟩ := accepted
  obtain ⟨_, _, accepted, _, rfl⟩ := accepted
  obtain ⟨_, _, accepted, _, rfl⟩ := accepted
  obtain ⟨_, _, accepted, _, rfl⟩ := accepted
  obtain ⟨_, _, accepted, _, rfl⟩ := accepted
  obtain ⟨_, _, accepted, _, rfl⟩ := accepted
  obtain ⟨_, _, accepted, ports, rfl⟩ := accepted
  obtain ⟨_, _, accepted, _, rfl⟩ := accepted
  obtain ⟨_, _, accepted, _, rfl⟩ := accepted
  obtain ⟨_, _, accepted, _, rfl⟩ := accepted
  obtain ⟨_, _, accepted, _, rfl⟩ := accepted
  obtain rfl := accepted
  exact ⟨ports, intervals, timeouts, waits⟩

/-! Times that need not be whole. -/

/-- Sources in which the value that compares with nothing is given for a setting. -/
def GivesUnordered (sources : List Source) (name : String) : Prop :=
  ∃ value, given sources name = some value ∧ IsUnordered value

instance (sources : List Source) (name : String) : Decidable (GivesUnordered sources name) :=
  decidable_of_iff ((given sources name).any fun value => coerceReal value = .ok .unordered)
    (by simp [GivesUnordered, Option.any_eq_true, coerceReal_eq_unordered_iff])

/-- A time in seconds is greater than zero, unless what is given for it compares with nothing. -/
structure IsTimed (sources : List Source) (name : String) (time : Binary64) : Prop where
  positive : ¬ GivesUnordered sources name → time.IsPositive
  unordered : GivesUnordered sources name → time = .unordered

/-- A time that need not be whole is accepted on these terms. -/
theorem isTimed_of_accepted {name : String} {standard time : Binary64}
    (usual : standard.IsPositive) (accepted : setting sources name standard
      (fun value => checked realTimeRefusal (coerceReal value)) = .ok time) :
    IsTimed sources name time where
  positive ordered := by
    obtain ⟨_, rfl⟩ | ⟨value, source, passed⟩ := setting_cases accepted
    · exact usual
    · obtain ⟨read, unrefused⟩ := checked_eq_ok_iff.mp passed
      refine (realTimeRefusal_eq_none_iff.mp unrefused).resolve_right ?_
      rintro rfl
      exact ordered ⟨value, source, coerceReal_eq_unordered_iff.mp read⟩
  unordered gives := by
    obtain ⟨value, source, unordered⟩ := gives
    obtain ⟨absent, _⟩ | ⟨other, again, passed⟩ := setting_cases accepted
    · rw [absent] at source
      contradiction
    · -- Both values are what the sources give for the name.
      obtain rfl := Option.some.inj (again.symm.trans source)
      obtain ⟨read, _⟩ := checked_eq_ok_iff.mp passed
      exact Except.ok.inj (read.symm.trans (coerceReal_eq_unordered_iff.mpr unordered))

/-- The times of the standard settings that need not be whole are greater than zero. -/
theorem standard_isPositive :
    standard.pullInterval.IsPositive ∧ standard.pullTimeout.IsPositive := by
  constructor <;> exact (Binary64.atMostZero_eq_false_iff.mp (by decide)).resolve_right (by decide)

/-- Accepted settings have a port in range and times greater than zero, from whatever sources their
values come: the arguments of a call, an environment, the text of a file. Only the two times that
need not be whole may also be the value that compares with nothing, and are where it is given. -/
theorem ofSources_timed (accepted : ofSources sources = .ok settings) :
    (1 ≤ settings.port ∧ settings.port ≤ 65535) ∧ 0 < settings.waitTimeout ∧
      IsTimed sources "image_pull_interval" settings.pullInterval ∧
      IsTimed sources "image_pull_timeout" settings.pullTimeout := by
  -- Each rule is one of the settings that were accepted.
  obtain ⟨ports, intervals, timeouts, waits⟩ := ofSources_ruled accepted
  refine ⟨portRefusal_eq_none_iff.mp (setting_passes (by decide) ports),
    wholeTimeRefusal_eq_none_iff.mp (setting_passes (by decide) waits), ?_, ?_⟩
  · exact isTimed_of_accepted standard_isPositive.1 intervals
  · exact isTimed_of_accepted standard_isPositive.2 timeouts

/-- The times of a file beside a port that is an argument, where the environment names no number. -/
theorem ofSources_timed_unordered :
    ∃ settings, ofSources [[("docker_api_port", .string " 8080 ")],
        [("IMAGE_PULL_TIMEOUT", .string "-NaN")],
        Dotenv.source [] "container_wait_timeout=1\nimage_pull_interval='5e-1'"] = .ok settings ∧
      1 ≤ settings.port ∧ 0 < settings.waitTimeout ∧ settings.pullInterval.IsPositive ∧
      settings.pullTimeout = .unordered := by
  -- The sources are an argument, the environment and a file, of which each sets something.
  have accepted : ofSources [[("docker_api_port", .string " 8080 ")],
      [("IMAGE_PULL_TIMEOUT", .string "-NaN")],
      Dotenv.source [] "container_wait_timeout=1\nimage_pull_interval='5e-1'"] = .ok { standard with
        port := 8080, pullInterval := .ofFraction false 1 2, pullTimeout := .unordered,
        waitTimeout := 1 } := by
    decide +kernel
  obtain ⟨port, wait, interval, timeout⟩ := ofSources_timed accepted
  exact ⟨_, accepted, port.1, wait, interval.positive (by decide +kernel),
    timeout.unordered (by decide +kernel)⟩

/-- Not every time of accepted settings is greater than zero. -/
theorem unordered_interval_accepted :
    ¬ ∀ (arguments environment : Source) (known : List (String × String)) (text : String)
      (settings : Settings),
      ofSources [arguments, environment, Dotenv.source known text] = .ok settings →
        (1 ≤ settings.port ∧ settings.port ≤ 65535) ∧ 0 < settings.waitTimeout ∧
          settings.pullInterval.IsPositive ∧ settings.pullTimeout.IsPositive := by
  -- One interval without an order is enough.
  intro timed
  have accepted : ofSources [[("image_pull_interval", .string "nan")], [], Dotenv.source [] ""] =
      .ok { standard with pullInterval := .unordered } := by
    decide +kernel
  obtain ⟨_, _, positive, _⟩ := timed _ _ _ _ _ accepted
  simp [Binary64.IsPositive, Binary64.toRat?] at positive

end Settings

end ContainerScan
