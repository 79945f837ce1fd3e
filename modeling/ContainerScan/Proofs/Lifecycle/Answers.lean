import ContainerScan.Proofs.Lifecycle.Operations

/-! What the daemon has answered in the course of time, and the answers that can be relied on. -/

namespace ContainerScan

/-- The methods with which a container is made and attended to. -/
def Method.attending : List Method := [.createContainer, .start, .wait, .logs]

/-- A daemon that refuses in its own words, and answers about containers in the form that is relied
on. -/
structure Script.WellFormed (script : Script) : Prop where
  refuses : ∀ method number failure, (script.outcome method number).result = .error failure →
    ∃ fault text, failure = .daemon fault text
  creates : ∀ number reply, (script.outcome .createContainer number).result = .ok reply →
    ∃ members cid, reply = .value (.object members) ∧
      Json.lookup "Id" members = some (.string cid)
  exits : ∀ number reply, (script.outcome .wait number).result = .ok reply →
    ∃ members, reply = .value (.object members) ∧
      (Json.lookup "StatusCode" members = none ∨
        ∃ code, Json.lookup "StatusCode" members = some (.int code)) ∧
      (Json.lookup "Error" members = none ∨ Json.lookup "Error" members = some .null ∨
        ∃ error, Json.lookup "Error" members = some (.object error))
  reads : ∀ number reply, (script.outcome .logs number).result = .ok reply →
    ∃ bytes, reply = .bytes bytes

namespace World

/-- Between two worlds a call of a method came back with a reply. -/
def Returned (before after : World) (method : Method) (reply : Reply) : Prop :=
  -- The calls of a method are numbered, and each number has its outcome in the script.
  ∃ number, before.callCount method ≤ number ∧ number < after.callCount method ∧
    (before.script.outcome method number).result = .ok reply

/-- Between two worlds the calls about a container came back with exactly these replies. -/
structure Answered (answers : List (Method × Reply)) (before after : World) : Prop where
  script : after.script = before.script
  counts : ∀ method, before.callCount method ≤ after.callCount method
  returned : ∀ method ∈ Method.attending, ∀ reply,
    Returned before after method reply ↔ (method, reply) ∈ answers

/-- Replies come back one after the other. -/
theorem Answered.trans {earlier later : List (Method × Reply)} {first second third : World}
    (one : Answered earlier first second) (two : Answered later second third) :
    Answered (earlier ++ later) first third := by
  refine ⟨two.script.trans one.script,
    fun method => Nat.le_trans (one.counts method) (two.counts method),
    fun method member reply => ?_⟩
  rw [List.mem_append, ← one.returned method member, ← two.returned method member]
  have before := one.counts method
  have after := two.counts method
  constructor
  · -- The number of the call is one of the first stretch or of the second.
    rintro ⟨number, late, early, answered⟩
    rcases Nat.lt_or_ge number (second.callCount method) with inside | outside
    · exact Or.inl ⟨number, late, inside, answered⟩
    · exact Or.inr ⟨number, outside, early, by rwa [one.script]⟩
  · rintro (⟨number, late, early, answered⟩ | ⟨number, late, early, answered⟩)
    · exact ⟨number, late, by omega, answered⟩
    · exact ⟨number, by omega, early, by rwa [one.script] at answered⟩

/-- Where nothing about a container is asked no reply about one comes back. -/
theorem Asked.answered_others {queries : List Query} {before after : World}
    (asked : Asked queries before after)
    (others : ∀ query ∈ queries, query.method ∉ Method.attending) : Answered [] before after := by
  -- The count of calls stands still for every method that is attended to.
  refine ⟨asked.script, fun method => ?_, fun method member reply => ?_⟩
  · rw [asked.callCount method]
    exact Nat.le_add_right ..
  · have none : (queries.countP fun query => query.method = method) = 0 := by
      rw [List.countP_eq_zero]
      intro query asking
      have other : query.method ≠ method := fun same => others query asking (by rwa [same])
      simpa using other
    have still := asked.callCount method
    rw [none] at still
    refine iff_of_false ?_ List.not_mem_nil
    rintro ⟨number, late, early, -⟩
    omega

/-- What came back between two worlds with one query is the outcome that was next. -/
theorem Asked.returned_iff {query : Query} {before after : World}
    (asked : Asked [query] before after) (method : Method) (reply : Reply) :
    Returned before after method reply ↔
      method = query.method ∧ (before.nextOutcome query.method).result = .ok reply := by
  -- Between the two worlds lies one number of a call, and that of its method alone.
  have counted := asked.callCount method
  rw [List.countP_singleton] at counted
  constructor
  · rintro ⟨number, late, early, answered⟩
    by_cases same : query.method = method
    · subst same
      rw [if_pos (decide_eq_true rfl)] at counted
      obtain rfl : number = before.callCount query.method := by omega
      exact ⟨rfl, answered⟩
    · rw [if_neg (by simpa using same)] at counted
      omega
  · rintro ⟨rfl, answered⟩
    rw [if_pos (decide_eq_true rfl)] at counted
    exact ⟨before.callCount query.method, Nat.le_refl _, by omega, answered⟩

/-- A query that the daemon answers brings back its reply. -/
theorem Asked.answered_ok {query : Query} {before after : World}
    (asked : Asked [query] before after) {reply : Reply}
    (answers : (before.nextOutcome query.method).result = .ok reply) :
    Answered [(query.method, reply)] before after := by
  -- The one call has returned the reply, and no other call was made.
  refine ⟨asked.script, fun method => ?_, fun method _ other => ?_⟩
  · rw [asked.callCount method]
    exact Nat.le_add_right ..
  · rw [asked.returned_iff, answers, List.mem_singleton, Prod.mk.injEq, Except.ok.injEq,
      eq_comm (a := other)]

/-- A query that the daemon refuses brings back nothing. -/
theorem Asked.answered_error {query : Query} {before after : World}
    (asked : Asked [query] before after) {failure : Failure}
    (refuses : (before.nextOutcome query.method).result = .error failure) :
    Answered [] before after := by
  -- The one call has returned nothing.
  refine ⟨asked.script, fun method => ?_, fun method _ reply => ?_⟩
  · rw [asked.callCount method]
    exact Nat.le_add_right ..
  · rw [asked.returned_iff, refuses]
    exact iff_of_false (fun both => nomatch both.2) List.not_mem_nil

/-- Asking for anything but containers brings back no reply about one. -/
theorem Asks.answered_others {methods : List Method} {before after : World}
    (asks : Asks methods before after) (others : ∀ method ∈ methods, method ∉ Method.attending) :
    Answered [] before after := by
  obtain ⟨queries, asked, within⟩ := asks
  exact asked.answered_others fun query member => others query.method (within query member)

end World

/-- A report in the usual form has an exit code that can be noted in full. -/
theorem Script.WellFormed.noted {script : Script} (formed : script.WellFormed) {number : Nat}
    {reply : Reply} (answered : (script.outcome .wait number).result = .ok reply) :
    ∃ members code, reply = .value (.object members) ∧ ExitCode.ofMembers members = .ok code ∧
      ExitCode.noted members = .ok code := by
  obtain ⟨members, rfl, status, error⟩ := formed.exits number reply answered
  -- A report without a code counts as minus one.
  have given : ∃ code, ExitCode.ofMembers members = .ok code := by
    rcases status with absent | ⟨code, present⟩
    · exact ⟨-1, by rw [ExitCode.ofMembers, absent]⟩
    · exact ⟨code, by rw [ExitCode.ofMembers, present]; rfl⟩
  -- The error is looked at where the code is not zero, and can be read in any case.
  have readable : ∃ message, ExitCode.errorMessage members = .ok message := by
    rcases error with absent | absent | ⟨found, present⟩
    · exact ⟨.null, by rw [ExitCode.errorMessage, absent]; rfl⟩
    · exact ⟨.null, by rw [ExitCode.errorMessage, absent]; rfl⟩
    · exact ⟨_, by rw [ExitCode.errorMessage, present]; rfl⟩
  obtain ⟨code, exits⟩ := given
  obtain ⟨message, read⟩ := readable
  refine ⟨members, code, rfl, exits, ?_⟩
  unfold ExitCode.noted
  rw [exits, read]
  by_cases zero : code = 0
  · subst zero
    rfl
  · change (if code ≠ 0 then _ else _ : Except Failure Int) = _
    rw [if_pos zero]
    rfl

end ContainerScan
