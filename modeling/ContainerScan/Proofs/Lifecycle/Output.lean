import ContainerScan.Connection
import ContainerScan.Proofs.Lifecycle.Operations
import ContainerScan.Proofs.Text.Damage

/-! The output of a container as a text: what of the bytes is text is kept, and what is not is told
apart from it. -/

namespace ContainerScan.Session

open Text.Utf8

/-- Where the daemon sends the bytes of texts with damaged stretches between them, the output that is
read holds every text as it is, and one replacement character for each stretch. Nothing else of the
container changes but that it is finished, at the moment at which reading began. -/
theorem readOutput_damaged {session : Session} (connected : session.lifecycle.connected = true)
    (damaged : Damaged)
    (sent : (session.world.nextOutcome .logs).result = .ok (.bytes damaged.bytes)) :
    ∃ after, readOutput session = .ok damaged.restored after ∧
      after.lifecycle.container = { session.lifecycle.container with
        finishedAt := some session.world.clock.now
        status := some .finished
        output := damaged.restored } := by
  have awaited : session.world.nextOutput = .ok damaged.bytes := by
    rw [World.nextOutput, sent]
    rfl
  rcases readOutput_cases connected with
    ⟨bytes, after, read, done, _, kept⟩ | ⟨cause, failure, after, lost, _⟩
  · -- The bytes that are read are the ones that were sent.
    rw [awaited] at read
    obtain rfl := Except.ok.inj read
    rw [decode_bytes] at done kept
    exact ⟨after, done, kept⟩
  · rw [awaited] at lost
    cases lost

/-- Half a character, a byte that is in none and a half character at the end, with texts of two and
four bytes around them. -/
def damagedOutput : Damaged where
  before := "é"
  scars := [
    { damage := [0xE2, 0x82]
      isDamage := .cutOff (c := '€') (by decide) (by decide) (by decide)
      behind := "x😀" },
    { damage := [0xFF], isDamage := .foreign (by decide), behind := "y" },
    { damage := [0xF0, 0x9F, 0x98]
      isDamage := .cutOff (c := '😀') (by decide) (by decide) (by decide)
      behind := "" }]
  apart := by decide

/-- An output that is damaged in three places is read with three replacement characters. -/
theorem readOutput_damaged_thrice :
    let script : Script := fun method _ =>
      if method = .logs then some ⟨0, .ok (.bytes damagedOutput.bytes)⟩ else none
    let lifecycle := Lifecycle.fresh { name := "retirejs" } "scan" .standard Connection.direct
    let session : Session :=
      ⟨{ lifecycle with connected := true }, { settings := .standard, script := script }⟩
    damagedOutput.bytes = [0xC3, 0xA9, 0xE2, 0x82, 0x78, 0xF0, 0x9F, 0x98, 0x80, 0xFF, 0x79, 0xF0,
        0x9F, 0x98] ∧
      damagedOutput.restored = "é\uFFFDx😀\uFFFDy\uFFFD" ∧
      ∃ after, readOutput session = .ok damagedOutput.restored after ∧
        after.lifecycle.container.output = damagedOutput.restored := by
  intro script lifecycle session
  -- The stretches are a character cut short, a foreign byte, and a character cut by the end.
  obtain ⟨after, done, kept⟩ := @readOutput_damaged session rfl damagedOutput rfl
  exact ⟨by decide, by decide, after, done, by rw [kept]⟩

end ContainerScan.Session
