/-! How similar two words are, and the words that come closest to a mistyped one. -/

namespace ContainerScan.Text

/-- The length of the longest common beginning of two texts. -/
def commonLength : List Char → List Char → Nat
  | first :: firsts, second :: seconds =>
    if first = second then commonLength firsts seconds + 1 else 0
  | _, _ => 0

/-- A stretch that two texts share: where it begins in each of them, and its length. -/
structure Stretch where
  first : Nat
  second : Nat
  size : Nat

/-- The longest stretch that two texts share; of several the one that begins first. -/
def longestStretch (first second : List Char) : Stretch :=
  (List.range first.length).foldl (fun best i =>
    (List.range second.length).foldl (fun best j =>
      let size := commonLength (first.drop i) (second.drop j)
      if best.size < size then ⟨i, j, size⟩ else best) best) ⟨0, 0, 0⟩

/-- The characters in the longest shared stretch and, in the same way, before and after it. -/
def sharedCount : Nat → List Char → List Char → Nat
  -- Each stretch takes at least one character away, so that the length of a text is enough.
  | 0, _, _ => 0
  | steps + 1, first, second =>
    let stretch := longestStretch first second
    if stretch.size = 0 then 0
    else stretch.size + sharedCount steps (first.take stretch.first) (second.take stretch.second) +
      sharedCount steps (first.drop (stretch.first + stretch.size))
        (second.drop (stretch.second + stretch.size))

/-- The part of all characters of two words that belongs to shared stretches. -/
def similarity (first second : List Char) : Rat :=
  let total := first.length + second.length
  if total = 0 then 1 else (2 * sharedCount first.length first second : Nat) / (total : Nat)

/-- The words among some that come close to a word: at most three, in alphabetical order. -/
def closeWords (candidates : List String) (word : String) : List String :=
  let rated := candidates.map fun candidate =>
    (similarity candidate.toList word.toList, candidate)
  let close := rated.filter fun rating => (6 / 10 : Rat) ≤ rating.1
  let best := close.mergeSort fun first second =>
    second.1 < first.1 || (first.1 = second.1 && second.2 ≤ first.2)
  ((best.take 3).map Prod.snd).mergeSort fun first second => first ≤ second

end ContainerScan.Text
