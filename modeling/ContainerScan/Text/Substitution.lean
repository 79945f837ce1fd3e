/-! Occurrences of one text inside another, and their replacement from left to right. -/

namespace ContainerScan.Text

/-- Whether the token stands somewhere inside the text. -/
def occursIn (token : List Char) : List Char → Bool
  | [] => token.isEmpty
  | c :: rest => token.isPrefixOf (c :: rest) || occursIn token rest

/-- Replacement of a token, with a number of characters still to pass over. -/
def replaceFrom (token value : List Char) : Nat → List Char → List Char
  -- Characters of a token that has just been replaced are passed over one by one.
  | _, [] => []
  | skip + 1, _ :: rest => replaceFrom token value skip rest
  | 0, c :: rest =>
    if token.isPrefixOf (c :: rest) then value ++ replaceFrom token value (token.length - 1) rest
    else c :: replaceFrom token value 0 rest

/-- Every occurrence of a token replaced, leftmost first and without overlap. -/
def replaceAll (token value text : List Char) : List Char :=
  replaceFrom token value 0 text

/-- Whether a string holds a token. -/
def contains (text token : String) : Bool :=
  occursIn token.toList text.toList

/-- Every occurrence of a token in a string replaced by a value. -/
def replace (token value text : String) : String :=
  String.ofList (replaceAll token.toList value.toList text.toList)

/-- Passing over a whole stretch leaves the replacement of what follows it. -/
theorem replaceFrom_append (token value stretch rest : List Char) :
    replaceFrom token value stretch.length (stretch ++ rest) = replaceAll token value rest := by
  -- Each character of the stretch uses up one step of the count.
  induction stretch with
  | nil => rfl
  | cons c stretch ih => simpa [replaceFrom] using ih

/-- A token at the front gives way to its value. -/
theorem replaceAll_token (token value rest : List Char) (nonempty : token ≠ []) :
    replaceAll token value (token ++ rest) = value ++ replaceAll token value rest := by
  -- The first character opens the match, and the others are passed over.
  cases token with
  | nil => contradiction
  | cons c token =>
    have front : (c :: token).isPrefixOf (c :: (token ++ rest)) = true := by
      rw [List.isPrefixOf_iff_prefix]
      exact ⟨rest, rfl⟩
    simp only [List.cons_append, replaceAll, replaceFrom, front, if_true, List.length_cons,
      Nat.add_sub_cancel]
    exact congrArg (value ++ ·) (replaceFrom_append (c :: token) value token rest)

/-- A character at which no token begins stays where it is. -/
theorem replaceAll_cons (token value : List Char) (c : Char) (rest : List Char)
    (other : token.isPrefixOf (c :: rest) = false) :
    replaceAll token value (c :: rest) = c :: replaceAll token value rest := by
  -- No match opens here, so the scan moves on by one character.
  simp [replaceAll, replaceFrom, other]

end ContainerScan.Text
