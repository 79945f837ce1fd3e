import ContainerScan.Display.Literal.Token

/-! Which texts are literals: numbers, quoted texts, constants, and collections of literals. -/

namespace ContainerScan.Display.Literal

/-- What a part of a literal is, as far as its surroundings depend on it. -/
inductive Kind where
  | real
  /-- A real number under a sign, which takes no second one. -/
  | signedReal
  | imaginary
  | text
  | bytes
  /-- Any other value that sets and keys may hold. -/
  | fixed
  /-- A value that sets and keys may not hold. -/
  | changeable
  deriving DecidableEq, Repr

namespace Kind

/-- What a part is that stands in brackets, where a quoted text has come to its end. -/
def enclosed : Kind → Kind
  | .text | .bytes => .fixed
  | kind => kind

end Kind

/-- What has been read of one item of a collection. -/
inductive Operand where
  | nothing
  | sign
  /-- A real number and a sign, behind which an imaginary number must stand. -/
  | sum
  | value (kind : Kind)
  deriving DecidableEq, Repr

namespace Operand

/-- An item with one more value, where quoted texts of one kind go on. -/
def withValue? : Operand → Kind → Option Operand
  | nothing, kind => some (value kind)
  | sign, .real => some (value .signedReal)
  | sign, .imaginary => some (value .fixed)
  | sum, .imaginary => some (value .fixed)
  | value .text, .text => some (value .text)
  | value .bytes, .bytes => some (value .bytes)
  | _, _ => none

/-- An item with one more sign. -/
def withSign? : Operand → Option Operand
  | nothing => some sign
  | value .real => some sum
  | value .signedReal => some sum
  | _ => none

end Operand

/-- What has been read of a collection that is still open. -/
structure Frame where
  isBrace : Bool
  /-- Whether a comma ended an item. -/
  isList : Bool := false
  /-- Whether sets may hold all items that have ended. -/
  isFixed : Bool := true
  /-- Whether the items are pairs, once the first of them has shown it. -/
  pairs : Option Bool := none
  /-- Whether the key of a pair has been read. -/
  hasKey : Bool := false
  item : Operand := .nothing
  deriving DecidableEq, Repr

namespace Frame

/-- Whether an item of a kind may end here. -/
def admits (frame : Frame) (kind : Kind) : Bool :=
  if !frame.isBrace then true
  else if frame.pairs = some true then frame.hasKey
  else kind ≠ .changeable

/-- A collection behind a comma. -/
def withComma? (frame : Frame) : Option Frame :=
  match frame.item with
  | .value kind =>
    if frame.admits kind then
      some { frame with
        isList := true, isFixed := frame.isFixed && kind ≠ .changeable,
        pairs := frame.pairs.or (some false), hasKey := false, item := .nothing }
    else none
  | _ => none

/-- A collection behind a colon, which ends the key of a pair. -/
def withColon? (frame : Frame) : Option Frame :=
  match frame.item with
  | .value kind =>
    if frame.isBrace && !frame.hasKey && frame.pairs ≠ some false && kind ≠ .changeable then
      some { frame with pairs := some true, hasKey := true, item := .nothing }
    else none
  | _ => none

/-- What a collection is when it ends, unless something is missing. -/
def kind? (frame : Frame) : Option Kind :=
  match frame.item with
  | .nothing =>
    if frame.hasKey then none
    else some (if frame.isBrace || !frame.isFixed then .changeable else .fixed)
  | .value kind =>
    if !frame.admits kind then none
    else if frame.isBrace then some .changeable
    else if !frame.isList then some kind.enclosed
    else some (if frame.isFixed && kind ≠ .changeable then .fixed else .changeable)
  | _ => none

/-- A collection with one more value in its open item. -/
def withValue? (frame : Frame) (kind : Kind) : Option Frame :=
  (frame.item.withValue? kind).map fun item => { frame with item := item }

/-- A collection with one more sign in its open item. -/
def withSign? (frame : Frame) : Option Frame :=
  frame.item.withSign?.map fun item => { frame with item := item }

/-- Whether a text may end where all brackets are closed. -/
def isWhole (frame : Frame) : Bool :=
  (frame.isList || frame.item ≠ .nothing) && frame.kind?.isSome

end Frame

/-- The most brackets that may be open at once. -/
def depthLimit : Nat := 200

/-- Whether tokens complete the collections that are open, from the innermost on, to a literal. -/
def completes : List Frame → List Token → Bool
  | [frame], [] => frame.isWhole
  -- A literal stands in one line, before and behind which only empty lines may come.
  | [frame], .lineEnd :: rest =>
    if frame = { isBrace := false } then completes [frame] rest
    else rest.all (· = .lineEnd) && frame.isWhole
  | frame :: outer, .set :: .opening false :: .closing false :: rest =>
    match frame.withValue? .changeable with
    | some frame => completes (frame :: outer) rest
    | none => false
  | frames, .opening isBrace :: rest =>
    frames.length ≤ depthLimit && completes ({ isBrace := isBrace } :: frames) rest
  | frame :: next :: outer, .closing isBrace :: rest =>
    match if frame.isBrace = isBrace then frame.kind?.bind next.withValue? else none with
    | some next => completes (next :: outer) rest
    | none => false
  | frame :: outer, token :: rest =>
    let next := match token with
      | .real => frame.withValue? .real
      | .imaginary => frame.withValue? .imaginary
      | .text => frame.withValue? .text
      | .bytes => frame.withValue? .bytes
      | .constant => frame.withValue? .fixed
      | .sign => frame.withSign?
      | .comma => frame.withComma?
      | .colon => frame.withColon?
      | .lineEnd => some frame
      | _ => none
    match next with
    | some frame => completes (frame :: outer) rest
    | none => false
  | _, _ => false

end Literal

/-- Whether a text is a literal. -/
def isLiteral (text : List Char) : Bool :=
  match Literal.tokens? text with
  | some tokens => Literal.completes [{ isBrace := false }] tokens
  | none => false

end ContainerScan.Display
