namespace SqlGateway

/-!
Character classes given by closed ranges of code points.  The classes of the
text modules beside this one are data of the character standard; each is a list
of ranges in increasing order, and membership is decided by looking through it.
-/

/-- A class of characters, as closed ranges of code points in increasing order. -/
abbrev CodeRanges : Type := List (Nat × Nat)

namespace CodeRanges

/-- Whether one of the ranges holds the code point. -/
def has (ranges : CodeRanges) (code : Nat) : Bool :=
  ranges.any fun range => range.1 ≤ code && code ≤ range.2

/-- The ranges are nonempty, and each ends before the next begins. -/
def increasing : CodeRanges → Bool
  | [] => true
  | [range] => range.1 ≤ range.2
  | range :: next :: rest => range.1 ≤ range.2 && range.2 < next.1 && increasing (next :: rest)

end CodeRanges

end SqlGateway
