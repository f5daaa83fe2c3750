/-!
# Ranges of code points

A character property is stored as an ascending list of inclusive ranges.  The
search stops at the first range that starts beyond the code point.
-/

namespace CheckedScript

namespace Text

/-- Inclusive ranges of code points, in ascending order. -/
abbrev CodeRanges := List (Nat × Nat)

namespace CodeRanges

/-- Whether a code point lies in one of the ranges. -/
def contains : CodeRanges → Nat → Bool
  | [], _ => false
  | (first, last) :: ranges, code =>
      if code < first then false
      else if code ≤ last then true
      else contains ranges code

end CodeRanges

end Text

end CheckedScript
