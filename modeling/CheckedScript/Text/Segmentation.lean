/-!
# Segmentations

How a text is cut into clusters, the units a reader counts as one character, is
not decided here: scanning and the marking of lexemes take a `Segmentation` as
a parameter.  `Segmentation.Lawful` lists what may be relied on, which is what
the rules for extended grapheme clusters say of every text.  Clusters follow
each other without a gap.  Whether a text is cut between two characters depends
on what stands before the cut and on the one character after it, so both parts of
a text that is cut between clusters keep them.  A carriage return and a line feed
stay together; apart from that, every text is cut next to a control character
and between two plain ones.
-/

namespace CheckedScript

namespace Text

/-- The characters of one user-perceived character. -/
abbrev Cluster := List Char

/-- The control characters that a program may hold between its lexemes. -/
def IsControl (character : Char) : Prop :=
  character = '\t' ∨ character = '\n' ∨ character = '\r'

/-- The characters from the space to the tilde, none of which is a mark. -/
def IsPlain (character : Char) : Prop :=
  0x20 ≤ character.toNat ∧ character.toNat < 0x7f

/-- Neighbours that share no cluster. -/
structure Parted (last next : Char) : Prop where
  noLineEnd : ¬ (last = '\r' ∧ next = '\n')
  apart : IsControl last ∨ IsControl next ∨ IsPlain last ∧ IsPlain next

end Text

open Text (Cluster)

/-- A way to cut texts into clusters. -/
structure Segmentation where
  clusters : List Char → List Cluster

namespace Segmentation

/-- The number of user-perceived characters of a text. -/
def count (segmentation : Segmentation) (text : String) : Nat :=
  (segmentation.clusters text.toList).length

/-- What a segmentation has to keep to. -/
structure Lawful (segmentation : Segmentation) : Prop where
  /-- The clusters put together are the text. -/
  lossless : ∀ text, (segmentation.clusters text).flatten = text
  /-- Every cluster has a character. -/
  nonempty : ∀ text, ∀ cluster ∈ segmentation.clusters text, cluster ≠ []
  /-- What comes later does not change the clusters before it. -/
  keepsFront : ∀ text front back, segmentation.clusters text = front ++ back →
    segmentation.clusters front.flatten = front
  /-- Segmentation starts anew behind a cluster. -/
  keepsBack : ∀ text front back, segmentation.clusters text = front ++ back →
    segmentation.clusters back.flatten = back
  /-- A line end of two characters is one cluster. -/
  lineEnd : segmentation.clusters ['\r', '\n'] = [['\r', '\n']]
  /-- Between parted neighbours every text is cut. -/
  cuts : ∀ front last next back, Text.Parted last next →
    segmentation.clusters (front ++ last :: next :: back) =
      segmentation.clusters (front ++ [last]) ++ segmentation.clusters (next :: back)

end Segmentation

end CheckedScript
