import CheckedScript.Text.ClusterClass
import CheckedScript.Text.Segmentation

/-!
# The standard segmentation

The segmentation that programs are run with.  The decision whether a character
joins the cluster before it depends on a bounded `Context`: the class of the last
character, whether a lone regional indicator waits for its partner, and how far
an emoji chain has come.  Segmentation is one pass over the characters and keeps
every one of them, in order.
-/

namespace CheckedScript

namespace Text

/-- Progress of a chain `pictograph extender* joiner pictograph`. -/
inductive Chain where
  | none
  | pictograph
  | joined
  deriving DecidableEq, Repr

/-- What the end of an open cluster says about the next character. -/
structure Context where
  /-- The class of the last character. -/
  last : ClusterClass
  /-- Whether the last character is a regional indicator without a partner. -/
  loneRegional : Bool
  /-- How far an emoji chain has come. -/
  chain : Chain
  deriving DecidableEq, Repr

namespace Context

/-- The context after the first character of a cluster. -/
def start (first : ClusterClass) : Context where
  last := first
  loneRegional := first = .regional
  chain := if first = .pictograph then .pictograph else .none

/-- The context after one more character of the same cluster. -/
def push (context : Context) (next : ClusterClass) : Context where
  last := next
  loneRegional := next = .regional && !context.loneRegional
  chain :=
    match next, context.chain with
    | .pictograph, _ => .pictograph
    | .extender, .pictograph => .pictograph
    | .joiner, .pictograph => .joined
    | _, _ => .none

/-- Whether the next character belongs to the open cluster. -/
def joins (context : Context) (next : ClusterClass) : Bool :=
  match context.last, next with
  | .carriageReturn, .lineFeed => true
  | .carriageReturn, _ | .lineFeed, _ | .control, _ => false
  | _, .carriageReturn | _, .lineFeed | _, .control => false
  | _, .extender | _, .joiner | _, .spacing => true
  | .prepended, _ => true
  | .leadingConsonant, .leadingConsonant
  | .leadingConsonant, .vowel
  | .leadingConsonant, .openSyllable
  | .leadingConsonant, .closedSyllable => true
  | .openSyllable, .vowel | .openSyllable, .trailingConsonant => true
  | .vowel, .vowel | .vowel, .trailingConsonant => true
  | .closedSyllable, .trailingConsonant => true
  | .trailingConsonant, .trailingConsonant => true
  | .joiner, .pictograph => context.chain = .joined
  | .regional, .regional => context.loneRegional
  | _, _ => false

end Context

/-- The rest of an open cluster, and the clusters that follow it. -/
def segment (context : Context) : List Char → Cluster × List Cluster
  | [] => ([], [])
  | character :: characters =>
      let next := ClusterClass.ofChar character
      if context.joins next then
        let (rest, following) := segment (context.push next) characters
        (character :: rest, following)
      else
        let (rest, following) := segment (Context.start next) characters
        ([], (character :: rest) :: following)

/-- Cut a text into clusters. -/
def clusters : List Char → List Cluster
  | [] => []
  | character :: characters =>
      let (rest, following) :=
        segment (Context.start (ClusterClass.ofChar character)) characters
      (character :: rest) :: following

/-- Segmentation neither drops, adds nor reorders characters. -/
theorem segment_flatten (context : Context) (characters : List Char) :
    (segment context characters).1 ++ (segment context characters).2.flatten =
      characters := by
  induction characters generalizing context with
  | nil => rfl
  | cons character characters inductionHypothesis =>
      simp only [segment]
      split
      · simp [inductionHypothesis]
      · simp [inductionHypothesis]

/-- The clusters of a text put together are the text. -/
@[simp]
theorem clusters_flatten (characters : List Char) :
    (clusters characters).flatten = characters := by
  cases characters with
  | nil => rfl
  | cons character characters =>
      simp [clusters, segment_flatten]

end Text

/-- The segmentation by the tables of character classes. -/
def Segmentation.standard : Segmentation where
  clusters := Text.clusters

/-- The number of user-perceived characters of a text. -/
def Text.clusterCount (text : String) : Nat :=
  Segmentation.standard.count text

end CheckedScript
