import CheckedScript.Run
import CheckedScript.Tree.Outline
import CheckedScript.Proofs.Grammar
import CheckedScript.Proofs.Reader.Outcome
import CheckedScript.Proofs.Reader.Soundness
import CheckedScript.Proofs.Reader.StatementSoundness
import CheckedScript.Proofs.Reader.Completeness
import CheckedScript.Proofs.Reader.StatementCompleteness
import CheckedScript.Proofs.Reader.Sentences
import CheckedScript.Proofs.Frames
import CheckedScript.Proofs.Shape
import CheckedScript.Proofs.Typing.CheckEffect
import CheckedScript.Proofs.Typing.Inhabits
import CheckedScript.Proofs.Walks.Agreement
import CheckedScript.Proofs.Walks.Recorded
import CheckedScript.Proofs.Running.Endings
import CheckedScript.Proofs.Scanning.Lines
import CheckedScript.Proofs.Scanning.Places
import CheckedScript.Proofs.Scanning.Tokens
import CheckedScript.Proofs.Scanning.Lexemes
import CheckedScript.Proofs.Scanning.LongestMatch
import CheckedScript.Proofs.Scanning.Joints
import CheckedScript.Proofs.Scanning.Respacing
import CheckedScript.Proofs.Layout
import CheckedScript.Proofs.Sessions
import CheckedScript.Proofs.Typing.Endless
import CheckedScript.Proofs.Typing.Flat
import CheckedScript.Proofs.Walks.Bodies
import CheckedScript.Proofs.Walks.Declarations
import CheckedScript.Proofs.Scanning.Excerpts
import CheckedScript.Proofs.Anchors.Reading
import CheckedScript.Proofs.Anchors.Checking
import CheckedScript.Proofs.Anchors.Running
import CheckedScript.Proofs.Carets
import CheckedScript.Proofs.Names
import CheckedScript.Proofs.Histories
import CheckedScript.Proofs.Running.Closures
import CheckedScript.Proofs.Running.Reachable
import CheckedScript.Proofs.Walks.Courses
import CheckedScript.Proofs.Walks.Nodes
import CheckedScript.Proofs.Walks.Entries
import CheckedScript.Proofs.Walks.RunDepths
import CheckedScript.Proofs.Walks.CheckDepths
import CheckedScript.Proofs.Depths
import CheckedScript.Proofs.Charges
import CheckedScript.Proofs.Reader.Charges
import CheckedScript.Proofs.Typing.Founded
import CheckedScript.Proofs.Typing.Faultless
import CheckedScript.Proofs.Phases
import CheckedScript.Proofs.Walks.Parts
import CheckedScript.Proofs.Walks.Passages
import CheckedScript.Proofs.Walks.Disciplines
import CheckedScript.Proofs.Walks.Compliance
import CheckedScript.Proofs.Walks.Freshness
import CheckedScript.Proofs.Walks.Knowledge
import CheckedScript.Proofs.Walks.Recursion
import CheckedScript.Proofs.Walks.Annotations
import CheckedScript.Proofs.Walks.Coverage
import CheckedScript.Proofs.Recovery.Trees
import CheckedScript.Proofs.Recovery.States
import CheckedScript.Proofs.Recovery.Conditions
import CheckedScript.Proofs.Recovery.Checking
import CheckedScript.Proofs.Reader.KeptTokens
import CheckedScript.Proofs.Recovery.Initializers
import CheckedScript.Proofs.Recovery.Mirrors
import CheckedScript.Proofs.Recovery.Mirroring
import CheckedScript.Proofs.Recovery.Exchanges
import CheckedScript.Proofs.Cascades
import CheckedScript.Proofs.Reader.Modes
import CheckedScript.Proofs.Reader.Locality
import CheckedScript.Proofs.Reader.Borders
import CheckedScript.Proofs.Reader.Stopping
import CheckedScript.Proofs.Segments
import CheckedScript.Proofs.LooseGrammar
import CheckedScript.Proofs.Reader.Viability
import CheckedScript.Proofs.Reader.StatementViability
import CheckedScript.Proofs.Reader.Acceptance
import CheckedScript.Proofs.Reader.StatementAcceptance
import CheckedScript.Proofs.Reader.Visits
import CheckedScript.Proofs.Reader.Leads
import CheckedScript.Proofs.Reader.Endings
import CheckedScript.Proofs.Reader.FirstFaults
import CheckedScript.Proofs.Refusals
import CheckedScript.Proofs.Targets
import CheckedScript.Proofs.Scanning.Concatenation
import CheckedScript.Proofs.Running.Upkeep
import CheckedScript.Proofs.Running.Leaks
import CheckedScript.Proofs.Outlines.Injectivity
import CheckedScript.Proofs.Grouping.Trees
import CheckedScript.Proofs.Grouping.Computations
import CheckedScript.Proofs.Grouping.Values
import CheckedScript.Proofs.Running.Consoles
import CheckedScript.Proofs.Grouping.Running
import CheckedScript.Proofs.Grouping.States
import CheckedScript.Proofs.Grouping.Checking
import CheckedScript.Proofs.Parentheses
import CheckedScript.Proofs.Numbers.WholeNumbers
import CheckedScript.Proofs.Numbers.Ranges
import CheckedScript.Proofs.Walks.GivenBack
import CheckedScript.Proofs.Soundness.Judgements
import CheckedScript.Proofs.Soundness.Stores
import CheckedScript.Proofs.Soundness.Evaluation
import CheckedScript.Proofs.Soundness.Definiteness
import CheckedScript.Proofs.Soundness.Worlds
import CheckedScript.Proofs.Soundness.Derivations
import CheckedScript.Proofs.Soundness.StatementDerivations
import CheckedScript.Proofs.Soundness.TopLevel
import CheckedScript.Proofs.Soundness.Programs
