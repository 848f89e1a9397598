import LaunchPlan.Introspection
import LaunchPlan.Main
import LaunchPlan.Proofs.History
import LaunchPlan.Proofs.Reach
import LaunchPlan.Proofs.Scope
import LaunchPlan.Proofs.Scoping
import LaunchPlan.Proofs.Dispatch
import LaunchPlan.Proofs.Shutdown
import LaunchPlan.Proofs.Bound
import LaunchPlan.Proofs.Cascade
import LaunchPlan.Proofs.Current
import LaunchPlan.Proofs.Answer
import LaunchPlan.Proofs.Segmentation
import LaunchPlan.Proofs.Tokenization
import LaunchPlan.Proofs.Rendering
import LaunchPlan.Proofs.Grammar
import LaunchPlan.Proofs.Outline
import LaunchPlan.Proofs.XmlLayout
import LaunchPlan.Proofs.YamlLayout
import LaunchPlan.Proofs.Markup
import LaunchPlan.Proofs.Precedence
import LaunchPlan.Proofs.Described
import LaunchPlan.Proofs.Overrun
import LaunchPlan.Proofs.Atomic
import LaunchPlan.Proofs.Emission
import LaunchPlan.Proofs.Count
import LaunchPlan.Proofs.Inclusion
import LaunchPlan.Proofs.Lookup
import LaunchPlan.Proofs.Extension
import LaunchPlan.Proofs.Reset
import LaunchPlan.Proofs.Grouping
import LaunchPlan.Proofs.Difference
import LaunchPlan.Proofs.Repetition
import LaunchPlan.Proofs.Spelling
import LaunchPlan.Proofs.Registration
import LaunchPlan.Proofs.Hierarchy
import LaunchPlan.Proofs.Matching
import LaunchPlan.Proofs.Standing
import LaunchPlan.Proofs.Variables
import LaunchPlan.Proofs.Override
import LaunchPlan.Proofs.CommandLine
