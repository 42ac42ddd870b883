import DeclLinker.Main
import DeclLinker.Proofs.Dict
import DeclLinker.Proofs.Text.Recogniser
import DeclLinker.Proofs.Text.Order
import DeclLinker.Proofs.Text.Spelling
import DeclLinker.Proofs.Source.Grammar
import DeclLinker.Proofs.Source.Occurrence
import DeclLinker.Proofs.Source.Scan
import DeclLinker.Proofs.Source.Collect
import DeclLinker.Proofs.Source.Guard
import DeclLinker.Proofs.Source.Isolation
import DeclLinker.Proofs.Source.Exports
import DeclLinker.Proofs.Source.Lasting
import DeclLinker.Proofs.Source.Produced
import DeclLinker.Proofs.Repair.Shape
import DeclLinker.Proofs.Repair.Mending
import DeclLinker.Proofs.Repair.Steady
import DeclLinker.Proofs.Repair.Independence
import DeclLinker.Proofs.Repair.Surroundings
import DeclLinker.Proofs.Index.Origin
import DeclLinker.Proofs.Index.Contents
import DeclLinker.Proofs.Index.Permutation
import DeclLinker.Proofs.Import.Naming
import DeclLinker.Proofs.Import.Block
import DeclLinker.Proofs.Import.Bound
import DeclLinker.Proofs.Import.Fresh
import DeclLinker.Proofs.Import.Schedule
import DeclLinker.Proofs.Import.Reach
import DeclLinker.Proofs.Resolution.Decision
import DeclLinker.Proofs.Resolution.Replacement
import DeclLinker.Proofs.Resolution.Simultaneous
import DeclLinker.Proofs.Resolution.Harmless
import DeclLinker.Proofs.Resolution.Chain
import DeclLinker.Proofs.Linking.Survival
import DeclLinker.Proofs.Linking.Settled
import DeclLinker.Proofs.Linking.Sound
import DeclLinker.Proofs.Linking.Splice
import DeclLinker.Proofs.Linking.Blocks
import DeclLinker.Proofs.Linking.Declared
import DeclLinker.Proofs.Linking.Names
import DeclLinker.Proofs.Linking.Fixpoint
import DeclLinker.Proofs.Linking.Layout
import DeclLinker.Proofs.Pass.Tree
import DeclLinker.Proofs.Pass.Disk
import DeclLinker.Proofs.Pass.Effect
import DeclLinker.Proofs.Pass.Corpus
import DeclLinker.Proofs.Pass.Idempotence
import DeclLinker.Proofs.Pass.Outcome
import DeclLinker.Proofs.Pass.Declarations
import DeclLinker.Proofs.Pass.History
import DeclLinker.Proofs.Pass.Tame
import DeclLinker.Proofs.Pass.Rerun
import DeclLinker.Proofs.Pass.Repeat
import DeclLinker.Proofs.Path.Specifier
import DeclLinker.Proofs.Import.Rendering
import DeclLinker.Proofs.Import.Search
import DeclLinker.Proofs.Resolution.Growth
import DeclLinker.Proofs.Source.Positions
import DeclLinker.Proofs.Settings.Sections
import DeclLinker.Proofs.Settings.Recheck
import DeclLinker.Proofs.Value.Merge
import DeclLinker.Proofs.Value.Leaves
import DeclLinker.Proofs.Settings.Precedence
import DeclLinker.Proofs.Pass.Discovery
import DeclLinker.Proofs.Pass.Identifiers
import DeclLinker.Proofs.Console.Markup
import DeclLinker.Proofs.Console.Spans
import DeclLinker.Proofs.Console.Pairing
import DeclLinker.Proofs.Console.Printing
import DeclLinker.Proofs.Console.Messages
import DeclLinker.Proofs.Console.Report
