import Stepbook.Main
import Stepbook.Proofs.CommandLine.Modes
import Stepbook.Proofs.CommandLine.Options
import Stepbook.Proofs.CommandLine.Steps
import Stepbook.Proofs.Console.Control
import Stepbook.Proofs.Data.Json
import Stepbook.Proofs.FileTree
import Stepbook.Proofs.FileTree.Changes
import Stepbook.Proofs.Parameter.List
import Stepbook.Proofs.Phrase.Escape
import Stepbook.Proofs.Phrase.Fragment
import Stepbook.Proofs.Reader.Accounting
import Stepbook.Proofs.Reader.Join
import Stepbook.Proofs.Reader.Lines
import Stepbook.Proofs.Reader.Pairing
import Stepbook.Proofs.Scan.Boundary
import Stepbook.Proofs.Scan.Discovery
import Stepbook.Proofs.Scan.Feed
import Stepbook.Proofs.Scan.Independence
import Stepbook.Proofs.Scan.Moves
import Stepbook.Proofs.Scan.Policy
import Stepbook.Proofs.Step.Record
import Stepbook.Proofs.Step.Script
import Stepbook.Proofs.Phrase.Passes
import Stepbook.Proofs.Reader.Refusal
import Stepbook.Proofs.Phrase.Nesting
import Stepbook.Proofs.Text.LowerCase
import Stepbook.Proofs.Parameter.Classify
import Stepbook.Proofs.Scan.OneLine
import Stepbook.Proofs.Scan.SourceFailure
import Stepbook.Proofs.Scan.Accounts
import Stepbook.Proofs.Scan.LineEndings
import Stepbook.Proofs.Data.Entries
import Stepbook.Proofs.Step.Tidied
import Stepbook.Proofs.FileTree.Writing
import Stepbook.Proofs.CommandLine.Target
import Stepbook.Proofs.Registry.Changes
import Stepbook.Proofs.Reader.Imports
import Stepbook.Proofs.CommandLine.Failures
import Stepbook.Proofs.Toml.Nesting
import Stepbook.Proofs.CommandLine.Tree
