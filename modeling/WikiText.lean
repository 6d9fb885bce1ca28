import WikiText.Cli.Directory
import WikiText.Main
import WikiText.Proofs.Arguments
import WikiText.Proofs.Clean.Formula
import WikiText.Proofs.Clean.Label
import WikiText.Proofs.Clean.Lines
import WikiText.Proofs.Clean.Preparation
import WikiText.Proofs.Cli.Run
import WikiText.Proofs.Emphasis.Deletion
import WikiText.Proofs.Emphasis.Switches
import WikiText.Proofs.Formula.Idioms
import WikiText.Proofs.Formula.Partition
import WikiText.Proofs.Formula.Plain
import WikiText.Proofs.Formula.Stages
import WikiText.Proofs.Html.Reference
import WikiText.Proofs.Html.Spans
import WikiText.Proofs.Link.Budget
import WikiText.Proofs.Link.Category
import WikiText.Proofs.Link.Delimited
import WikiText.Proofs.Link.External
import WikiText.Proofs.Namespaces
import WikiText.Proofs.Namespaces.Document
import WikiText.Proofs.Script
import WikiText.Proofs.Session
import WikiText.Proofs.Table.Repetition
