import Recast.Catalog
import Recast.Data
import Recast.Dialect
import Recast.Dialect.Builtin
import Recast.Dialect.Listing
import Recast.Dialect.Spec
import Recast.Document
import Recast.Emission
import Recast.FileTree
import Recast.Invocation
import Recast.Journal
import Recast.Main
import Recast.Path
import Recast.Pattern.CharSet
import Recast.Pattern.Expr
import Recast.Pattern.Property
import Recast.Pattern.Reader
import Recast.Proofs.Appending
import Recast.Proofs.Arguments
import Recast.Proofs.Assembly
import Recast.Proofs.Basics
import Recast.Proofs.Blocks
import Recast.Proofs.CallSites
import Recast.Proofs.Checking
import Recast.Proofs.Cuts
import Recast.Proofs.Decoding
import Recast.Proofs.DefaultOutput
import Recast.Proofs.FileNames
import Recast.Proofs.Grammar
import Recast.Proofs.Headers
import Recast.Proofs.Layers
import Recast.Proofs.LineEnds
import Recast.Proofs.Matching
import Recast.Proofs.Offsets
import Recast.Proofs.Omissions
import Recast.Proofs.Outcomes
import Recast.Proofs.Positions
import Recast.Proofs.Precedence
import Recast.Proofs.Recognizers
import Recast.Proofs.Refusals
import Recast.Proofs.Replay
import Recast.Proofs.Resuming
import Recast.Proofs.Scanning
import Recast.Proofs.Shelving
import Recast.Proofs.Writes
import Recast.Scanner
import Recast.Session
import Recast.Settings
import Recast.Substitution
import Recast.Tag
import Recast.Text
import Recast.Text.CaseFold
import Recast.Text.Category
import Recast.Text.Script
import Recast.Toml
import Recast.Toml.Scalar
import Recast.Toml.Table
