import Graft.Chain
import Graft.Decode
import Graft.Monitor
import Graft.Relation.File
import Graft.Settings.File
import Graft.Storage
import Graft.Storage.Failure
import Graft.Uuid
import Graft.Value.Reader
import Graft.Proofs.Dialogue.Course
import Graft.Proofs.Embed.Matching
import Graft.Proofs.Embed.Splice
import Graft.Proofs.Embed.Batch
import Graft.Proofs.Embed.Siblings
import Graft.Proofs.Embed.Frame
import Graft.Proofs.Embed.Preorder
import Graft.Proofs.Embed.Account
import Graft.Proofs.Embed.Tier
import Graft.Proofs.Chain.Plan
import Graft.Proofs.Chain.Refusal
import Graft.Proofs.Chain.Compile
import Graft.Proofs.Chain.Sending
import Graft.Proofs.Query.Reading
import Graft.Proofs.Chain.Alignment
import Graft.Proofs.Chain.Vocabulary
import Graft.Proofs.Chain.Frame
import Graft.Proofs.Chain.Preorder
import Graft.Proofs.Chain.Guard
import Graft.Proofs.Chain.Stopping
import Graft.Proofs.Chain.Blame
import Graft.Proofs.Chain.EmptyLists
import Graft.Proofs.Chain.Independence
import Graft.Proofs.Chain.Tiers
import Graft.Proofs.Chain.Fields
import Graft.Proofs.Chain.Helpers
import Graft.Proofs.Ident.Grammar
import Graft.Proofs.Chain.Keys
import Graft.Proofs.Ident.RoundTrip
import Graft.Proofs.Selection.Pieces
import Graft.Proofs.Selection.Printing
import Graft.Proofs.Selection.Closing
import Graft.Proofs.Dialogue.Simulation
import Graft.Proofs.Chain.Transparency
import Graft.Proofs.Condition.Conjunction
import Graft.Proofs.Condition.Unambiguous
import Graft.Proofs.Selection.Names
import Graft.Proofs.Chain.Preview
import Graft.Proofs.Chain.Window
import Graft.Proofs.Dialogue.Drawing
import Graft.Proofs.Chain.Payload
import Graft.Proofs.Chain.Insertion
import Graft.Proofs.Chain.Cells
import Graft.Proofs.Chain.Columns
import Graft.Proofs.Chain.Conflict
import Graft.Proofs.Relation.Inference
import Graft.Proofs.Relation.Plural
import Graft.Proofs.Relation.Register
import Graft.Proofs.Selection.Appending
import Graft.Proofs.Chain.Deferral
import Graft.Proofs.Number.Rounding
import Graft.Proofs.Storage.ReadBack
import Graft.Proofs.Selection.Cutting
import Graft.Proofs.Text.InBounds
import Graft.Proofs.Selection.Slices
import Graft.Proofs.Ident.Slices
