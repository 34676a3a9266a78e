import PromptMarkup.DryRun
import PromptMarkup.Engine.Blueprint
import PromptMarkup.Explain
import PromptMarkup.Options.Record
import PromptMarkup.Proofs.Inherit.Layers
import PromptMarkup.Proofs.Inherit.Nearest
import PromptMarkup.Proofs.Render.Course
import PromptMarkup.Proofs.Render.Related
import PromptMarkup.Proofs.Engine.Load
import PromptMarkup.Proofs.Render.Strategies
import PromptMarkup.Proofs.Render.Available
import PromptMarkup.Proofs.Render.Reached
import PromptMarkup.Proofs.Expr.Calls
import PromptMarkup.Proofs.Render.Fatal
import PromptMarkup.Proofs.Engine.Involved
import PromptMarkup.Proofs.Render.Absorbed
import PromptMarkup.Proofs.DryRun.Prediction
import PromptMarkup.Proofs.DryRun.Inventory
import PromptMarkup.Proofs.DryRun.Nested
import PromptMarkup.Proofs.DryRun.Listing
import PromptMarkup.Proofs.Tree.Taking
import PromptMarkup.Proofs.Tree.Regular
import PromptMarkup.Proofs.Value.Leaf
import PromptMarkup.Proofs.Expr.Declared
import PromptMarkup.Proofs.Render.Reads
import PromptMarkup.Proofs.DryRun.Unused
import PromptMarkup.Proofs.Tree.Demands
import PromptMarkup.Proofs.Engine.Lineage
import PromptMarkup.Proofs.DryRun.Blind
import PromptMarkup.Proofs.Render.Additions
import PromptMarkup.Proofs.Render.Evaluations
import PromptMarkup.Proofs.Render.Explained
import PromptMarkup.Proofs.Render.Appended
import PromptMarkup.Proofs.Tree.Rebuilt
import PromptMarkup.Proofs.Tree.Reading
import PromptMarkup.Proofs.Render.Literal
import PromptMarkup.Proofs.Render.Raw
import PromptMarkup.Proofs.Token.Exact
import PromptMarkup.Proofs.Engine.Session
import PromptMarkup.Proofs.Engine.Registration
import PromptMarkup.Proofs.Expr.Derivation
import PromptMarkup.Proofs.Expr.Arranged
import PromptMarkup.Proofs.Text.Numeral
import PromptMarkup.Proofs.Expr.Spelled
import PromptMarkup.Proofs.Expr.Printed
import PromptMarkup.Proofs.Inherit.Unchanged
import PromptMarkup.Proofs.Render.Conversation
import PromptMarkup.Proofs.Render.Depth
import PromptMarkup.Proofs.DryRun.Sighted
import PromptMarkup.Proofs.DryRun.Unknown
import PromptMarkup.Proofs.Render.Conditions
import PromptMarkup.Proofs.Render.Rounds
import PromptMarkup.Proofs.Render.Ordered
import PromptMarkup.Proofs.Expr.Comparison
import PromptMarkup.Proofs.Token.Verbatim
import PromptMarkup.Proofs.Token.Closable
import PromptMarkup.Proofs.Tree.Closings
import PromptMarkup.Proofs.Tree.Checked
import PromptMarkup.Proofs.Tree.Composed
import PromptMarkup.Proofs.Tree.Blame
import PromptMarkup.Proofs.Function.Parts
import PromptMarkup.Proofs.Value.Flattened
import PromptMarkup.Proofs.Expr.Tiles
import PromptMarkup.Proofs.Expr.Lookahead
import PromptMarkup.Proofs.Tree.Lines
import PromptMarkup.Proofs.DryRun.Overlap
import PromptMarkup.Proofs.Number.Integers
import PromptMarkup.Proofs.Token.Repeated
