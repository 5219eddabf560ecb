import PromptKit.Check
import PromptKit.Codec
import PromptKit.Proofs.Template.Cursor
import PromptKit.Proofs.Expansion.Resolution
import PromptKit.Proofs.Expansion.Inlining
import PromptKit.Proofs.Render.Injection
import PromptKit.Proofs.Render.Blame
import PromptKit.Proofs.Document.Packs
import PromptKit.Proofs.Document.Fragments
import PromptKit.Proofs.Document.Visible
import PromptKit.Proofs.Document.Contents
import PromptKit.Proofs.Toolbox.Selection
import PromptKit.Proofs.Toolbox.Registration
import PromptKit.Proofs.Toolbox.Invocation
import PromptKit.Proofs.Check.Violations
import PromptKit.Proofs.Expansion.Limit
import PromptKit.Proofs.Inputs.Issues
import PromptKit.Proofs.Render.Course
import PromptKit.Proofs.Render.Admission
import PromptKit.Proofs.Render.Strictness
import PromptKit.Proofs.Render.Marks
import PromptKit.Proofs.Expansion.Search
import PromptKit.Proofs.Template.Surroundings
import PromptKit.Proofs.Check.Composition
import PromptKit.Proofs.Build.Parts
import PromptKit.Proofs.Build.Runs
import PromptKit.Proofs.Render.Locality
import PromptKit.Proofs.Render.Remainder
import PromptKit.Proofs.Render.Messages
import PromptKit.Proofs.Render.Override
import PromptKit.Proofs.Document.Defaults
import PromptKit.Proofs.Render.Omission
import PromptKit.Proofs.Document.Placement
import PromptKit.Proofs.Document.Forms
import PromptKit.Proofs.Document.Locations
import PromptKit.Proofs.Document.Located
import PromptKit.Proofs.Version.Pattern
import PromptKit.Proofs.Delimiters
import PromptKit.Proofs.Validator
import PromptKit.Proofs.Document.Parameters
import PromptKit.Proofs.Expansion.Termination
import PromptKit.Proofs.FieldPath
