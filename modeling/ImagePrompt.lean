import ImagePrompt.Main
import ImagePrompt.Provider.Registry
import ImagePrompt.Proofs.Picture.Binding
import ImagePrompt.Proofs.Document.Normalized
import ImagePrompt.Proofs.Rendering.Guidance
import ImagePrompt.Proofs.Run.Preparation
import ImagePrompt.Proofs.Run.Verdict
import ImagePrompt.Proofs.FileSystem.Basic
import ImagePrompt.Proofs.Json.Members
import ImagePrompt.Proofs.Json.Value
import ImagePrompt.Proofs.Document.Codec
import ImagePrompt.Proofs.Document.Record
import ImagePrompt.Proofs.Document.ImageRef
import ImagePrompt.Proofs.Text.Blank
import ImagePrompt.Proofs.Gemini.Outcome
import ImagePrompt.Proofs.Document.Design
import ImagePrompt.Proofs.Document.Photograph
import ImagePrompt.Proofs.Document.Meta
import ImagePrompt.Proofs.Document.Basic
import ImagePrompt.Proofs.Json.Parser
import ImagePrompt.Proofs.FileSystem.Growth
import ImagePrompt.Proofs.Output.InTurn
import ImagePrompt.Proofs.Run.Course
import ImagePrompt.Proofs.Run.Stages
import ImagePrompt.Proofs.Json.Path
import ImagePrompt.Proofs.Document.Declared
import ImagePrompt.Proofs.Document.Unknown
import ImagePrompt.Proofs.Document.Pruning
import ImagePrompt.Proofs.Document.Pruned
import ImagePrompt.Proofs.Rendering.Pruned
import ImagePrompt.Proofs.Document.Compatibility
import ImagePrompt.Proofs.Document.Written
import ImagePrompt.Proofs.Gemini.Agreement
import ImagePrompt.Proofs.Rendering.Domain
import ImagePrompt.Proofs.Run.Alike
import ImagePrompt.Proofs.Run.Credential
import ImagePrompt.Proofs.Picture.Missing
import ImagePrompt.Proofs.Command.Verdict
import ImagePrompt.Proofs.Json.Lexeme
import ImagePrompt.Proofs.Json.Reread
import ImagePrompt.Proofs.Document.Readable
import ImagePrompt.Proofs.Gemini.StructuredPrompt
import ImagePrompt.Proofs.Rendering.Edits
import ImagePrompt.Proofs.Gemini.Echo
import ImagePrompt.Proofs.Gemini.Explanation
import ImagePrompt.Proofs.Settings.Priority
import ImagePrompt.Proofs.Settings.Dotenv
import ImagePrompt.Proofs.Settings.Load
import ImagePrompt.Proofs.Text.Split
import ImagePrompt.Proofs.Number.Decimal
import ImagePrompt.Proofs.Rendering.Phrases
import ImagePrompt.Proofs.Rendering.Outline
import ImagePrompt.Proofs.Rendering.Photograph
import ImagePrompt.Proofs.Rendering.Design
import ImagePrompt.Proofs.Rendering.Sections
import ImagePrompt.Proofs.Rendering.Silence
import ImagePrompt.Proofs.Rendering.Thinning
import ImagePrompt.Proofs.Rendering.Padding
import ImagePrompt.Proofs.Gemini.Endpoint
