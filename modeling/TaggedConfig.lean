import TaggedConfig.Main
import TaggedConfig.Settings
import TaggedConfig.World
import TaggedConfig.Proofs.Comment.Blanking
import TaggedConfig.Proofs.Expansion.Segments
import TaggedConfig.Proofs.Source.TokenSite
import TaggedConfig.Proofs.Text.Excerpt
import TaggedConfig.Proofs.Source.Redaction
import TaggedConfig.Proofs.Json.StringBody
import TaggedConfig.Proofs.Json.Breaking
import TaggedConfig.Proofs.Json.Similarity
import TaggedConfig.Proofs.Json.Alignment
import TaggedConfig.Proofs.Interpolation.Strings
import TaggedConfig.Proofs.Interpolation.Template
import TaggedConfig.Proofs.World
import TaggedConfig.Proofs.Interpolation.Expansion
import TaggedConfig.Proofs.Interpolation.Loading
import TaggedConfig.Proofs.Tag.Staleness
import TaggedConfig.Proofs.Loader.Checked
import TaggedConfig.Proofs.Expansion.Ceiling
import TaggedConfig.Proofs.Cancellation.Loading
import TaggedConfig.Proofs.Cancellation.Pending
import TaggedConfig.Proofs.Loader.Recording
import TaggedConfig.Proofs.Source.Endpoint
import TaggedConfig.Proofs.Comment.Insertion
import TaggedConfig.Proofs.Loader.EntryPoints
import TaggedConfig.Proofs.Source.Dispatch
import TaggedConfig.Proofs.Loader.Texts
import TaggedConfig.Proofs.CommandLine.Agreement
import TaggedConfig.Proofs.Tag.Walking
import TaggedConfig.Proofs.Tag.Grammar
import TaggedConfig.Proofs.Source.Defects
import TaggedConfig.Proofs.Source.Building
import TaggedConfig.Proofs.CommandLine.Verdict
import TaggedConfig.Proofs.Tag.Nesting
import TaggedConfig.Proofs.Source.Faults
import TaggedConfig.Proofs.Expansion.Origins
import TaggedConfig.Proofs.Expansion.Locality
import TaggedConfig.Proofs.Expansion.Names
import TaggedConfig.Proofs.Json.Readable
import TaggedConfig.Proofs.Json.Spelling
import TaggedConfig.Proofs.Json.Printing
import TaggedConfig.Proofs.Json.Compact
import TaggedConfig.Proofs.Source.Answers
import TaggedConfig.Proofs.Expansion.Inline
import TaggedConfig.Proofs.Expansion.Offsets
import TaggedConfig.Proofs.Loader.Attribution
import TaggedConfig.Proofs.Loader.Observation
import TaggedConfig.Proofs.Loader.Callback
import TaggedConfig.Proofs.Comment.Stability
import TaggedConfig.Proofs.Loader.Discovery
import TaggedConfig.Proofs.World.FileTree
import TaggedConfig.Proofs.CommandLine.Output
import TaggedConfig.Proofs.Expansion.Machine
import TaggedConfig.Proofs.Expansion.References
import TaggedConfig.Proofs.Expansion.Termination
import TaggedConfig.Proofs.Tag.Independence
import TaggedConfig.Proofs.Text.Boundary
import TaggedConfig.Proofs.Source.Shortening
import TaggedConfig.Proofs.Expansion.Depths
