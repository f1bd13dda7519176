import ChunkCodecs.Main
import ChunkCodecs.Proofs.Blosc.Acceptance
import ChunkCodecs.Proofs.Blosc.Concatenation
import ChunkCodecs.Proofs.Transfers
import ChunkCodecs.Proofs.Blosc.Taking
import ChunkCodecs.Raster.Transparent
import ChunkCodecs.Storage.ArrayCodec
import ChunkCodecs.Proofs.Blosc.Storing
import ChunkCodecs.Proofs.Parameters
import ChunkCodecs.Proofs.Rebuilding
import ChunkCodecs.Proofs.Streaming
import ChunkCodecs.Proofs.Deflate.Growth
import ChunkCodecs.Proofs.Deflate.Streaming
import ChunkCodecs.Proofs.Document.Numerals
import ChunkCodecs.Proofs.Document.Texts
import ChunkCodecs.Proofs.Number.Digits
import ChunkCodecs.Proofs.Number.Shortest
import ChunkCodecs.Proofs.Raster.Layout
import ChunkCodecs.Proofs.Document.Scalars
import ChunkCodecs.Proofs.Document.Configurations
import ChunkCodecs.Proofs.Document.Plain
import ChunkCodecs.Proofs.Inversion
import ChunkCodecs.Proofs.Command.Actions
import ChunkCodecs.Proofs.Command.FileNames
import ChunkCodecs.Proofs.Command.RoundTrip
import ChunkCodecs.Proofs.Blosc.Introspection
import ChunkCodecs.Proofs.Deflate.Ending
import ChunkCodecs.Proofs.Deflate.Delimiting
import ChunkCodecs.Proofs.Raster.Samples
import ChunkCodecs.Proofs.Raster.Transcoding
import ChunkCodecs.Proofs.Schedules
import ChunkCodecs.Proofs.Registry
import ChunkCodecs.Proofs.Number.Rounding
import ChunkCodecs.Proofs.Number.Numerals
import ChunkCodecs.Proofs.Refusals
import ChunkCodecs.Proofs.Construction
import ChunkCodecs.Proofs.Spelling
import ChunkCodecs.Proofs.Stored
import ChunkCodecs.Proofs.Respelling
import ChunkCodecs.Proofs.Requests
import ChunkCodecs.Proofs.Wholeness
import ChunkCodecs.Proofs.Command.Failures
import ChunkCodecs.Proofs.Command.Compressions
import ChunkCodecs.Proofs.Command.Runs
import ChunkCodecs.Proofs.Command.Sidecars
import ChunkCodecs.Proofs.Deflate.Storing
import ChunkCodecs.Proofs.Blosc.Arguments
import ChunkCodecs.Proofs.Number.Nearest
import ChunkCodecs.Proofs.Number.Decimal
import ChunkCodecs.Proofs.Number.Spelled
import ChunkCodecs.Proofs.WholeNumbers
import ChunkCodecs.Proofs.Storage.Filling
import ChunkCodecs.Proofs.Storage.Survival
import ChunkCodecs.Proofs.Raster.Fidelity
import ChunkCodecs.Proofs.Warnings
import ChunkCodecs.Proofs.SingleParameter
import ChunkCodecs.Proofs.Words
import ChunkCodecs.Proofs.Sameness
import ChunkCodecs.Proofs.Command.Choices
import ChunkCodecs.Proofs.Command.Tokens
import ChunkCodecs.Proofs.Wording
import ChunkCodecs.Proofs.Command.DefaultNames
import ChunkCodecs.Proofs.Literal.Texts
import ChunkCodecs.Proofs.Literal.Scalars
import ChunkCodecs.Proofs.Literal.Dictionaries
import ChunkCodecs.Proofs.Document.Literals
import ChunkCodecs.Proofs.PrintedOptions
import ChunkCodecs.Proofs.Document.Nesting
import ChunkCodecs.Proofs.Document.Places
import ChunkCodecs.Proofs.Literal.Obstacles
import ChunkCodecs.Proofs.OptionFaults
import ChunkCodecs.Proofs.Parts
import ChunkCodecs.Proofs.Blosc.Layout
