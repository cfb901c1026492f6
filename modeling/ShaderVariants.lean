import ShaderVariants.Compiler.Scripted
import ShaderVariants.Main
import ShaderVariants.Proofs.Comment.Lookback
import ShaderVariants.Proofs.Comment.Hiding
import ShaderVariants.Proofs.Session.Atomicity
import ShaderVariants.Proofs.Directive.Lines
import ShaderVariants.Proofs.Comment.Lines
import ShaderVariants.Proofs.Keyword.Index
import ShaderVariants.Proofs.Variant.Preamble
import ShaderVariants.Proofs.Variant.Indexing
import ShaderVariants.Proofs.FileSystem.Creation
import ShaderVariants.Proofs.Text.Utf8
import ShaderVariants.Proofs.Session.Compilation
import ShaderVariants.Proofs.Session.Variant
import ShaderVariants.Proofs.Asset
import ShaderVariants.Proofs.Session.Choices
import ShaderVariants.Proofs.WatchMode.Run
import ShaderVariants.Proofs.WatchMode.Restoration
import ShaderVariants.Proofs.Comment.Remainder
import ShaderVariants.Proofs.Comment.Replacement
import ShaderVariants.Proofs.Keyword.Commented
import ShaderVariants.Proofs.Compiler.Runs
import ShaderVariants.Proofs.Session.Reports
import ShaderVariants.Proofs.Session.Rebuilding
import ShaderVariants.Proofs.FileSystem.Canonical
import ShaderVariants.Proofs.Session.Definitions
import ShaderVariants.Proofs.Configuration
import ShaderVariants.Proofs.Watcher
import ShaderVariants.Proofs.WatchMode.Batches
import ShaderVariants.Proofs.WatchMode.Following
import ShaderVariants.Proofs.WatchMode.Noticing
import ShaderVariants.Proofs.Listing
import ShaderVariants.Proofs.Session.Combinations
import ShaderVariants.Proofs.Asset.Watched
import ShaderVariants.Proofs.Keyword.Separation
import ShaderVariants.Proofs.Text.Numeral
import ShaderVariants.Proofs.Variant.Matching
import ShaderVariants.Proofs.CommandLine
import ShaderVariants.Proofs.Session.Setup
import ShaderVariants.Proofs.Text.LineDecoding
import ShaderVariants.Proofs.Compiler.Output
import ShaderVariants.Proofs.Comment.Slices
import ShaderVariants.Proofs.Keyword.LineEndings
import ShaderVariants.Proofs.Keyword.Vocabulary
import ShaderVariants.Proofs.Text.Words
import ShaderVariants.Proofs.Keyword.Declaration
import ShaderVariants.Proofs.Directive.First
import ShaderVariants.Proofs.Directive.Occurrences
import ShaderVariants.Proofs.Asset.Manifest
import ShaderVariants.Proofs.Watcher.Debounce
import ShaderVariants.Proofs.Keyword.Hint
import ShaderVariants.Proofs.Configuration.Keys
import ShaderVariants.Proofs.Configuration.Storage
import ShaderVariants.Proofs.WatchMode.Refusal
