import PassContext.Memo.Script
import PassContext.Path
import PassContext.Proofs.Memo.PlainMap
import PassContext.Proofs.Provider.BaseTemplates
import PassContext.Proofs.Provider.NoDeadlock
import PassContext.Proofs.Provider.VersionCache
import PassContext.Proofs.Registry.FirstRule
import PassContext.Proofs.Registry.IndependentLists
import PassContext.Proofs.Run.Workers
import PassContext.Proofs.Syntax.Resaving
import PassContext.Proofs.Syntax.Variants
import PassContext.Proofs.Threads.Leftovers
import PassContext.Provider.Scripted
import PassContext.Registry.SharedLists
import PassContext.Run.Context
import PassContext.Signature
import PassContext.Syntax.Codec
import PassContext.Toolchain.Shell.Run
import PassContext.Proofs.Signature.Boundaries
import PassContext.Proofs.Signature.NormalForms
import PassContext.Proofs.Signature.Spellings
import PassContext.Proofs.Signature.Separators
import PassContext.Proofs.Provider.AcceptedVersions
import PassContext.Proofs.Registry.PureCalls
import PassContext.Proofs.Threads.Counts
import PassContext.Proofs.Signature.Rewriting
import PassContext.Proofs.Registry.Vocabularies
