import Pygpgme.Library.Transition
import Pygpgme.Library.LockMachine
import Pygpgme.Library.LockDiscipline
import Pygpgme.Library.LockRuns
import Pygpgme.Source.Threads
import Pygpgme.Source.ThreadPrograms
import Pygpgme.Source.ProgramDiscipline
import Pygpgme.Guarantees.LockProtocol
import Pygpgme.Guarantees.MutualExclusion
import Pygpgme.Guarantees.ResultIsolation
import Pygpgme.Library.BitField
import Pygpgme.Library.Program
import Pygpgme.Source.Python
import Pygpgme.Source.Error
import Pygpgme.Guarantees.ErrorCodes
import Pygpgme.Guarantees.KeyListing
import Pygpgme.Source.Data
import Pygpgme.Guarantees.Streams
import Pygpgme.Source.Arguments
import Pygpgme.Source.Setters
import Pygpgme.Source.Results
import Pygpgme.Source.Methods
import Pygpgme.Source.Pending
import Pygpgme.Guarantees.ErrorConvention
import Pygpgme.Library.Generator
import Pygpgme.Source.KeyEdit
import Pygpgme.Guarantees.KeyDialogue
import Pygpgme.Guarantees.KeyEditOutcome
import Pygpgme.Guarantees.FailureDetails
import Pygpgme.Library.ListLog
import Pygpgme.Source.SignLists
import Pygpgme.Source.Utf8
import Pygpgme.Guarantees.ListSetters
import Pygpgme.Guarantees.NotationRoundTrip
import Pygpgme.Library.Ownership
import Pygpgme.Source.Memory
import Pygpgme.Source.KeyPatterns
import Pygpgme.Source.PatternCopies
import Pygpgme.Guarantees.KeyPatterns
import Pygpgme.Guarantees.PatternLedger
import Pygpgme.Guarantees.Handles
import Pygpgme.Library.RefCount
import Pygpgme.Source.KeyLifetime
import Pygpgme.Guarantees.KeyLifetime
import Pygpgme.Guarantees.StreamErrors
import Pygpgme.Guarantees.IntegerSettings
import Pygpgme.Guarantees.SignatureResults
import Pygpgme.Source.KeyArrays
import Pygpgme.Guarantees.KeyArrays
import Pygpgme.Source.NotationObjects
import Pygpgme.Guarantees.NotationObjects
import Pygpgme.Library.LockGhost
import Pygpgme.Source.Registration
import Pygpgme.Guarantees.CallbackRegistration
import Pygpgme.Library.ObjectGraph
import Pygpgme.Source.KeyObjects
import Pygpgme.Guarantees.KeyObjects
import Pygpgme.Library.LockFamily
import Pygpgme.Library.LockAtomicity
import Pygpgme.Library.ObjectCycles
import Pygpgme.Library.RequestReply
import Pygpgme.Library.PosixFile
import Pygpgme.Source.ManyContexts
import Pygpgme.Source.Entered
import Pygpgme.Source.Attributes
import Pygpgme.Source.ContextLifetime
import Pygpgme.Source.FileObjects
import Pygpgme.Guarantees.ManyContexts
import Pygpgme.Guarantees.Attributes
import Pygpgme.Guarantees.ContextLifetime
import Pygpgme.Guarantees.ContextCycles
import Pygpgme.Guarantees.FileObjects
import Pygpgme.Library.OwnedReferences
import Pygpgme.Source.MethodCode
import Pygpgme.Source.ResultObjects
import Pygpgme.Guarantees.MethodCode
import Pygpgme.Guarantees.ResultObjects
import Pygpgme.Source.KeyAttributes
import Pygpgme.Guarantees.KeyAttributes
