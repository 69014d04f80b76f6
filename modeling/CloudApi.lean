import CloudApi.Main
import CloudApi.Proofs.HandlerCache
import CloudApi.Proofs.MarkupReading
import CloudApi.Proofs.MarkupDocuments
import CloudApi.Proofs.AnswerNames
import CloudApi.Proofs.QueryEnvelope
import CloudApi.Proofs.Sending
import CloudApi.Proofs.HeldReplies
import CloudApi.Proofs.SessionRuns
import CloudApi.Proofs.FacadeRequests
import CloudApi.Proofs.FilterTexts
import CloudApi.Proofs.LooseQuery
import CloudApi.Proofs.SentFilters
import CloudApi.Proofs.UnseenCredentials
import CloudApi.Proofs.OfflineCommands
import CloudApi.Proofs.CallSyntax
import CloudApi.Proofs.Symbols
import CloudApi.Proofs.BuiltNames
import CloudApi.Proofs.SentIdentifiers
import CloudApi.Proofs.BuiltEnvelopes
import CloudApi.Proofs.JoinedPairs
import CloudApi.Proofs.AddressedParameters
import CloudApi.Proofs.LooseLists
import CloudApi.Proofs.SanitizedBodies
import CloudApi.Proofs.ListedErrors
import CloudApi.Proofs.ErrorEnvelopes
import CloudApi.Proofs.WholeNumbers
import CloudApi.Proofs.NumericCodes
import CloudApi.Proofs.CodeClasses
import CloudApi.Proofs.SupportedVersions
import CloudApi.Proofs.ReplacedBindings
import CloudApi.Proofs.RegionRouting
import CloudApi.Proofs.RegistryRuns
import CloudApi.Proofs.FacadeCapabilities
import CloudApi.Proofs.TagArguments
import CloudApi.Proofs.AcceptedRegions
import CloudApi.Proofs.AssignmentItems
import CloudApi.Proofs.SymbolWords
import CloudApi.Proofs.LooseIntegers
