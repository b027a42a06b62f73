import GraphCache.Exchange.Basic
import GraphCache.Journal.Basic
import GraphCache.Settings.Layers
import GraphCache.Store.Backoff
import GraphCache.Proofs.OrderedMap
import GraphCache.Proofs.Translation
import GraphCache.Proofs.StoreContents
import GraphCache.Proofs.Occurrences
import GraphCache.Proofs.Calls
import GraphCache.Proofs.RoundTrip
import GraphCache.Proofs.Completion
import GraphCache.Proofs.FaithfulAnswer
import GraphCache.Proofs.Inlining
import GraphCache.Proofs.StoreRefinement
import GraphCache.Proofs.WriteHistory
import GraphCache.Proofs.Routing
import GraphCache.Proofs.Invalidation
import GraphCache.Proofs.Unmarked
import GraphCache.Proofs.Filling
import GraphCache.Proofs.Provenance
import GraphCache.Proofs.Lowercase
import GraphCache.Proofs.LowerTypes
import GraphCache.Proofs.Doubles
import GraphCache.Proofs.OrderedDoubles
import GraphCache.Proofs.Filings
import GraphCache.Proofs.Addresses
import GraphCache.Proofs.CompleteEntries
import GraphCache.Proofs.RootShape
import GraphCache.Proofs.Delimiters
import GraphCache.Proofs.PrintedTexts
import GraphCache.Proofs.ShortestDecimal
import GraphCache.Proofs.PrintedValues
import GraphCache.Proofs.FieldNames
import GraphCache.Proofs.TidyNodes
import GraphCache.Proofs.RequestKeys
import GraphCache.Proofs.Eligibility
import GraphCache.Proofs.SearchAgreement
import GraphCache.Proofs.LastAnswers
import GraphCache.Proofs.SpreadChains
import GraphCache.Proofs.CallsInFlight
import GraphCache.Proofs.CallOptions
import GraphCache.Proofs.IdentifierName
import GraphCache.Proofs.NameOfStore
import GraphCache.Proofs.Outlines
import GraphCache.Proofs.WrittenOut
import GraphCache.Proofs.InsertedSpreads
import GraphCache.Proofs.LaidTrees
import GraphCache.Proofs.FilePaths
import GraphCache.Proofs.CheckedSettings
import GraphCache.Proofs.StandardFields
import GraphCache.Proofs.SettingsPrecedence
import GraphCache.Proofs.DistinctVariables
import GraphCache.Proofs.DistinctFiles
import GraphCache.Proofs.MergePrecedence
import GraphCache.Proofs.FiledRecords
import GraphCache.Proofs.UnfileableData
import GraphCache.Proofs.DocumentedErrors
import GraphCache.Proofs.MergedShape
import GraphCache.Proofs.PairedItems
import GraphCache.Proofs.ServedRelations
import GraphCache.Proofs.MergedEntities
import GraphCache.Proofs.SettledSpreads
import GraphCache.Proofs.ReachedFragments
import GraphCache.Proofs.ExpandedNodes
import GraphCache.Proofs.CapturedFields
import GraphCache.Proofs.KeptMarks
import GraphCache.Proofs.WidenedEligibility
import GraphCache.Proofs.IdentifierFields
import GraphCache.Proofs.ReorderedArguments
import GraphCache.Proofs.RenamedEntities
import GraphCache.Proofs.LockWaiting
import GraphCache.Proofs.LaidPaths
import GraphCache.Proofs.PromisedAnswers
import GraphCache.Proofs.OptionEffects
import GraphCache.Proofs.EntityKeys
