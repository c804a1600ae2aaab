import TermSearch.Main
import TermSearch.Proofs.CommandLine.CallEnds
import TermSearch.Proofs.CommandLine.WrittenArguments
import TermSearch.Proofs.Index.Contents
import TermSearch.Proofs.Index.EditedCounts
import TermSearch.Proofs.Plan.Conservation
import TermSearch.Proofs.Plan.Resumption
import TermSearch.Proofs.Probe
import TermSearch.Proofs.Query.AdjacentTerms
import TermSearch.Proofs.Query.EventOrder
import TermSearch.Proofs.Query.Exclusions
import TermSearch.Proofs.Query.LookupTrace
import TermSearch.Proofs.Query.MoreOccurrences
import TermSearch.Proofs.Query.RefinedQuery
import TermSearch.Proofs.Query.ScoringPolicies
import TermSearch.Proofs.Query.StepOrder
import TermSearch.Proofs.ResultSet.ReadBack
