import WordCompletion.Cache
import WordCompletion.Main
import WordCompletion.Migration
import WordCompletion.Proofs.Ranking
import WordCompletion.Proofs.Score
import WordCompletion.ScoreFunction
import WordCompletion.Proofs.Lookup.Rows
import WordCompletion.Proofs.Lookup.Tiers
import WordCompletion.Proofs.Cache.Contents
import WordCompletion.Proofs.Cache.History
import WordCompletion.Proofs.Like.Prefix
import WordCompletion.Proofs.Lookup.Insertion
import WordCompletion.Proofs.Text.Runs
import WordCompletion.Proofs.Words
import WordCompletion.Proofs.Session.Contents
import WordCompletion.Proofs.Lookup.Recall
import WordCompletion.Proofs.Session.Retrieval
import WordCompletion.Proofs.Cache.Outcomes
import WordCompletion.Proofs.Lookup.LeadingCharacters
import WordCompletion.Proofs.Session.Lines
import WordCompletion.Proofs.Session.Errors
import WordCompletion.Proofs.Settings.Fields
import WordCompletion.Proofs.Settings.Variables
import WordCompletion.Proofs.Settings.Effective
import WordCompletion.Proofs.Settings.NamedFile
import WordCompletion.Proofs.CommandLine.Output
import WordCompletion.Proofs.CommandLine.Corpora
import WordCompletion.Proofs.Lookup.Beginnings
import WordCompletion.Proofs.Score.Bags
import WordCompletion.Proofs.Lookup.ExactMatches
import WordCompletion.Proofs.Text.MaximalRuns
import WordCompletion.Proofs.Words.Occurrences
import WordCompletion.Proofs.Binary64.Order
import WordCompletion.Proofs.Lookup.Completions
import WordCompletion.Proofs.Migration.Runs
import WordCompletion.Proofs.Migration.Outcomes
import WordCompletion.Proofs.Words.Composition
import WordCompletion.Proofs.Session.Pieces
import WordCompletion.Proofs.Lookup.Symmetry
import WordCompletion.Proofs.Lookup.LetterCase
import WordCompletion.Proofs.Lookup.Listing
import WordCompletion.Proofs.Lookup.LookAhead
import WordCompletion.Proofs.Binary64.Finite
import WordCompletion.Proofs.Json.Number
import WordCompletion.Proofs.Json.Spelling
import WordCompletion.Proofs.Json.Reader
import WordCompletion.Proofs.Json.Rows
import WordCompletion.FileTree
