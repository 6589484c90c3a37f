import GraphSearch.Bolt.Schema
import GraphSearch.Bolt.Server
import GraphSearch.Index.Explanation
import GraphSearch.Predicate.Decode
import GraphSearch.Store.Memory
import GraphSearch.Main
import GraphSearch.Terminal.Report
import GraphSearch.Toml.Document
import GraphSearch.Proofs.Expression
import GraphSearch.Proofs.Meaning
import GraphSearch.Proofs.Encoding
import GraphSearch.Proofs.ParameterNames
import GraphSearch.Proofs.ClauseForms
import GraphSearch.Proofs.LexemeDigest
import GraphSearch.Proofs.DigestSeparation
import GraphSearch.Proofs.Usage
import GraphSearch.Proofs.CountTransparency
import GraphSearch.Proofs.WindowText
import GraphSearch.Proofs.PagedStream
import GraphSearch.Proofs.Delivery
import GraphSearch.Proofs.PageWindows
import GraphSearch.Proofs.PageArithmetic
import GraphSearch.Proofs.Leaves
import GraphSearch.Proofs.Pruning
import GraphSearch.Proofs.Construction
import GraphSearch.Proofs.ItemGrammar
import GraphSearch.Proofs.Placeholders
import GraphSearch.Proofs.Scanner
import GraphSearch.Proofs.QuotedNames
import GraphSearch.Proofs.Explained
import GraphSearch.Proofs.ValueIndependence
import GraphSearch.Proofs.DecodedPredicate
import GraphSearch.Proofs.PredicateText
import GraphSearch.Proofs.NameIndependence
import GraphSearch.Proofs.Ledger
import GraphSearch.Proofs.Rollback
import GraphSearch.Proofs.WindowReading
import GraphSearch.Proofs.TextSearch
import GraphSearch.Proofs.PropertyReading
import GraphSearch.Proofs.SchemaIndexes
