import Cardfile.Dict
import Cardfile.OrderedSet
import Cardfile.Unicode.Script
import Cardfile.Text.Blank
import Cardfile.Text.Quoted
import Cardfile.Text.SnakeCase
import Cardfile.Text.Words
import Cardfile.Real64.Shortest
import Cardfile.Real64.Reading
import Cardfile.Calendar.Instant
import Cardfile.Json.Reading
import Cardfile.Json.Writing
import Cardfile.Config
import Cardfile.Review
import Cardfile.Catalogue.Build
import Cardfile.Declaration.Reading
import Cardfile.Pattern.Expr
import Cardfile.Pattern.Escape
import Cardfile.Pattern.Bracket
import Cardfile.Pattern.Reading
import Cardfile.Pattern.CharSet
import Cardfile.Pattern.Match
import Cardfile.Pattern.Meaning
import Cardfile.Stemming.Language
import Cardfile.Record.Reading
import Cardfile.SharedIndex.Session
import Cardfile.Versions.Archive
import Cardfile.Proofs.Collections
import Cardfile.Proofs.Lineage
import Cardfile.Proofs.VersionStore
import Cardfile.Proofs.View
import Cardfile.Proofs.Reading
import Cardfile.Proofs.Writing
import Cardfile.Proofs.Runs
import Cardfile.Proofs.Snapshot
import Cardfile.Proofs.SteadyReads
import Cardfile.Proofs.PlainIndex
import Cardfile.Proofs.RepeatableRead
import Cardfile.Proofs.Validation
import Cardfile.Proofs.SerialOrder
import Cardfile.Proofs.Serializability
import Cardfile.Proofs.Roster
import Cardfile.Proofs.Holdings
import Cardfile.Proofs.Bookkeeping
import Cardfile.Proofs.Chronicle
import Cardfile.Proofs.Trimming
import Cardfile.Proofs.Scenes
import Cardfile.Proofs.Exactness
import Cardfile.Proofs.Contents
import Cardfile.Proofs.Archive
import Cardfile.Proofs.DirtyReads
import Cardfile.Proofs.Retention
import Cardfile.Proofs.Pruning
import Cardfile.Proofs.Pairs
import Cardfile.Proofs.Tandem
import Cardfile.Proofs.Settings
import Cardfile.Proofs.Undo
import Cardfile.Proofs.SingleSession
import Cardfile.Proofs.Ownership
import Cardfile.Proofs.Publication
import Cardfile.Proofs.Places
import Cardfile.Proofs.Reviewing
import Cardfile.Proofs.Drafts
import Cardfile.Proofs.Inferring
import Cardfile.Proofs.Resolving
import Cardfile.Proofs.TypeNames
import Cardfile.Proofs.Renaming
import Cardfile.Proofs.DeclarationOrder
import Cardfile.Proofs.Problems
import Cardfile.Proofs.Declared
import Cardfile.Proofs.Faithfulness
import Cardfile.Proofs.Inverses
import Cardfile.Proofs.LostUpdates
import Cardfile.Proofs.Overwriting
import Cardfile.Proofs.OwnWrites
import Cardfile.Proofs.Cleanup
import Cardfile.Proofs.Arrival
import Cardfile.Proofs.Sharing
import Cardfile.Proofs.Accounting
import Cardfile.Proofs.Interning
import Cardfile.Proofs.Metadata
import Cardfile.Proofs.EntityLinks
import Cardfile.Proofs.Decimals
import Cardfile.Proofs.Expansions
import Cardfile.Proofs.KeySpellings
import Cardfile.Proofs.LabelPaths
import Cardfile.Proofs.Hierarchies
import Cardfile.Proofs.Closing
import Cardfile.Proofs.Relaxing
import Cardfile.Proofs.Handles
import Cardfile.Proofs.Matching
import Cardfile.Proofs.Tails
import Cardfile.Proofs.ClassTails
import Cardfile.Proofs.ItemTails
import Cardfile.Proofs.Enclosing
import Cardfile.Proofs.Fieldless
import Cardfile.Proofs.WholeMatches
