import PrimeReasoner.Calendar
import PrimeReasoner.CommandLine.Dialogue
import PrimeReasoner.CommandLine.Grammar
import PrimeReasoner.CommandLine.Help
import PrimeReasoner.CommandLine.Run
import PrimeReasoner.CommandLine.Script
import PrimeReasoner.Config
import PrimeReasoner.ConfigFile
import PrimeReasoner.Derivation
import PrimeReasoner.Encoder
import PrimeReasoner.Engine
import PrimeReasoner.Fact
import PrimeReasoner.Folder
import PrimeReasoner.Json.Decoded
import PrimeReasoner.Json.Reader
import PrimeReasoner.Json.Report
import PrimeReasoner.Json.Value
import PrimeReasoner.Knowledge
import PrimeReasoner.Log
import PrimeReasoner.Machine
import PrimeReasoner.Main
import PrimeReasoner.Number.Double
import PrimeReasoner.Number.Numeral
import PrimeReasoner.Number.Shortest
import PrimeReasoner.Number.Size
import PrimeReasoner.Prime.Sieve
import PrimeReasoner.Prime.Source
import PrimeReasoner.Prime.Trial
import PrimeReasoner.Rule
import PrimeReasoner.Search
import PrimeReasoner.Sentence
import PrimeReasoner.Service
import PrimeReasoner.Service.Body
import PrimeReasoner.Service.Framework
import PrimeReasoner.Service.Response
import PrimeReasoner.Service.Standard
import PrimeReasoner.Session
import PrimeReasoner.Setting
import PrimeReasoner.Text.Blank
import PrimeReasoner.Text.CharSet
import PrimeReasoner.Text.Digit
import PrimeReasoner.Text.LetterCase
import PrimeReasoner.Text.Lines
import PrimeReasoner.Text.Lowercase
import PrimeReasoner.Text.Printable
import PrimeReasoner.Text.Quoted
import PrimeReasoner.Text.Split
import PrimeReasoner.Yaml.Cursor
import PrimeReasoner.Yaml.Document
import PrimeReasoner.Yaml.Kind
import PrimeReasoner.Yaml.Layout
import PrimeReasoner.Yaml.Literal
import PrimeReasoner.Yaml.Node
import PrimeReasoner.Yaml.Pattern
import PrimeReasoner.Yaml.Plain
import PrimeReasoner.Yaml.Quoted
import PrimeReasoner.Yaml.Tag
import PrimeReasoner.Yaml.Token
import PrimeReasoner.Yaml.Value
import PrimeReasoner.Proofs.Prime.Sieve
import PrimeReasoner.Proofs.Prime.Source
import PrimeReasoner.Proofs.Prime.Sequence
import PrimeReasoner.Proofs.Prime.Rounds
import PrimeReasoner.Proofs.Fact
import PrimeReasoner.Proofs.Encoder.Coding
import PrimeReasoner.Proofs.Search.Requests
import PrimeReasoner.Proofs.Encoder.Calls
import PrimeReasoner.Proofs.Search.Graph
import PrimeReasoner.Proofs.Search.Soundness
import PrimeReasoner.Proofs.Search.Completeness
import PrimeReasoner.Proofs.Search.Meetings
import PrimeReasoner.Proofs.Search.Limits
import PrimeReasoner.Proofs.Search.KnowledgeGraph
import PrimeReasoner.Proofs.Search.Refinement
import PrimeReasoner.Proofs.Search.Renumbering
import PrimeReasoner.Proofs.Store
import PrimeReasoner.Proofs.Certificate
import PrimeReasoner.Proofs.Collision
import PrimeReasoner.Proofs.Derivability
import PrimeReasoner.Proofs.Isolation
import PrimeReasoner.Proofs.Sentence
import PrimeReasoner.Proofs.Session
import PrimeReasoner.Proofs.Monotonicity
import PrimeReasoner.Proofs.ModusPonens
import PrimeReasoner.Proofs.Reachability
import PrimeReasoner.Proofs.Decoding
import PrimeReasoner.Proofs.Search.Lockstep
import PrimeReasoner.Proofs.SourceIndependence
import PrimeReasoner.Proofs.Asking
import PrimeReasoner.Proofs.Text.Ascii
import PrimeReasoner.Proofs.Reading
import PrimeReasoner.Proofs.AskingBack
import PrimeReasoner.Proofs.AppendOnly
import PrimeReasoner.Proofs.Atomicity
import PrimeReasoner.Proofs.Pieces
import PrimeReasoner.Proofs.Bookkeeping
import PrimeReasoner.Proofs.Counters
import PrimeReasoner.Proofs.Deepening
import PrimeReasoner.Proofs.Trail
import PrimeReasoner.Proofs.Termination
import PrimeReasoner.Proofs.Frame
import PrimeReasoner.Proofs.Refusals
import PrimeReasoner.Proofs.Search.Repetition
import PrimeReasoner.Proofs.Repetition
import PrimeReasoner.Proofs.Search.Path
import PrimeReasoner.Proofs.Chain
import PrimeReasoner.Proofs.RoundTrip
import PrimeReasoner.Proofs.Joining
import PrimeReasoner.Proofs.RuleSentence
import PrimeReasoner.Proofs.UnreadRule
import PrimeReasoner.Proofs.Silence
import PrimeReasoner.Proofs.Articles
import PrimeReasoner.Proofs.Search.Fates
import PrimeReasoner.Proofs.Statistics
import PrimeReasoner.Proofs.Setting
import PrimeReasoner.Proofs.Loading
import PrimeReasoner.Proofs.Spelling
