import Vivarium.Breeding.Clone
import Vivarium.Breeding.Event
import Vivarium.Breeding.Landscape
import Vivarium.Breeding.Nursery
import Vivarium.Breeding.Population
import Vivarium.Breeding.Selection
import Vivarium.Breeding.Strategy
import Vivarium.CommandLine.Command
import Vivarium.CommandLine.Invocation
import Vivarium.CommandLine.Session
import Vivarium.CommandLine.Usage
import Vivarium.Config
import Vivarium.Config.File
import Vivarium.Digest.Sha1
import Vivarium.Directory
import Vivarium.Ecosystem
import Vivarium.Experiment
import Vivarium.Habitat.Basic
import Vivarium.Habitat.Cycle
import Vivarium.Json.Basic
import Vivarium.Json.Printer
import Vivarium.Json.Reader
import Vivarium.Main
import Vivarium.Number.Binary64
import Vivarium.Number.Layout
import Vivarium.Number.Numeral
import Vivarium.Number.Shortest
import Vivarium.Number.Word
import Vivarium.Organism.Basic
import Vivarium.Organism.Crossover
import Vivarium.Organism.Gene
import Vivarium.Organism.Growth
import Vivarium.Organism.Mutation
import Vivarium.Organism.State
import Vivarium.Proofs.Breeding.Cycle
import Vivarium.Proofs.Breeding.EventLog
import Vivarium.Proofs.Breeding.Figures
import Vivarium.Proofs.Breeding.Filling
import Vivarium.Proofs.Breeding.Founding
import Vivarium.Proofs.Breeding.Heredity
import Vivarium.Proofs.Breeding.Landscape
import Vivarium.Proofs.Breeding.Ledger
import Vivarium.Proofs.Breeding.NurseryRenaming
import Vivarium.Proofs.Breeding.Offspring
import Vivarium.Proofs.Breeding.Operation
import Vivarium.Proofs.Breeding.Provenance
import Vivarium.Proofs.Breeding.Selection
import Vivarium.Proofs.Breeding.Settling
import Vivarium.Proofs.Breeding.Soundness
import Vivarium.Proofs.Breeding.Supply
import Vivarium.Proofs.Breeding.Tournament
import Vivarium.Proofs.Breeding.Trait
import Vivarium.Proofs.CommandLine.Experiment
import Vivarium.Proofs.CommandLine.Session
import Vivarium.Proofs.Directory
import Vivarium.Proofs.Ecosystem.Ageing
import Vivarium.Proofs.Ecosystem.Atomicity
import Vivarium.Proofs.Ecosystem.Bounds
import Vivarium.Proofs.Ecosystem.Census
import Vivarium.Proofs.Ecosystem.Constancy
import Vivarium.Proofs.Ecosystem.Cooldown
import Vivarium.Proofs.Ecosystem.Course
import Vivarium.Proofs.Ecosystem.CycleCount
import Vivarium.Proofs.Ecosystem.CycleLog
import Vivarium.Proofs.Ecosystem.Cycles
import Vivarium.Proofs.Ecosystem.Disbanding
import Vivarium.Proofs.Ecosystem.Effect
import Vivarium.Proofs.Ecosystem.Failure
import Vivarium.Proofs.Ecosystem.Figures
import Vivarium.Proofs.Ecosystem.Genome
import Vivarium.Proofs.Ecosystem.Heredity
import Vivarium.Proofs.Ecosystem.Identity
import Vivarium.Proofs.Ecosystem.Inertness
import Vivarium.Proofs.Ecosystem.Ledger
import Vivarium.Proofs.Ecosystem.Passage
import Vivarium.Proofs.Ecosystem.Registry
import Vivarium.Proofs.Ecosystem.Renaming
import Vivarium.Proofs.Ecosystem.Reproducibility
import Vivarium.Proofs.Ecosystem.Request
import Vivarium.Proofs.Ecosystem.Rest
import Vivarium.Proofs.Ecosystem.RoundTrip
import Vivarium.Proofs.Ecosystem.Service
import Vivarium.Proofs.Ecosystem.Shutdown
import Vivarium.Proofs.Ecosystem.Soundness
import Vivarium.Proofs.Ecosystem.Stages
import Vivarium.Proofs.Ecosystem.Sweep
import Vivarium.Proofs.Ecosystem.Transfer
import Vivarium.Proofs.Ecosystem.Whereabouts
import Vivarium.Proofs.Habitat.CycleRecord
import Vivarium.Proofs.Habitat.Roster
import Vivarium.Proofs.Habitat.Soundness
import Vivarium.Proofs.Listing
import Vivarium.Proofs.Number.Comparison
import Vivarium.Proofs.Organism.Age
import Vivarium.Proofs.Organism.Bounds
import Vivarium.Proofs.Organism.Constancy
import Vivarium.Proofs.Organism.Crossover
import Vivarium.Proofs.Organism.Cycle
import Vivarium.Proofs.Organism.Genome
import Vivarium.Proofs.Organism.Mutation
import Vivarium.Proofs.Organism.Normal
import Vivarium.Proofs.Organism.Operators
import Vivarium.Proofs.Organism.Readiness
import Vivarium.Proofs.Organism.Recovery
import Vivarium.Proofs.Outcome
import Vivarium.Proofs.Random.Checked
import Vivarium.Proofs.Random.Draw
import Vivarium.Proofs.Random.Uniform
import Vivarium.Proofs.Source.Acceptance
import Vivarium.Proofs.Source.Arrangement
import Vivarium.Proofs.Source.Assignment
import Vivarium.Proofs.Source.BlockLines
import Vivarium.Proofs.Source.BraceReports
import Vivarium.Proofs.Source.Comment
import Vivarium.Proofs.Source.CommentFree
import Vivarium.Proofs.Source.Compiler
import Vivarium.Proofs.Source.Complaints
import Vivarium.Proofs.Source.Declaration
import Vivarium.Proofs.Source.Draft
import Vivarium.Proofs.Source.Excerpt
import Vivarium.Proofs.Source.Findings
import Vivarium.Proofs.Source.Genes
import Vivarium.Proofs.Source.Line
import Vivarium.Proofs.Source.LineByLine
import Vivarium.Proofs.Source.Lookahead
import Vivarium.Proofs.Source.Munch
import Vivarium.Proofs.Source.Mute
import Vivarium.Proofs.Source.MutedGap
import Vivarium.Proofs.Source.MutedReading
import Vivarium.Proofs.Source.MutedTokens
import Vivarium.Proofs.Source.Nesting
import Vivarium.Proofs.Source.NormalBlueprint
import Vivarium.Proofs.Source.NormalText
import Vivarium.Proofs.Source.NormalTokens
import Vivarium.Proofs.Source.Partners
import Vivarium.Proofs.Source.Piece
import Vivarium.Proofs.Source.Reading
import Vivarium.Proofs.Source.Relocation
import Vivarium.Proofs.Source.RoundTrip
import Vivarium.Proofs.Source.Scan
import Vivarium.Proofs.Source.Sections
import Vivarium.Proofs.Source.StateTypes
import Vivarium.Proofs.Source.Tidying
import Vivarium.Proofs.Source.Tokenization
import Vivarium.Random.ChaCha
import Vivarium.Random.Rng
import Vivarium.Record.Basic
import Vivarium.Record.Breeding
import Vivarium.Record.Config
import Vivarium.Record.Organism
import Vivarium.Record.Source
import Vivarium.Scheduler
import Vivarium.Source.Blueprint
import Vivarium.Source.Blueprint.Check
import Vivarium.Source.Blueprint.Normal
import Vivarium.Source.Blueprint.Reader
import Vivarium.Source.Compiler
import Vivarium.Source.Diagnostic
import Vivarium.Source.Lexer
import Vivarium.Source.Outline
import Vivarium.Source.Token
import Vivarium.Text.Blank
import Vivarium.Text.Combining
import Vivarium.Text.Invisible
import Vivarium.Text.Quoted
import Vivarium.Time.Calendar
import Vivarium.Time.Instant
import Vivarium.Time.Span
import Vivarium.Toml.Literal
import Vivarium.Toml.Reader
import Vivarium.Toml.Table
import Vivarium.Uuid
