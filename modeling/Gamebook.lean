import Gamebook.Table
import Gamebook.Text.Blank
import Gamebook.Text.Digit
import Gamebook.Text.Upper
import Gamebook.Text.Visible
import Gamebook.Text.Quoted
import Gamebook.Text.Utf8
import Gamebook.Text.Lines
import Gamebook.Wording
import Gamebook.Number.Whole
import Gamebook.Number.Binary64
import Gamebook.Number.Layout
import Gamebook.Json.Basic
import Gamebook.Json.Reader
import Gamebook.Json.Printer
import Gamebook.Json.Display
import Gamebook.Disk
import Gamebook.Json.File
import Gamebook.Fault
import Gamebook.Held
import Gamebook.Held.Things
import Gamebook.Routine
import Gamebook.Trail
import Gamebook.Steps
import Gamebook.Template.Kind
import Gamebook.Surroundings.Part
import Gamebook.Surroundings
import Gamebook.Phrasebook.English
import Gamebook.Surroundings.Kinds.Operations
import Gamebook.Surroundings.Kinds.Values
import Gamebook.Surroundings.Kinds.Faults
import Gamebook.Surroundings.Kinds.Members
import Gamebook.Surroundings.Kinds.Traces
import Gamebook.Surroundings.Kinds.Things
import Gamebook.Surroundings.Kinds
import Gamebook.Surroundings.Library
import Gamebook.Surroundings.Listing
import Gamebook.Surroundings.Standard
import Gamebook.Template.Spec
import Gamebook.Template.Field
import Gamebook.Template.Arg
import Gamebook.Template.Reach
import Gamebook.Template.Fill
import Gamebook.Game
import Gamebook.Console
import Gamebook.Phrasebook
import Gamebook.World
import Gamebook.Phrasebook.Packs
import Gamebook.Settings
import Gamebook.Speech
import Gamebook.Amount
import Gamebook.Battle
import Gamebook.Menu
import Gamebook.Command
import Gamebook.Story.Notes
import Gamebook.Story
import Gamebook.Prompt
import Gamebook.Main
import Gamebook.Proofs.Exec
import Gamebook.Proofs.Numeral
import Gamebook.Proofs.Loops
import Gamebook.Proofs.Text.Utf8
import Gamebook.Proofs.Text.Blank
import Gamebook.Proofs.Text.Lines
import Gamebook.Proofs.Json.Spelling
import Gamebook.Proofs.Json.Grammar
import Gamebook.Proofs.Json.Atoms
import Gamebook.Proofs.Json.RoundTrip
import Gamebook.Proofs.Disk
import Gamebook.Proofs.Settings
import Gamebook.Proofs.NamedLanguage
import Gamebook.Proofs.Packs
import Gamebook.Proofs.Reload
import Gamebook.Proofs.Command
import Gamebook.Proofs.Grammar
import Gamebook.Proofs.Story.Machine
import Gamebook.Proofs.Story.Choice
import Gamebook.Proofs.Rules
import Gamebook.Proofs.OffDisk
import Gamebook.Proofs.InGame
import Gamebook.Proofs.Languages
import Gamebook.Proofs.Answers
import Gamebook.Proofs.Calls
import Gamebook.Proofs.PromptRules
import Gamebook.Proofs.Session
import Gamebook.Proofs.Story.Opening
import Gamebook.Proofs.Story.Script
import Gamebook.Proofs.Quiet
import Gamebook.Proofs.Restarts
import Gamebook.Proofs.Template.Discreet
import Gamebook.Proofs.Template.Literal
import Gamebook.Proofs.TwoRuns
import Gamebook.Proofs.Isolation
import Gamebook.Proofs.Tables
import Gamebook.Proofs.Fights
import Gamebook.Proofs.FightCourse
import Gamebook.Proofs.Stalemate
import Gamebook.Proofs.Story.Options
import Gamebook.Proofs.Story.NoBlock
import Gamebook.Proofs.KeptFiles
import Gamebook.Proofs.Story.Layout
import Gamebook.Proofs.Menu
import Gamebook.Proofs.Spacing
import Gamebook.Proofs.Attacks
import Gamebook.Proofs.Paths
import Gamebook.Proofs.Story.Whereabouts
import Gamebook.Proofs.Story.Footprint
import Gamebook.Proofs.PackNames
import Gamebook.Proofs.Listed
