import LexKit.Automaton.Session
import LexKit.Main
import LexKit.Program.Run
import LexKit.Proofs.Automaton.Commuting
import LexKit.Proofs.Automaton.Deeds
import LexKit.Proofs.Automaton.Dump
import LexKit.Proofs.Automaton.Edits
import LexKit.Proofs.Automaton.Handles
import LexKit.Proofs.Automaton.History
import LexKit.Proofs.Automaton.Renaming
import LexKit.Proofs.Automaton.Replay
import LexKit.Proofs.Automaton.WellFormed
import LexKit.Proofs.Blueprint.Refinement
import LexKit.Proofs.Lexers.Arithmetic
import LexKit.Proofs.Lexers.ArithmeticFault
import LexKit.Proofs.Lexers.Document
import LexKit.Proofs.Lexers.Grammar
import LexKit.Proofs.Lexers.Json
import LexKit.Proofs.Lexers.JsonFault
import LexKit.Proofs.Lexers.Keywords
import LexKit.Proofs.Lexers.Spacing
import LexKit.Proofs.Program.CommandLine
import LexKit.Proofs.Program.Terminal
import LexKit.Proofs.Scan.Conservation
import LexKit.Proofs.Scan.Cursor
import LexKit.Proofs.Scan.Divergence
import LexKit.Proofs.Scan.Extension
import LexKit.Proofs.Scan.FaultLocation
import LexKit.Proofs.Scan.Inclusion
import LexKit.Proofs.Scan.Locality
import LexKit.Proofs.Scan.Lockstep
import LexKit.Proofs.Scan.Progress
import LexKit.Proofs.Scan.Reading
import LexKit.Proofs.Scan.Relabeling
import LexKit.Proofs.Scan.Restart
import LexKit.Proofs.Scan.Rewinding
import LexKit.Proofs.Scan.Runs
import LexKit.Proofs.Scan.Selection
import LexKit.Proofs.Scan.TokenReading
import LexKit.Proofs.Scan.Tracking
import LexKit.Proofs.Scan.Undecided
import LexKit.Proofs.Text.Control
import LexKit.Proofs.Text.SelfDelimiting
import LexKit.Proofs.Token.Agreement
import LexKit.Proofs.Token.Consumption
import LexKit.Proofs.Token.Display
import LexKit.Proofs.Token.Document
import LexKit.Token.Consumption
