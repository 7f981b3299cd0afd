import PanelPuzzle.Batch
import PanelPuzzle.CommandLine.Arguments
import PanelPuzzle.CommandLine.Host
import PanelPuzzle.CommandLine.Options
import PanelPuzzle.CommandLine.Run
import PanelPuzzle.Cover.Coverings
import PanelPuzzle.Cover.Lid
import PanelPuzzle.Cover.ResetTrap
import PanelPuzzle.Cover.SizeObscure
import PanelPuzzle.Cover.Style
import PanelPuzzle.Cover.TakeOver
import PanelPuzzle.Difficulty
import PanelPuzzle.Draws.Basic
import PanelPuzzle.Draws.Keystream
import PanelPuzzle.Element
import PanelPuzzle.Export.Reader
import PanelPuzzle.Export.Writer
import PanelPuzzle.Fit
import PanelPuzzle.Generation.Generator
import PanelPuzzle.Generation.Plugs
import PanelPuzzle.Generation.Populate
import PanelPuzzle.Grid
import PanelPuzzle.Json.Content
import PanelPuzzle.Json.Numeral
import PanelPuzzle.Json.Quoted
import PanelPuzzle.Json.Reading
import PanelPuzzle.Json.Record
import PanelPuzzle.Json.Skipping
import PanelPuzzle.Json.Value
import PanelPuzzle.Json.Variant
import PanelPuzzle.Main
import PanelPuzzle.Making.Draft
import PanelPuzzle.Making.Event
import PanelPuzzle.Making.Remote
import PanelPuzzle.Making.Session
import PanelPuzzle.Making.Workbench
import PanelPuzzle.Maze.Carving
import PanelPuzzle.Maze.Layout
import PanelPuzzle.Number.Basic
import PanelPuzzle.Number.Decimal
import PanelPuzzle.Palette
import PanelPuzzle.PlugPool
import PanelPuzzle.Puzzle
import PanelPuzzle.PuzzleText.Reader
import PanelPuzzle.PuzzleText.Reading
import PanelPuzzle.PuzzleText.Tail
import PanelPuzzle.PuzzleText.Token
import PanelPuzzle.PuzzleText.Writer
import PanelPuzzle.Shape
import PanelPuzzle.Technique.Apply
import PanelPuzzle.Technique.Group
import PanelPuzzle.Technique.Hole
import PanelPuzzle.Technique.Kind
import PanelPuzzle.Technique.Maze
import PanelPuzzle.Technique.Pattern
import PanelPuzzle.Technique.Screw
import PanelPuzzle.Technique.Semicircle
import PanelPuzzle.Technique.Switch
import PanelPuzzle.Technique.SwitchPattern
import PanelPuzzle.Technique.Tumbler
import PanelPuzzle.Text.Blank
import PanelPuzzle.Text.Integer
import PanelPuzzle.Text.Pieces
import PanelPuzzle.Proofs.Grid.Tiling
import PanelPuzzle.Proofs.Making.Claiming
import PanelPuzzle.Proofs.Cover.Claiming
import PanelPuzzle.Proofs.Generation.Tiling
import PanelPuzzle.Proofs.Number.Wording
import PanelPuzzle.Proofs.PuzzleText.Clauses
import PanelPuzzle.Proofs.PuzzleText.Rereading
import PanelPuzzle.Proofs.PuzzleText.RoundTrip
import PanelPuzzle.Proofs.PuzzleText.Stable
import PanelPuzzle.Proofs.Generation.Exact
import PanelPuzzle.Proofs.Generation.Freedom
import PanelPuzzle.Proofs.Generation.Sockets
import PanelPuzzle.Proofs.Generation.Goals
import PanelPuzzle.Proofs.Generation.Mechanisms
import PanelPuzzle.Proofs.Generation.Laying
import PanelPuzzle.Proofs.Maze.Perfect
import PanelPuzzle.Proofs.Export.RoundTrip
import PanelPuzzle.Proofs.Generation.Batches
import PanelPuzzle.Proofs.Maze.Exit
import PanelPuzzle.Proofs.Technique.Walls
import PanelPuzzle.Proofs.PuzzleText.Grammar
import PanelPuzzle.Proofs.PuzzleText.Failing
import PanelPuzzle.Proofs.Cover.Refusing
import PanelPuzzle.Proofs.Cover.OnTop
import PanelPuzzle.Proofs.Grid.Search
import PanelPuzzle.Proofs.Technique.Links
import PanelPuzzle.Proofs.Technique.Hiding
import PanelPuzzle.Proofs.Generation.Recording
import PanelPuzzle.Proofs.Fit.Halves
import PanelPuzzle.Proofs.PuzzleText.Bounds
import PanelPuzzle.Proofs.Technique.LeftToRight
import PanelPuzzle.Proofs.Generation.WrongSizes
import PanelPuzzle.Proofs.PlugPool.Balance
import PanelPuzzle.Proofs.Grid.Union
import PanelPuzzle.Proofs.PuzzleText.Settling
import PanelPuzzle.Proofs.Generation.Traps
