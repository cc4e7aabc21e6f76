import LiveGrid.Main
import LiveGrid.Proofs.Script.Language
import LiveGrid.Proofs.Script.Faults
import LiveGrid.Proofs.Script.Evaluation
import LiveGrid.Proofs.Script.Hoisting
import LiveGrid.Proofs.Script.Sandbox
import LiveGrid.Proofs.Session.Log
import LiveGrid.Proofs.Session.Operation
import LiveGrid.Proofs.Session.Replay
import LiveGrid.Proofs.Session.Provenance
import LiveGrid.Proofs.Script.Floats
import LiveGrid.Proofs.Grid.Frame
import LiveGrid.Proofs.Session.Mode
import LiveGrid.Proofs.Terminal.Loop
import LiveGrid.Proofs.Editor.Split
import LiveGrid.Proofs.Grid.Cells
import LiveGrid.Proofs.Session.Rows
import LiveGrid.Proofs.Session.Silence
import LiveGrid.Proofs.Session.Frames
import LiveGrid.Proofs.Session.Decoding
import LiveGrid.Proofs.Session.Queue
import LiveGrid.Proofs.Session.Resume
import LiveGrid.Proofs.Grid.Draws
import LiveGrid.Proofs.Terminal.Settings
import LiveGrid.Proofs.Script.FloatFaults
import LiveGrid.Proofs.Script.Counting
import LiveGrid.Proofs.Script.Naming
import LiveGrid.Proofs.Script.Augmented
import LiveGrid.Proofs.Screen.Prompt
import LiveGrid.Proofs.Script.FunctionReads
import LiveGrid.Proofs.Script.WordPower
import LiveGrid.Proofs.Screen.Layout
import LiveGrid.Proofs.Screen.Message
import LiveGrid.Proofs.Editor.Reading
import LiveGrid.Proofs.Editor.Cursor
import LiveGrid.Proofs.Grid.Shade
import LiveGrid.Proofs.Sound.Handles
import LiveGrid.Proofs.Sound.Worker
import LiveGrid.Proofs.Benchmark.Time
import LiveGrid.Proofs.Script.LiteralNames
