import InputScript.Disk.Tree
import InputScript.Main
import InputScript.Proofs.Timeline.Cursor
import InputScript.Proofs.Compile.Run
import InputScript.Proofs.Compile.Placed
import InputScript.Proofs.Compile.StraightLine
import InputScript.Proofs.Timeline.Replay
import InputScript.Proofs.Compile.LoopBody
import InputScript.Proofs.Script.Grammar
import InputScript.Proofs.Script.Parse
import InputScript.Proofs.Compile.Growth
import InputScript.Proofs.Script.Spacing
import InputScript.Proofs.Compile.Translation
import InputScript.Proofs.Compile.Rejected
import InputScript.Proofs.Compile.Account
import InputScript.Proofs.Compile.Wording
import InputScript.Proofs.Compile.Noise
import InputScript.Proofs.Exact.Compiler
import InputScript.Proofs.Exact.Refinement
import InputScript.Proofs.Project.KeyFile
import InputScript.Proofs.Artifact.HeaderLine
import InputScript.Proofs.Compile.Origin
import InputScript.Proofs.Decimal.Numeral
import InputScript.Proofs.Artifact.Header
import InputScript.Proofs.Project.DeclaredKeys
import InputScript.Proofs.Binary.Rounding
import InputScript.Proofs.Decimal.Shortest
import InputScript.Proofs.Decimal.Value
import InputScript.Proofs.Pad.Stick
import InputScript.Proofs.Json.Numeral
import InputScript.Proofs.Json.Grammar
import InputScript.Proofs.Json.Reader
import InputScript.Proofs.Json.Printer
import InputScript.Proofs.Artifact.FrameDocument
import InputScript.Proofs.Binary.Threshold
import InputScript.Proofs.Pad.Axis
import InputScript.Proofs.Compile.Sticks
import InputScript.Proofs.Artifact.Literal
import InputScript.Proofs.Artifact.Components
import InputScript.Proofs.Artifact.Enumerators
import InputScript.Proofs.Disk.Tree
import InputScript.Proofs.Command.Run
import InputScript.Proofs.Project.KeyTable
import InputScript.Proofs.Script.Tokenisation
import InputScript.Proofs.Artifact.BreakOff
import InputScript.Proofs.Binary.Arctangent
import InputScript.Proofs.Binary.HalfTurn
import InputScript.Proofs.Pad.Angle
import InputScript.Proofs.Text.ByteOrder
import InputScript.Proofs.Pad.Keys
import InputScript.Proofs.Script.Cue
import InputScript.Proofs.Project.KeyOrder
import InputScript.Proofs.Artifact.Declarations
