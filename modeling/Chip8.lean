import Chip8.Notice
import Chip8.Checked
import Chip8.CallStack
import Chip8.Registers
import Chip8.Operation
import Chip8.RandomStream
import Chip8.Sprite
import Chip8.Device.Keypad
import Chip8.Device.Scripted
import Chip8.Terminal.Canvas
import Chip8.Terminal.Keyboard
import Chip8.Machine.Load
import Chip8.Machine.Run
import Chip8.Host.Session
import Chip8.Main
import Chip8.Machine.Action
import Chip8.Proofs.Decoding
import Chip8.Proofs.Cells
import Chip8.Proofs.WordStack
import Chip8.Proofs.ReturnStack
import Chip8.Proofs.Stepping
import Chip8.Proofs.KeyWaits
import Chip8.Proofs.Torus
import Chip8.Proofs.Reference.Semantics
import Chip8.Proofs.Reference.Refinement
import Chip8.Proofs.Starting
import Chip8.Proofs.CallReturn
import Chip8.Proofs.Faults
import Chip8.Proofs.SafeDevices
import Chip8.Proofs.NoAbort
import Chip8.Proofs.Drawing
import Chip8.Proofs.Loading
import Chip8.Proofs.Reachable
import Chip8.Proofs.Progress
import Chip8.Proofs.LastAddress
import Chip8.Proofs.Embedding
import Chip8.Proofs.Recording
import Chip8.Proofs.MoreMemory
import Chip8.Proofs.WriteConfinement
import Chip8.Proofs.RandomBytes
import Chip8.Proofs.Batching
import Chip8.Proofs.TimerIsolation
import Chip8.Proofs.Pictures
import Chip8.Proofs.KeyReading
import Chip8.Proofs.Sessions
import Chip8.Proofs.SessionStart
import Chip8.Proofs.Scheduling
import Chip8.Proofs.StepLimit
import Chip8.Proofs.LastPicture
import Chip8.Proofs.KeyInstructions
import Chip8.Proofs.DrawingCalls
import Chip8.Proofs.SessionKeys
import Chip8.Proofs.Escape
import Chip8.Proofs.RawMode
import Chip8.Proofs.BoundedStack
import Chip8.Proofs.Toggling
import Chip8.Proofs.PixelBits
import Chip8.Proofs.LitPoints
import Chip8.Proofs.RamAccesses
import Chip8.Proofs.DecodePriority
import Chip8.Proofs.SavedRegisters
import Chip8.Proofs.KeyHistory
