import NoetixE1.Machine.Runs
import NoetixE1.Machine.Simulation
import NoetixE1.Machine.Accounts
import NoetixE1.Machine.Past
import NoetixE1.Library.Literals
import NoetixE1.Library.Interpolation
import NoetixE1.Library.Contraction
import NoetixE1.Library.Scatter
import NoetixE1.Library.HistoryStack
import NoetixE1.Library.SizedVector
import NoetixE1.Low.Types
import NoetixE1.Low.Globals
import NoetixE1.Low.Policy
import NoetixE1.Low.Handlers
import NoetixE1.Low.Process
import NoetixE1.Low.Buttons
import NoetixE1.Low.Invariant
import NoetixE1.Low.WalkConfig
import NoetixE1.Low.Frames
import NoetixE1.Low.Addressing
import NoetixE1.Low.Transitions
import NoetixE1.Low.Arming
import NoetixE1.Low.Console
import NoetixE1.Low.Recovery
import NoetixE1.Low.Stop
import NoetixE1.Low.Debounce
import NoetixE1.Low.WalkEntry
import NoetixE1.Low.Posture
import NoetixE1.Low.Plan
import NoetixE1.Low.Ramp
import NoetixE1.Low.Walking
import NoetixE1.Low.Envelope
import NoetixE1.Low.WalkSession
import NoetixE1.Low.Settling
import NoetixE1.Low.ModelParam
import NoetixE1.Low.Sizes
import NoetixE1.Low.Cadence
import NoetixE1.High.Remote
import NoetixE1.High.Decoder
import NoetixE1.High.Script
import NoetixE1.Library.Priority
import NoetixE1.High.Bindings
import NoetixE1.High.Presses
import NoetixE1.High.Recordings
import NoetixE1.High.Holds
import NoetixE1.High.Waiting
import NoetixE1.Library.SharedCell
import NoetixE1.Library.SharedMutex
import NoetixE1.Sdk.DataBuffer
import NoetixE1.High.Chords
import NoetixE1.Low.Snapshots
import NoetixE1.Low.Shaping
import NoetixE1.Low.ReadBack
import NoetixE1.Low.Isolation
import NoetixE1.Library.Polar
import NoetixE1.Library.AxisRotation
import NoetixE1.Attitude.RotationTools
import NoetixE1.Attitude.Gravity
import NoetixE1.Attitude.Conversions
import NoetixE1.Attitude.Domain
import NoetixE1.High.Lockstep
import NoetixE1.High.Start
import NoetixE1.High.Agreement
import NoetixE1.High.Leftovers
import NoetixE1.High.Schedule
import NoetixE1.Attitude.Observation
import NoetixE1.Library.EulerAngles
import NoetixE1.Library.QuaternionRotation
import NoetixE1.Attitude.RoundTrip
import NoetixE1.Attitude.Heading
import NoetixE1.Low.Hold
