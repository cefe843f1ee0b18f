import TickScript.Main
import TickScript.Probe
import TickScript.Script.Tagged
import TickScript.StateStack
import TickScript.Value.Reader
import TickScript.Proofs.Fates
import TickScript.Proofs.Sequential.Refinement
import TickScript.Proofs.Retry
import TickScript.Proofs.Resolution
import TickScript.Proofs.Nesting
import TickScript.Proofs.Errands
import TickScript.Proofs.Completion
import TickScript.Proofs.Numbering
import TickScript.Proofs.Deeds
import TickScript.Proofs.Resumption
import TickScript.Proofs.Sweep
import TickScript.Proofs.Lifetime
import TickScript.Proofs.Conservation
import TickScript.Proofs.Loading
import TickScript.Proofs.Comparison
import TickScript.Proofs.Recording
import TickScript.Proofs.Desugaring
import TickScript.Proofs.Skipping
import TickScript.Proofs.Frame
import TickScript.Proofs.Reordering
import TickScript.Proofs.Pacing
import TickScript.Proofs.Rereading
import TickScript.Proofs.Arms
import TickScript.Proofs.Breakdowns
import TickScript.Proofs.Timing
import TickScript.Proofs.Extremes
import TickScript.Proofs.Totals
import TickScript.Proofs.Nanoseconds
import TickScript.Proofs.Timetable
import TickScript.Proofs.Trichotomy
import TickScript.Proofs.Firing
import TickScript.Proofs.Capture
import TickScript.Proofs.Lossless
import TickScript.Proofs.Iteration
import TickScript.Proofs.Registration
import TickScript.Proofs.CallOrder
import TickScript.Proofs.Layering
import TickScript.Proofs.Places
