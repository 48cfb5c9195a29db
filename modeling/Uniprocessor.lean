import Uniprocessor.CommandLine
import Uniprocessor.CommandLine.Options
import Uniprocessor.Config
import Uniprocessor.Config.Loader
import Uniprocessor.Fault
import Uniprocessor.Files
import Uniprocessor.Files.Path
import Uniprocessor.Json
import Uniprocessor.Json.Encoding
import Uniprocessor.Json.Reader
import Uniprocessor.Kernel
import Uniprocessor.Log
import Uniprocessor.Log.Json
import Uniprocessor.Main
import Uniprocessor.Number.Binary64
import Uniprocessor.Number.Decimal
import Uniprocessor.Number.Rounding
import Uniprocessor.Policy
import Uniprocessor.Process
import Uniprocessor.Process.State
import Uniprocessor.Protocol
import Uniprocessor.Registry
import Uniprocessor.Registry.Options
import Uniprocessor.Report
import Uniprocessor.Report.Json
import Uniprocessor.Report.Summary
import Uniprocessor.Service
import Uniprocessor.Service.Client
import Uniprocessor.Service.Host.Address
import Uniprocessor.Service.Host.Name
import Uniprocessor.Service.Host.Punycode
import Uniprocessor.Service.Url
import Uniprocessor.Simulation
import Uniprocessor.Simulation.Run
import Uniprocessor.Simulation.Status
import Uniprocessor.Table
import Uniprocessor.Text.Blank
import Uniprocessor.Text.Case
import Uniprocessor.Text.CodePoint
import Uniprocessor.Text.Composition
import Uniprocessor.Text.Composition.Table
import Uniprocessor.Text.Digit
import Uniprocessor.Text.Direction
import Uniprocessor.Text.Folding
import Uniprocessor.Text.Folding.Table
import Uniprocessor.Text.Hangul
import Uniprocessor.Text.Lines
import Uniprocessor.Text.Listing
import Uniprocessor.Text.Numeral
import Uniprocessor.Text.Padding
import Uniprocessor.Text.Printable
import Uniprocessor.Text.Quoted
import Uniprocessor.Text.Rows
import Uniprocessor.Text.Utf8
import Uniprocessor.Unhandled
import Uniprocessor.Workbench
import Uniprocessor.Workload
import Uniprocessor.Workload.Error
import Uniprocessor.Workload.Loader
import Uniprocessor.Workload.Reader
import Uniprocessor.Workload.Statement
import Uniprocessor.Proofs.Kernel.Views
import Uniprocessor.Proofs.Kernel.Operations
import Uniprocessor.Proofs.Kernel.Order
import Uniprocessor.Proofs.Kernel.Selection
import Uniprocessor.Proofs.Kernel.Alike
import Uniprocessor.Proofs.Protocol.Access
import Uniprocessor.Proofs.Policy.Choice
import Uniprocessor.Proofs.Workload.Validity
import Uniprocessor.Proofs.Workload.Ceilings
import Uniprocessor.Proofs.Text.Words
import Uniprocessor.Proofs.Text.Numeral
import Uniprocessor.Proofs.Workload.WellFormed
import Uniprocessor.Proofs.Workload.Writing
import Uniprocessor.Proofs.Workload.RoundTrip
import Uniprocessor.Proofs.Text.Cuts
import Uniprocessor.Proofs.Workload.Failure
import Uniprocessor.Proofs.Text.Spacing
import Uniprocessor.Proofs.Workload.Statements
import Uniprocessor.Proofs.Workload.Layout
import Uniprocessor.Proofs.Simulation.Ledger
import Uniprocessor.Proofs.Simulation.Phase
import Uniprocessor.Proofs.Simulation.Sound
import Uniprocessor.Proofs.Simulation.Moves
import Uniprocessor.Proofs.Simulation.Tick
import Uniprocessor.Proofs.Simulation.Start
import Uniprocessor.Proofs.Simulation.Run
import Uniprocessor.Proofs.Simulation.Shortest
import Uniprocessor.Proofs.Wakeups
import Uniprocessor.Proofs.Windows
import Uniprocessor.Proofs.Stall
import Uniprocessor.Proofs.Simulation.Allowance
import Uniprocessor.Proofs.Termination
import Uniprocessor.Proofs.NoFault
import Uniprocessor.Proofs.Protocol.Inheritance
import Uniprocessor.Proofs.Protocol.Chain
import Uniprocessor.Proofs.Inheritance
import Uniprocessor.Proofs.Inversion
import Uniprocessor.Proofs.Process.Priority
import Uniprocessor.Proofs.Protocol.Donation
import Uniprocessor.Proofs.Protocol.Elevation
import Uniprocessor.Proofs.Protocol.Ceiling
import Uniprocessor.Proofs.Ceiling
import Uniprocessor.Proofs.Simulation.Life
import Uniprocessor.Proofs.Situations
import Uniprocessor.Proofs.Simulation.Enlistment
import Uniprocessor.Proofs.Elevation
import Uniprocessor.Proofs.Ordering
import Uniprocessor.Proofs.Simulation.Effect
import Uniprocessor.Proofs.Timeline
import Uniprocessor.Proofs.Accounting
import Uniprocessor.Proofs.Lockstep
import Uniprocessor.Proofs.Kernel.Twin
import Uniprocessor.Proofs.Protocol.Twin
import Uniprocessor.Proofs.Policy.Twin
import Uniprocessor.Proofs.Simulation.Twin
import Uniprocessor.Proofs.Indifference
import Uniprocessor.Proofs.Backlog
import Uniprocessor.Proofs.Simulation.Backlog
import Uniprocessor.Proofs.Optimality
import Uniprocessor.Proofs.Kernel.Upkeep
import Uniprocessor.Proofs.Misuse
import Uniprocessor.Proofs.Policy.Decision
import Uniprocessor.Proofs.Scheduling
import Uniprocessor.Proofs.ShortestJob
import Uniprocessor.Proofs.Process.Guise
import Uniprocessor.Proofs.Kernel.Guise
import Uniprocessor.Proofs.Protocol.Guise
import Uniprocessor.Proofs.Policy.Guise
import Uniprocessor.Proofs.Simulation.Guise
import Uniprocessor.Proofs.Simulation.Course
import Uniprocessor.Proofs.Workload.Guise
import Uniprocessor.Proofs.Stepping
import Uniprocessor.Proofs.Renaming
import Uniprocessor.Proofs.Kernel.Traffic
import Uniprocessor.Proofs.Protocol.Traffic
import Uniprocessor.Proofs.Simulation.Parts
import Uniprocessor.Proofs.Simulation.Traffic
import Uniprocessor.Proofs.WakeOrder
import Uniprocessor.Proofs.Simulation.Picks
import Uniprocessor.Proofs.RoundRobin
import Uniprocessor.Proofs.Simulation.Accord
import Uniprocessor.Proofs.LargeQuantum
import Uniprocessor.Proofs.LaterStart
import Uniprocessor.Proofs.Protocol.Even
import Uniprocessor.Proofs.EqualPriorities
import Uniprocessor.Proofs.Atomicity
import Uniprocessor.Proofs.Blocking
import Uniprocessor.Proofs.Simulation.Bare
import Uniprocessor.Proofs.WorkConservation
import Uniprocessor.Proofs.Simulation.Turns
import Uniprocessor.Proofs.FirstCome
import Uniprocessor.Proofs.Kernel.Custody
import Uniprocessor.Proofs.Protocol.Custody
import Uniprocessor.Proofs.Simulation.Along
import Uniprocessor.Proofs.Simulation.Custody
import Uniprocessor.Proofs.Custody
import Uniprocessor.Proofs.Protocol.Announcement
import Uniprocessor.Proofs.Announcement
import Uniprocessor.Proofs.Simulation.Primed
import Uniprocessor.Proofs.Refusal
import Uniprocessor.Proofs.Text.Utf8
import Uniprocessor.Proofs.Json.Limits
import Uniprocessor.Proofs.Loading
import Uniprocessor.Proofs.Draining
import Uniprocessor.Proofs.Newlines
import Uniprocessor.Proofs.Protocol.Stretch
import Uniprocessor.Proofs.Donation
import Uniprocessor.Proofs.Config.Values
import Uniprocessor.Proofs.Overrides
import Uniprocessor.Proofs.Boosts
