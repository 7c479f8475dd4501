import GpuMonitor.Listing
import GpuMonitor.Main
import GpuMonitor.Session.Operation
import GpuMonitor.Proofs.Action
import GpuMonitor.Proofs.Service
import GpuMonitor.Proofs.Library
import GpuMonitor.Proofs.Unloading
import GpuMonitor.Proofs.Agreement
import GpuMonitor.Proofs.Monitoring
import GpuMonitor.Proofs.Steps
import GpuMonitor.Proofs.Course
import GpuMonitor.Proofs.Lifetime
import GpuMonitor.Proofs.LeftActive
import GpuMonitor.Proofs.Bound
import GpuMonitor.Proofs.Writing
import GpuMonitor.Proofs.Rounds
import GpuMonitor.Proofs.Ending
import GpuMonitor.Proofs.Lines
import GpuMonitor.Proofs.Truncation
import GpuMonitor.Proofs.Asking
import GpuMonitor.Proofs.Reports
import GpuMonitor.Proofs.Reporting
import GpuMonitor.Proofs.Accounting
import GpuMonitor.Proofs.BestEffort
import GpuMonitor.Proofs.Lockstep
import GpuMonitor.Proofs.Independence
import GpuMonitor.Proofs.Holding
import GpuMonitor.Proofs.Forgotten
import GpuMonitor.Proofs.DeviceFirst
import GpuMonitor.Proofs.AfterRelease
import GpuMonitor.Proofs.Printing
import GpuMonitor.Proofs.Watching
import GpuMonitor.Proofs.Arguments
import GpuMonitor.Proofs.Outcome
import GpuMonitor.Proofs.Operating
import GpuMonitor.Proofs.Stability
import GpuMonitor.Proofs.Inspection
import GpuMonitor.Proofs.Sampling
import GpuMonitor.Proofs.Exactness
import GpuMonitor.Proofs.Feeding
import GpuMonitor.Proofs.Served
import GpuMonitor.Proofs.Opening
import GpuMonitor.Proofs.Minutes
import GpuMonitor.Proofs.Honesty
import GpuMonitor.Proofs.Selecting
import GpuMonitor.Proofs.Places
import GpuMonitor.Proofs.Entries
import GpuMonitor.Proofs.Cataloguing
import GpuMonitor.Proofs.Rendering
import GpuMonitor.Proofs.Recognition
import GpuMonitor.Proofs.Spelling
import GpuMonitor.Proofs.Searching
import GpuMonitor.Proofs.Nearest
import GpuMonitor.Proofs.Amounts
import GpuMonitor.Proofs.Normalizing
import GpuMonitor.Proofs.AddingUp
import GpuMonitor.Proofs.ReadingBack
import GpuMonitor.Proofs.Words
import GpuMonitor.Proofs.Columns
import GpuMonitor.Proofs.Validity
import GpuMonitor.Proofs.Stock
import GpuMonitor.Proofs.Telling
