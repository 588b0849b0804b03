import Retrace.Execution.Script
import Retrace.Main
import Retrace.Proofs.Counting
import Retrace.Proofs.Excerpts
import Retrace.Proofs.Inputs
import Retrace.Proofs.Msvc
import Retrace.Proofs.Output
import Retrace.Proofs.Ownership
import Retrace.Proofs.Protocol
import Retrace.Proofs.Quoting
import Retrace.Proofs.Retracing
import Retrace.Proofs.Truncation
import Retrace.Proofs.WholeProgram
import Retrace.Tool.Count
