import TableMachine.Form.Decode
import TableMachine.Form.Encode
import TableMachine.Host.Basic
import TableMachine.Inspect.Values
import TableMachine.Script.Instruction
import TableMachine.Proofs.Calls
import TableMachine.Proofs.Drafts
import TableMachine.Proofs.Rehearsals
import TableMachine.Proofs.Builders
import TableMachine.Proofs.Ranking
import TableMachine.Proofs.Responses
import TableMachine.Proofs.Compiled
import TableMachine.Proofs.Integrity
import TableMachine.Proofs.Acts
import TableMachine.Proofs.Deeds
import TableMachine.Proofs.Life
import TableMachine.Proofs.Walks
import TableMachine.Proofs.Switches
import TableMachine.Proofs.Refinement
import TableMachine.Proofs.Nesting
import TableMachine.Proofs.Runs
import TableMachine.Proofs.Lookups
import TableMachine.Proofs.Faults
import TableMachine.Proofs.Journals
import TableMachine.Proofs.Modes
import TableMachine.Proofs.Callees
import TableMachine.Proofs.Sessions
import TableMachine.Proofs.Scripts
import TableMachine.Proofs.Observers
import TableMachine.Proofs.Quiet
import TableMachine.Proofs.Blocks
import TableMachine.Proofs.Log
import TableMachine.Proofs.FailureLines
import TableMachine.Proofs.Values
import TableMachine.Proofs.Conditions
import TableMachine.Proofs.Histories
import TableMachine.Proofs.Calendar
import TableMachine.Proofs.Timestamps
import TableMachine.Proofs.Forms
import TableMachine.Proofs.Acceptance
import TableMachine.Proofs.Shorthand
import TableMachine.Proofs.Requirements
import TableMachine.Proofs.Recognition
import TableMachine.Proofs.Windows
import TableMachine.Proofs.Payloads
import TableMachine.Proofs.Interpreter
import TableMachine.Proofs.Sameness
import TableMachine.Proofs.Counterparts
import TableMachine.Proofs.Builders
