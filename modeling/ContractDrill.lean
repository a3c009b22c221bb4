import ContractDrill.Main
import ContractDrill.Session.Operation
import ContractDrill.Proofs.Session.Workflow
import ContractDrill.Proofs.Session.Readiness
import ContractDrill.Proofs.Session.Failing
import ContractDrill.Proofs.Session.Schedule
import ContractDrill.Proofs.Session.Sharing
import ContractDrill.Proofs.Task.Fitting
import ContractDrill.Proofs.Json.Reading
import ContractDrill.Proofs.Json.Wire
import ContractDrill.Proofs.Session.Deeds
import ContractDrill.Proofs.Session.Signing
import ContractDrill.Proofs.Session.ExitCode
import ContractDrill.Proofs.Message.Unambiguous
import ContractDrill.Proofs.Wait.Monotone
import ContractDrill.Proofs.Wait.TimeLimit
import ContractDrill.Proofs.Calendar.DayCount
import ContractDrill.Proofs.Calendar.Utc
import ContractDrill.Proofs.Calendar.Offset
import ContractDrill.Proofs.Calendar.Second
import ContractDrill.Proofs.Session.Status
import ContractDrill.Proofs.Answer.Address
import ContractDrill.Proofs.Answer.TaskLists
import ContractDrill.Proofs.Session.Placement
import ContractDrill.Proofs.Message.Wording
import ContractDrill.Proofs.Settings.Overrides
import ContractDrill.Proofs.Schema.Normalising
import ContractDrill.Proofs.Session.Interrupting
import ContractDrill.Proofs.Session.Halting
