import ControlMachine.Number.Single
import ControlMachine.Network.Requests
import ControlMachine.Runner
import ControlMachine.Main
import ControlMachine.Proofs.MemoryAccess
import ControlMachine.Proofs.ByteMoves
import ControlMachine.Proofs.FieldReading
import ControlMachine.Proofs.Tracking
import ControlMachine.Proofs.Effects
import ControlMachine.Proofs.Steps
import ControlMachine.Proofs.InstructionExtent
import ControlMachine.Proofs.ElementStores
import ControlMachine.Proofs.FaultResidue
import ControlMachine.Proofs.Coherence
import ControlMachine.Proofs.FixedOrder
import ControlMachine.Proofs.ControlLoop
import ControlMachine.Proofs.SlotChanges
import ControlMachine.Proofs.CallMatching
import ControlMachine.Proofs.Remapping
import ControlMachine.Proofs.Sizes
import ControlMachine.Proofs.Restart
import ControlMachine.Proofs.SlotStatus
import ControlMachine.Proofs.CleanCompletion
import ControlMachine.Proofs.MappingLifetime
import ControlMachine.Proofs.Following
import ControlMachine.Proofs.LargerMemory
import ControlMachine.Proofs.BankSafety
import ControlMachine.Proofs.RepeatedTick
import ControlMachine.Proofs.Scheduling
import ControlMachine.Proofs.GainSigns
import ControlMachine.Proofs.Untied
import ControlMachine.Proofs.Ties
import ControlMachine.Proofs.HeldBack
import ControlMachine.Proofs.AllOrNothing
import ControlMachine.Proofs.FixedArithmetic
import ControlMachine.Proofs.SamplePeriod
import ControlMachine.Proofs.SmoothTransfer
import ControlMachine.Proofs.RaisedTarget
import ControlMachine.Proofs.Independence
import ControlMachine.Proofs.FaultingPoll
import ControlMachine.Proofs.Transfers
import ControlMachine.Proofs.IntegerText
import ControlMachine.Proofs.InlineTexts
import ControlMachine.Proofs.LiteralTables
import ControlMachine.Proofs.CommonDivisor
import ControlMachine.Proofs.OverlappingCopies
import ControlMachine.Proofs.TrueOrder
import ControlMachine.Proofs.ElapsedTime
import ControlMachine.Proofs.InstructionLayout
import ControlMachine.Proofs.Tiling
import ControlMachine.Proofs.JoinedPrograms
import ControlMachine.Proofs.HexSpelling
import ControlMachine.Proofs.StepBudgets
import ControlMachine.Proofs.DecimalPlaces
import ControlMachine.Proofs.RoundedQuotients
import ControlMachine.Proofs.FixedText
import ControlMachine.Proofs.NumberText
import ControlMachine.Proofs.FixedQuotients
import ControlMachine.Proofs.StatusReports
import ControlMachine.Proofs.TypedCells
