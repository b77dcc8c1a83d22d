import CanOpen.Bus.Link
import CanOpen.Message.Summary
import CanOpen.Nmt.Master
import CanOpen.Proofs.Assembly
import CanOpen.Proofs.BlockCompletion
import CanOpen.Proofs.BlockDelivery
import CanOpen.Proofs.BlockTracing
import CanOpen.Proofs.BurstDetection
import CanOpen.Proofs.Disturbance
import CanOpen.Proofs.Faults
import CanOpen.Proofs.GivingUp
import CanOpen.Proofs.Logging
import CanOpen.Proofs.ModeTracking
import CanOpen.Proofs.NodeFiltering
import CanOpen.Proofs.NodeGuarding
import CanOpen.Proofs.Numerals
import CanOpen.Proofs.Packing
import CanOpen.Proofs.ReadingBack
import CanOpen.Proofs.Reception
import CanOpen.Proofs.Rejection
import CanOpen.Proofs.Rendering
import CanOpen.Proofs.RequestReading
import CanOpen.Proofs.RoundBudget
import CanOpen.Proofs.Sessions
import CanOpen.Proofs.StopAndWait
import CanOpen.Sdo.Client
