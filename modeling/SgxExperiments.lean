import SgxExperiments.LockedSections
import SgxExperiments.SectionReduction
import SgxExperiments.SectionProgress
import SgxExperiments.RingBuffer
import SgxExperiments.RingBufferProgress
import SgxExperiments.ThreadCounter
import SgxExperiments.BreakableBlock
import SgxExperiments.ByteMemory
import SgxExperiments.KeyDerivation
import SgxExperiments.ServiceProvider
import SgxExperiments.Msg1Steps
import SgxExperiments.HandlerOutcomes
import SgxExperiments.Msg1Overrun
import SgxExperiments.NetworkRa
import SgxExperiments.Registration
import SgxExperiments.SessionRecord
import SgxExperiments.Msg2
import SgxExperiments.AgreedKeys
import SgxExperiments.AttestationApp
import SgxExperiments.AppOutcomes
import SgxExperiments.ExitStatus
import SgxExperiments.AppRelease
import SgxExperiments.EnclaveSecret
import SgxExperiments.Framing
import SgxExperiments.ResultMac
import SgxExperiments.Msg2Bounds
import SgxExperiments.Msg1Resources
import SgxExperiments.AttestationReport
import SgxExperiments.DefaultDerivation
import SgxExperiments.Arithmetic
import SgxExperiments.UserCheck
import SgxExperiments.SectionEffort
import SgxExperiments.RingBufferCompletion
import SgxExperiments.ThreadFunctions
import SgxExperiments.BlockSimulation
import SgxExperiments.LinkedMain
import SgxExperiments.LinkedRefinement
import SgxExperiments.LinkedSession
import SgxExperiments.LinkedMemory
import SgxExperiments.Msg2Integrity
import SgxExperiments.BlockInvariant
import SgxExperiments.CopiedBuffer
import SgxExperiments.ArrayAttributes
import SgxExperiments.CString
import SgxExperiments.PointerAttributes
import SgxExperiments.PointerOcalls
import SgxExperiments.CallNesting
import SgxExperiments.FunctionAttributes
import SgxExperiments.EnclavePrint
