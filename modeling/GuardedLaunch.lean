import GuardedLaunch.Kernel.History
import GuardedLaunch.Main
import GuardedLaunch.Profile.Shipped
import GuardedLaunch.Program
import GuardedLaunch.Rehearsal
import GuardedLaunch.Proofs.BrokenPipe
import GuardedLaunch.Proofs.Gate
import GuardedLaunch.Proofs.Handover
import GuardedLaunch.Proofs.Decoding
import GuardedLaunch.Proofs.LastCall
import GuardedLaunch.Proofs.RealTime
import GuardedLaunch.Proofs.Diagnostic
import GuardedLaunch.Proofs.HiddenValues
import GuardedLaunch.Proofs.InheritedEnvironment
import GuardedLaunch.Proofs.CallerInfluence
import GuardedLaunch.Proofs.Reporting
import GuardedLaunch.Proofs.Retry
import GuardedLaunch.Proofs.Scripts
import GuardedLaunch.Proofs.ValidProfile
import GuardedLaunch.Proofs.HalfSettled
import GuardedLaunch.Proofs.PartialReset
import GuardedLaunch.Proofs.Settleable
import GuardedLaunch.Proofs.Refusal
import GuardedLaunch.Proofs.Rewriting
import GuardedLaunch.Proofs.Block
import GuardedLaunch.Proofs.Misconfiguration
import GuardedLaunch.Proofs.Terminal
import GuardedLaunch.Proofs.FirstViolation
