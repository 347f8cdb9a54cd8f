import Leasehold.Main
import Leasehold.Policy.Guard
import Leasehold.Settings.Record
import Leasehold.Proofs.Lock.Rollback
import Leasehold.Proofs.Lock.Keeping
import Leasehold.Proofs.Lock.Settlement
import Leasehold.Proofs.Policy.Dispatch
import Leasehold.Proofs.CommandLine.Succession
import Leasehold.Proofs.Lock.Losses
import Leasehold.Proofs.Waiting.Rounds
import Leasehold.Proofs.Waiting.Trace
import Leasehold.Proofs.Waiting.Takeover
import Leasehold.Proofs.Service.Renewed
import Leasehold.Proofs.Policy.History
import Leasehold.Proofs.Lock.Sweeping
import Leasehold.Proofs.Settings.Loading
import Leasehold.Proofs.Lock.States
import Leasehold.Proofs.Lock.Passes
import Leasehold.Proofs.Lock.Unread
import Leasehold.Proofs.Waiting.Pacing
import Leasehold.Proofs.Settings.Leases
import Leasehold.Proofs.Waiting.Bounds
import Leasehold.Proofs.Lock.Listing
import Leasehold.Proofs.Policy.Guards
import Leasehold.Proofs.Lock.Graces
import Leasehold.Proofs.Decimal.Rounding
import Leasehold.Proofs.Decimal.Shortest
import Leasehold.Proofs.Decimal.Texts
import Leasehold.Proofs.Settings.Arrivals
import Leasehold.Proofs.Time.Words
import Leasehold.Proofs.Waiting.Doubling
