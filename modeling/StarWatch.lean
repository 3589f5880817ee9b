import StarWatch.Feed
import StarWatch.Keepalive
import StarWatch.Main
import StarWatch.Rehearsal
import StarWatch.Proofs.Pending
import StarWatch.Proofs.Visit
import StarWatch.Proofs.Reconcile
import StarWatch.Proofs.Run
import StarWatch.Proofs.Sighting
import StarWatch.Proofs.Receipts
import StarWatch.Proofs.Passage
import StarWatch.Proofs.Precedence
import StarWatch.Proofs.Calls
import StarWatch.Proofs.Lifecycle
import StarWatch.Proofs.Delivery
import StarWatch.Proofs.Eviction
import StarWatch.Proofs.Ordering
import StarWatch.Proofs.Window
import StarWatch.Proofs.Retry
import StarWatch.Proofs.Repetition
import StarWatch.Proofs.Indifference
import StarWatch.Proofs.Polling
import StarWatch.Proofs.Identity
import StarWatch.Proofs.Utf8
import StarWatch.Proofs.Encoding
import StarWatch.Proofs.Arrivals
import StarWatch.Proofs.Grammar
import StarWatch.Proofs.Numerals
import StarWatch.Proofs.Trimming
import StarWatch.Proofs.Checksum
import StarWatch.Proofs.Amounts
import StarWatch.Proofs.Notices
import StarWatch.Proofs.Origins
import StarWatch.Proofs.HexText
import StarWatch.Proofs.JsonText
import StarWatch.Proofs.CivilDays
import StarWatch.Proofs.InstantText
import StarWatch.Proofs.Records
import StarWatch.Proofs.Balance
import StarWatch.Proofs.Gauge
import StarWatch.Proofs.Kinds
import StarWatch.Proofs.Blanks
import StarWatch.Proofs.Fairness
import StarWatch.Proofs.Acceptance
import StarWatch.Proofs.AddressText
import StarWatch.Proofs.PlainDecimals
import StarWatch.Proofs.Report
import StarWatch.Proofs.Cut
import StarWatch.Proofs.Subscribing
import StarWatch.Proofs.PaddedText
import StarWatch.Proofs.Heartbeat
import StarWatch.Proofs.Forwarding
import StarWatch.Proofs.Stamps
