import HttpClient.Pool.Ledger
import HttpClient.Rehearsal.Report
import HttpClient.Proofs.Pool.Custody
import HttpClient.Proofs.Pool.Operations
import HttpClient.Proofs.Pool.Waiting
import HttpClient.Proofs.Pool.Holdings
import HttpClient.Proofs.Pool.Commands
import HttpClient.Proofs.Pool.Accounts
import HttpClient.Proofs.Pool.Wakeups
import HttpClient.Proofs.Exchange.Moves
import HttpClient.Proofs.Exchange.Steps
import HttpClient.Proofs.Client.Journal
import HttpClient.Proofs.Exchange.Frames
import HttpClient.Proofs.Exchange.Places
import HttpClient.Proofs.Exchange.Aims
import HttpClient.Proofs.Exchange.Turns
import HttpClient.Proofs.Client.Connections
import HttpClient.Proofs.Client.Reuse
import HttpClient.Proofs.Auth.Schemes
import HttpClient.Proofs.Exchange.Conduct
import HttpClient.Proofs.Client.Departures
import HttpClient.Proofs.Client.Lineage
import HttpClient.Proofs.Client.Handshake
import HttpClient.Proofs.Body.Channel
import HttpClient.Proofs.Body.Backpressure
import HttpClient.Proofs.Body.InOrder
import HttpClient.Proofs.Body.Completion
import HttpClient.Proofs.Client.Fates
import HttpClient.Proofs.Client.Budgets
import HttpClient.Proofs.Client.Attempts
import HttpClient.Proofs.Client.Release
import HttpClient.Proofs.Client.Itinerary
import HttpClient.Proofs.Client.Identities
import HttpClient.Proofs.Client.Blame
import HttpClient.Proofs.Client.Retries
import HttpClient.Proofs.Client.Replays
import HttpClient.Proofs.Client.Parking
import HttpClient.Proofs.Pool.Eviction
import HttpClient.Proofs.Pool.Freshness
import HttpClient.Proofs.Auth.Endings
import HttpClient.Proofs.Auth.Restarts
import HttpClient.Proofs.Auth.Ntlm.Buffers
import HttpClient.Proofs.Auth.Ntlm.Layout
import HttpClient.Proofs.Auth.Ntlm.Reading
import HttpClient.Proofs.Auth.Ntlm.Verification
import HttpClient.Proofs.Auth.Challenges.Parsing
import HttpClient.Proofs.Auth.Challenges.Progress
import HttpClient.Proofs.Auth.Digest.Counts
import HttpClient.Proofs.Auth.Digest.Selection
import HttpClient.Proofs.Exchange.Origins
import HttpClient.Proofs.Body.Collecting
import HttpClient.Proofs.Client.Deliveries
import HttpClient.Proofs.Auth.Ntlm.Keys
import HttpClient.Proofs.Header.Replacement
import HttpClient.Proofs.Client.Rewriting
import HttpClient.Proofs.Client.Policies
