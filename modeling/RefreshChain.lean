import RefreshChain.Family.Query
import RefreshChain.Main
import RefreshChain.Proofs.Atomicity
import RefreshChain.Proofs.Composition
import RefreshChain.Proofs.Containment
import RefreshChain.Proofs.Isolation
import RefreshChain.Proofs.Logout
import RefreshChain.Proofs.Replay
import RefreshChain.Proofs.Swaps
import RefreshChain.Proofs.Calls
import RefreshChain.Proofs.Nesting.Plain
import RefreshChain.Proofs.Nesting
import RefreshChain.Proofs.Success
import RefreshChain.Proofs.LifeCycle
import RefreshChain.Proofs.Upholding
import RefreshChain.Proofs.Accounting
import RefreshChain.Proofs.Administration
import RefreshChain.Proofs.Revocation
import RefreshChain.Proofs.Integrity
import RefreshChain.Proofs.Evolution
import RefreshChain.Proofs.Roots
import RefreshChain.Proofs.Store.Integral
import RefreshChain.Proofs.Migrations
import RefreshChain.Proofs.Exchanges
import RefreshChain.Proofs.Calendar
import RefreshChain.Proofs.Grants
import RefreshChain.Proofs.WrittenTimes
import RefreshChain.Proofs.Lookups
import RefreshChain.Proofs.Rotations
import RefreshChain.Proofs.Store.Keys
import RefreshChain.Proofs.Interference
import RefreshChain.Proofs.ValidChild
import RefreshChain.Proofs.TokenArguments
import RefreshChain.Proofs.Resumption
import RefreshChain.Proofs.Reload
import RefreshChain.Proofs.Settings
import RefreshChain.Proofs.Encoding
