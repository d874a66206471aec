import IsaUser.Credit.Reconciliation
import IsaUser.Credit.Consumption
import IsaUser.Credit.Counters
import IsaUser.Credit.FifoPlan
import IsaUser.Credit.LedgerChain
import IsaUser.Credit.TransferRaces
import IsaUser.Credit.AllocationRaces
import IsaUser.Credit.CampaignRaces
import IsaUser.Wallet.Failures
import IsaUser.Wallet.Statistics
import IsaUser.Wallet.Refunds
import IsaUser.Core.CircuitBreaker
import IsaUser.Core.RateLimiter
import IsaUser.Wallet.Receipts
import IsaUser.Subscription.Renewals
import IsaUser.Subscription.Lookups
import IsaUser.Billing.Wire
import IsaUser.Billing.External
import IsaUser.Billing.Overview
import IsaUser.Inventory.Settlement
import IsaUser.Inventory.Fate
import IsaUser.Order.Refunds
import IsaUser.Authorization.Revocation
import IsaUser.Authorization.Expiry
import IsaUser.Authorization.Organizations
import IsaUser.Product.Lookup
import IsaUser.Payment.Refunds
import IsaUser.Payment.Completions
import IsaUser.Payment.Captured
import IsaUser.Payment.Deletion
import IsaUser.Membership.Tiers
import IsaUser.Membership.Lifecycle
import IsaUser.Membership.BenefitLimits
import IsaUser.Campaign.Lifecycle
import IsaUser.Campaign.Clone
import IsaUser.Campaign.Allocations
import IsaUser.Campaign.Outcomes
import IsaUser.Auth.Pairing
import IsaUser.Auth.Scopes
import IsaUser.Auth.Registration
import IsaUser.Vault.Secrets
import IsaUser.Vault.Access
import IsaUser.Storage.Shares
import IsaUser.Invitations.Lifecycle
import IsaUser.Events.Reports
import IsaUser.Events.Handouts
import IsaUser.Auth.ApiKeyRaces
import IsaUser.Session.Totals
import IsaUser.Tasks.Due
import IsaUser.Organizations.Owners
import IsaUser.Organizations.Stored
import IsaUser.Artifacts.Grants
import IsaUser.Artifacts.KeyValues
import IsaUser.Artifacts.Shares
import IsaUser.Training.Proofs
import IsaUser.Training.Restart
import IsaUser.Order.Amounts
import IsaUser.Authorization.Agreement
import IsaUser.Product.Tiers
import IsaUser.Product.Meters
import IsaUser.Product.Storage
import IsaUser.Campaign.Buckets
import IsaUser.Auth.ApiKeySweeps
import IsaUser.Auth.RequestLimits
import IsaUser.Vault.Erasure
import IsaUser.Vault.Verification
import IsaUser.Invitations.Usable
import IsaUser.Events.Projections
import IsaUser.Tasks.NextRun
import IsaUser.Tasks.Limits
import IsaUser.Training.Grading
import IsaUser.Session.Search
import IsaUser.Telemetry.Alerts
import IsaUser.Telemetry.Aggregation
import IsaUser.Fulfillment.Shipments
