import StripeEntitlements.Annual
import StripeEntitlements.Credits.PackTransitions
import StripeEntitlements.Redelivery.Invoices
import StripeEntitlements.Redelivery.Process
import StripeEntitlements.Ledger.CreditSteps
import StripeEntitlements.Ledger.Postings
import StripeEntitlements.Ledger.InvoicePostings
import StripeEntitlements.Ledger.ClawbackPostings
import StripeEntitlements.Ledger.EventPostings
import StripeEntitlements.Ledger.Audit
import StripeEntitlements.Identity.Guards
import StripeEntitlements.Identity.Bindings
import StripeEntitlements.Identity.Isolation
import StripeEntitlements.Ordering.Cursor
import StripeEntitlements.Ordering.Convergence
import StripeEntitlements.Packs.Steps
import StripeEntitlements.Packs.Runs
import StripeEntitlements.Packs.Chronicle
import StripeEntitlements.Packs.Progress
import StripeEntitlements.Packs.Debits
import StripeEntitlements.Packs.Termination
import StripeEntitlements.Checkout.Desk
import StripeEntitlements.Reconcile.PackReconcile
import StripeEntitlements.Relational.Lease
import StripeEntitlements.Reconcile.Fencing
import StripeEntitlements.Checkout.Coordinator
import StripeEntitlements.Checkout.SingleFlight
import StripeEntitlements.Checkout.Authority
import StripeEntitlements.Parity.Audit
import StripeEntitlements.Parity.InvoicePolicy
import StripeEntitlements.Parity.PricePolicy
import StripeEntitlements.Parity.Agreement
import StripeEntitlements.PastDue.Restated
import StripeEntitlements.PastDue.Reversals
import StripeEntitlements.PastDue.Refunds
import StripeEntitlements.Relational.Tenancy
import StripeEntitlements.Tenancy.Ownership
import StripeEntitlements.Tenancy.Credits
import StripeEntitlements.Tenancy.Invoices
import StripeEntitlements.Tenancy.Handlers
import StripeEntitlements.Tenancy.Isolation
import StripeEntitlements.Snapshots.PlanChangeRequest
import StripeEntitlements.PlanChanges.Coordinator
import StripeEntitlements.Credits.FirstExpiring
import StripeEntitlements.Parity.Charge
import StripeEntitlements.Catalog.Construction
import StripeEntitlements.Catalog.LookupKeys
import StripeEntitlements.Credits.Decimal
import StripeEntitlements.Parity.CreditAmount
import StripeEntitlements.Credits.EntitlementCheck
import StripeEntitlements.Snapshots.PlanChangeCodec
import StripeEntitlements.Snapshots.Light
import StripeEntitlements.Snapshots.PlanChangeFreeze
import StripeEntitlements.Snapshots.CheckoutRequest
import StripeEntitlements.Snapshots.CheckoutCodec
import StripeEntitlements.Snapshots.CheckoutFreeze
import StripeEntitlements.Snapshots.Codec
import StripeEntitlements.Snapshots.Purchases
import StripeEntitlements.Parity.Calendar
import StripeEntitlements.Parity.Timestamps
import StripeEntitlements.Migrations
import StripeEntitlements.Relational.Rotation
import StripeEntitlements.Scheduled.AnnualBatch
import StripeEntitlements.Scheduled.Fairness
import StripeEntitlements.Reconcile.RemoteFacts
import StripeEntitlements.Reconcile.Worker
import StripeEntitlements.Reconcile.Runtimes
import StripeEntitlements.Reconcile.Contracts
import StripeEntitlements.Reconcile.ExpiredSession
import StripeEntitlements.Reconcile.Projection
import StripeEntitlements.Reconcile.UnpaidCheckout
import StripeEntitlements.PlanChanges.Intents
import StripeEntitlements.PlanChanges.Settleable
import StripeEntitlements.PlanChanges.SettledIntent
import StripeEntitlements.PlanChanges.Authority
import StripeEntitlements.Scheduled.CivilMonths
import StripeEntitlements.Scheduled.Windows
import StripeEntitlements.Scheduled.SlotLaws
import StripeEntitlements.Packs.Disputes
