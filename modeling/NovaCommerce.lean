import NovaCommerce.AfterSales.Attempts
import NovaCommerce.AfterSales.ClaimCaps
import NovaCommerce.AfterSales.Claims
import NovaCommerce.AfterSales.PartialRefunds
import NovaCommerce.AfterSales.Payouts
import NovaCommerce.AfterSales.Refunds
import NovaCommerce.AfterSales.Retries
import NovaCommerce.AfterSales.Returns
import NovaCommerce.AfterSales.Runs
import NovaCommerce.AfterSales.Service
import NovaCommerce.AfterSales.Workflow
import NovaCommerce.Analytics.OnHand
import NovaCommerce.Analytics.Turnover
import NovaCommerce.Console.Catalogue
import NovaCommerce.Console.Metrics
import NovaCommerce.Console.Promotions
import NovaCommerce.Console.Schema
import NovaCommerce.Console.Trade
import NovaCommerce.Core
import NovaCommerce.Core.Leaves
import NovaCommerce.Core.Redaction
import NovaCommerce.Core.SelfCheck
import NovaCommerce.Core.Walk
import NovaCommerce.Frontend.AiThread
import NovaCommerce.Frontend.ChartAlignment
import NovaCommerce.Frontend.ChartStability
import NovaCommerce.Frontend.Charts
import NovaCommerce.Frontend.HttpClient
import NovaCommerce.Frontend.Money
import NovaCommerce.Frontend.Sse
import NovaCommerce.Frontend.SseCuts
import NovaCommerce.Frontend.Turns
import NovaCommerce.Fulfillment.Progress
import NovaCommerce.Fulfillment.Residual
import NovaCommerce.Fulfillment.Service
import NovaCommerce.Fulfillment.Shipping
import NovaCommerce.Governance.Approvals
import NovaCommerce.Governance.Service
import NovaCommerce.Identity.Accounts
import NovaCommerce.Identity.Addresses
import NovaCommerce.Identity.Authority
import NovaCommerce.Identity.DefaultAddresses
import NovaCommerce.Identity.Durability
import NovaCommerce.Identity.Families
import NovaCommerce.Identity.Lockout
import NovaCommerce.Identity.Logouts
import NovaCommerce.Identity.Reach
import NovaCommerce.Identity.Reissues
import NovaCommerce.Identity.Repository
import NovaCommerce.Identity.Rotations
import NovaCommerce.Identity.Runs
import NovaCommerce.Identity.Schema
import NovaCommerce.Identity.Security
import NovaCommerce.Identity.Service
import NovaCommerce.Inventory.Counters
import NovaCommerce.Inventory.Ledger
import NovaCommerce.Inventory.Moves
import NovaCommerce.Inventory.Overselling
import NovaCommerce.Inventory.Pages
import NovaCommerce.Inventory.Replays
import NovaCommerce.Inventory.Service
import NovaCommerce.Knowledge.Chunks
import NovaCommerce.Knowledge.Evaluation
import NovaCommerce.Lib.Base64
import NovaCommerce.Lib.Chain
import NovaCommerce.Lib.Codes
import NovaCommerce.Lib.Dict
import NovaCommerce.Lib.Digits
import NovaCommerce.Lib.Doubles
import NovaCommerce.Lib.Feeds
import NovaCommerce.Lib.Interleaving
import NovaCommerce.Lib.Journal
import NovaCommerce.Lib.Js
import NovaCommerce.Lib.Numerals
import NovaCommerce.Lib.Percent
import NovaCommerce.Lib.ProRata
import NovaCommerce.Lib.Raise
import NovaCommerce.Lib.Ranking
import NovaCommerce.Lib.Reads
import NovaCommerce.Lib.Refusals
import NovaCommerce.Lib.Savepoint
import NovaCommerce.Lib.Sql
import NovaCommerce.Lib.Totals
import NovaCommerce.Lib.Transition
import NovaCommerce.Lib.Traversals
import NovaCommerce.Lib.Windows
import NovaCommerce.Lifecycle.Accounts
import NovaCommerce.Lifecycle.ClaimStatus
import NovaCommerce.Lifecycle.Dispatches
import NovaCommerce.Lifecycle.HeldMoney
import NovaCommerce.Lifecycle.Ledgers
import NovaCommerce.Lifecycle.Lines
import NovaCommerce.Lifecycle.PaymentRetries
import NovaCommerce.Lifecycle.Restocking
import NovaCommerce.Lifecycle.Runs
import NovaCommerce.Lifecycle.Triage
import NovaCommerce.Marketing.BestPromotion
import NovaCommerce.Marketing.CouponIssuance
import NovaCommerce.Marketing.CouponService
import NovaCommerce.Marketing.PreviewTokens
import NovaCommerce.Marketing.PromotionCreation
import NovaCommerce.Marketing.PromotionService
import NovaCommerce.Mcp.Callable
import NovaCommerce.Mcp.Policy
import NovaCommerce.Mcp.Server
import NovaCommerce.Mcp.Tokens
import NovaCommerce.Mcp.Tools
import NovaCommerce.Mcp.Visibility
import NovaCommerce.Order.Availability
import NovaCommerce.Order.Creation
import NovaCommerce.Order.Lines
import NovaCommerce.Order.Preview
import NovaCommerce.Order.Reconciliation
import NovaCommerce.Order.Replays
import NovaCommerce.Order.Repository
import NovaCommerce.Order.RequestHash
import NovaCommerce.Order.Service
import NovaCommerce.Order.StateMachine
import NovaCommerce.Order.Workflow
import NovaCommerce.Outbox.Publisher
import NovaCommerce.Outbox.Writer
import NovaCommerce.Payment.Amounts
import NovaCommerce.Payment.Callbacks
import NovaCommerce.Payment.Compensation
import NovaCommerce.Payment.Providers
import NovaCommerce.Payment.Replays
import NovaCommerce.Payment.Repository
import NovaCommerce.Payment.Service
import NovaCommerce.Payment.Settlement
import NovaCommerce.Payment.Signatures
import NovaCommerce.Payment.Snapshots
import NovaCommerce.Payment.Workflow
import NovaCommerce.Pricing.Allocation
import NovaCommerce.Pricing.Exact
import NovaCommerce.Pricing.Lines
import NovaCommerce.Pricing.Rewrites
import NovaCommerce.Pricing.Service
import NovaCommerce.Pricing.Shares
import NovaCommerce.Pricing.ValueObjects
import NovaCommerce.Schema
import NovaCommerce.Shop.Changes
import NovaCommerce.Shop.Consistency
import NovaCommerce.Shop.Coupons
import NovaCommerce.Shop.Items
import NovaCommerce.Shop.OrderRetries
import NovaCommerce.Shop.Packages
import NovaCommerce.Shop.Payability
import NovaCommerce.Shop.PaymentAxis
import NovaCommerce.Shop.Quota
import NovaCommerce.Shop.Refusals
import NovaCommerce.Shop.Runs
import NovaCommerce.Shop.Settlements
import NovaCommerce.Shop.StatusLog
import NovaCommerce.Shop.Stock
import NovaCommerce.Storage.Keys
import NovaCommerce.Storage.Names
import NovaCommerce.Storage.Uploads
