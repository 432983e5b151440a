import MarketplaceService.Lib.Table
import MarketplaceService.Lib.Run
import MarketplaceService.Machines
import MarketplaceService.Schema
import MarketplaceService.Holds
import MarketplaceService.Confirmation
import MarketplaceService.LateMoney
import MarketplaceService.PaykitAttempts
import MarketplaceService.Poll
import MarketplaceService.Activation
import MarketplaceService.PaymentMethods
import MarketplaceService.SellerReview
import MarketplaceService.OrderCommands
import MarketplaceService.Catalog
import MarketplaceService.Checkout
import MarketplaceService.System
import MarketplaceService.LineLoops
import MarketplaceService.LateStock
import MarketplaceService.Lib.Outcome
import MarketplaceService.Settlement
import MarketplaceService.LateCompletion
import MarketplaceService.DropCounts
import MarketplaceService.Coherence
import MarketplaceService.Simulation
import MarketplaceService.InFlight
import MarketplaceService.Cells
import MarketplaceService.StripeEvidence
import MarketplaceService.WatchedInvoices
import MarketplaceService.PolledInvoices
import MarketplaceService.ActivationAttribution
import MarketplaceService.RailSteps
import MarketplaceService.SettlementAttribution
import MarketplaceService.ReceiptDenomination
import MarketplaceService.AmountLaw
import MarketplaceService.ReleasedMoney
import MarketplaceService.Postings
import MarketplaceService.OrderPostings
import MarketplaceService.CatalogPostings
import MarketplaceService.StockLedger
import MarketplaceService.VoidedBind
import MarketplaceService.LateFork
import MarketplaceService.Rulings
import MarketplaceService.ReviewExits
import MarketplaceService.SellerWindow
import MarketplaceService.SellerAudit
import MarketplaceService.StockFrame
import MarketplaceService.AuctionOrders
import MarketplaceService.SellerWindowLaw
import MarketplaceService.PaymentSteps
import MarketplaceService.VerifiedMoney
import MarketplaceService.Confirmations
import MarketplaceService.GatewayRefunds
import MarketplaceService.RefundedOrders
import MarketplaceService.DropTerms
import MarketplaceService.StockTakers
import MarketplaceService.DropGate
import MarketplaceService.StockLabels
import MarketplaceService.DropCapacity
import MarketplaceService.LedgerLaw
import MarketplaceService.RefundConfluence
import MarketplaceService.Auctions
import MarketplaceService.AuctionHouse
import MarketplaceService.AuctionFrame
import MarketplaceService.AuctionFiles
import MarketplaceService.Lib.Ranking
import MarketplaceService.ProxyPrices
import MarketplaceService.AuctionClosing
import MarketplaceService.AuctionOpening
import MarketplaceService.Executor
import MarketplaceService.Homeserver
import MarketplaceService.Idempotency
import MarketplaceService.ListingDeletion
import MarketplaceService.DeletionFollower
import MarketplaceService.ListingRows
import MarketplaceService.StorefrontSteps
import MarketplaceService.TombstoneFence
import MarketplaceService.DeletionKnowledge
import MarketplaceService.FollowedDeletes
import MarketplaceService.ResolveDelivery
import MarketplaceService.ResolvedOnce
import MarketplaceService.Webhooks
import MarketplaceService.WebhookSteps
import MarketplaceService.WebhookLog
import MarketplaceService.WebhookEndings
import MarketplaceService.WebhookCursors
import MarketplaceService.GrantFlows
import MarketplaceService.GrantSteps
import MarketplaceService.GrantLaw
import MarketplaceService.PickupSteps
import MarketplaceService.PickupLaw
import MarketplaceService.MachineEdges
import MarketplaceService.DigitalDelivery
import MarketplaceService.DigitalFrame
import MarketplaceService.DigitalMoves
import MarketplaceService.DeliveryLaw
import MarketplaceService.AddressBreaker
import MarketplaceService.AntiSniping
import MarketplaceService.GatewayAmounts
import MarketplaceService.FxQuotes
import MarketplaceService.RetrySchedule
import MarketplaceService.CheckoutSums
import MarketplaceService.Lib.Keyset
import MarketplaceService.ResealPass
import MarketplaceService.DigitalVault
import MarketplaceService.DigitalReseal
import MarketplaceService.PickupVault
import MarketplaceService.PickupReseal
import MarketplaceService.KeyRotation
import MarketplaceService.OrderRevisions
import MarketplaceService.ListingRevisions
import MarketplaceService.PageCursors
import MarketplaceService.SellerExport
import MarketplaceService.AuctionFloor
import MarketplaceService.AuctionVeil
import MarketplaceService.VeiledRequests
import MarketplaceService.AuctionSecrecy
import MarketplaceService.AuthTokens
import MarketplaceService.Lib.Serde
import MarketplaceService.Lib.Text
import MarketplaceService.CommandTypes
import MarketplaceService.CommandCodecs
import MarketplaceService.Postal
import MarketplaceService.Lib.Base32
import MarketplaceService.LockResource
import MarketplaceService.CommandParsing
import MarketplaceService.CommandNormalForm
import MarketplaceService.ListingRecords
import MarketplaceService.DerivedListings
import MarketplaceService.Lib.CanonicalJson
import MarketplaceService.ContentLocks
import MarketplaceService.LockCanonicalForm
import MarketplaceService.HoldEvents
import MarketplaceService.OfferDesk
import MarketplaceService.OfferNegotiation
import MarketplaceService.OfferAwards
import MarketplaceService.CheckoutCart
import MarketplaceService.MarketRuns
