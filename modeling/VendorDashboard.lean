import VendorDashboard.Framework.Transaction
import VendorDashboard.Framework.Run
import VendorDashboard.Framework.Table
import VendorDashboard.Framework.Waterfall
import VendorDashboard.Framework.Calendar
import VendorDashboard.Framework.Interleaving
import VendorDashboard.Framework.Json
import VendorDashboard.Finance.Schema
import VendorDashboard.Finance.Money
import VendorDashboard.Finance.Holds
import VendorDashboard.Finance.Eligibility
import VendorDashboard.Finance.Queries
import VendorDashboard.Finance.PayoutOffsetAuthority
import VendorDashboard.Finance.VendorBalance
import VendorDashboard.Finance.RefundArrival
import VendorDashboard.Finance.SettlementPreview
import VendorDashboard.Finance.SettlementDraft
import VendorDashboard.Finance.SettlementApprove
import VendorDashboard.Finance.SettlementCancel
import VendorDashboard.Finance.PayoutEligibility
import VendorDashboard.Finance.PayoutPreparation
import VendorDashboard.Finance.PayoutOffsetReservation
import VendorDashboard.Finance.PayoutOffsetLifecycle
import VendorDashboard.Finance.PayoutOffsetMissedRefund
import VendorDashboard.Finance.PayoutTransition
import VendorDashboard.Finance.PayoutCompletion
import VendorDashboard.Finance.System
import VendorDashboard.Finance.Constraints
import VendorDashboard.Finance.ApprovalSchema
import VendorDashboard.Finance.ReplacementWriter
import VendorDashboard.Finance.AutoApproval
import VendorDashboard.Finance.ApprovalSystem
import VendorDashboard.Finance.CommissionInvoiceRecord
import VendorDashboard.Finance.CommissionInvoiceExecution
import VendorDashboard.Orders.CancellationSchema
import VendorDashboard.Orders.ShopifyAnswers
import VendorDashboard.Orders.ShopifyStore
import VendorDashboard.Orders.CancellationRequest
import VendorDashboard.Orders.RefundAttempts
import VendorDashboard.Orders.RefundReconciliation
import VendorDashboard.Orders.AutoRefund
import VendorDashboard.Orders.OrderCancel
import VendorDashboard.Orders.CancellationSystem
import VendorDashboard.Orders.AutoRefundExecutor
import VendorDashboard.VendorIntegration.SopyoOrderPush
import VendorDashboard.VendorIntegration.SopyoShipmentIntent
import VendorDashboard.VendorIntegration.SopyoShopifyFulfillmentPlan
import VendorDashboard.VendorIntegration.SopyoShopifyFulfillmentExecution
import VendorDashboard.VendorIntegration.OrderUpdates
import VendorDashboard.ProductPanel.VariantDisableOutbox
import VendorDashboard.Shopify.OrdersCreateOwnership
import VendorDashboard.Shopify.OrdersCreateExecutor
import VendorDashboard.Shopify.ReturnLifecycle
import VendorDashboard.Shopify.MissedOrderDiscovery
import VendorDashboard.Reconciliation.CanonicalRuns
import VendorDashboard.Reconciliation.ScheduledJobs
import VendorDashboard.Properties.DebtReconciliation
import VendorDashboard.Properties.Integrity
import VendorDashboard.Properties.SettlementHistory
import VendorDashboard.Properties.ReplacementApproval
import VendorDashboard.Properties.AutoApprovalRecords
import VendorDashboard.Properties.CancellationItems
import VendorDashboard.Properties.CancellationWorkers
import VendorDashboard.Properties.CancellationStore
import VendorDashboard.Properties.RefundAttemptOwnership
import VendorDashboard.Properties.OffsetAllocation
import VendorDashboard.Properties.OrderCancelAfterRefund
import VendorDashboard.Properties.CancellationAggregate
import VendorDashboard.Properties.RefundAttemptMoves
import VendorDashboard.Properties.RefundAttemptIdentity
import VendorDashboard.Properties.AutoRefundJobs
import VendorDashboard.Properties.SopyoOrderPushes
import VendorDashboard.Properties.SopyoShipments
import VendorDashboard.Properties.VendorIsolation
import VendorDashboard.Properties.VariantDisableEvents
import VendorDashboard.Properties.OrdersCreateAttempts
import VendorDashboard.Properties.CanonicalReport
import VendorDashboard.Properties.RefundAttemptRecords
import VendorDashboard.Properties.CancellationReconciliation
import VendorDashboard.Properties.CommissionInvoices
import VendorDashboard.Properties.InvoicedSettlements
import VendorDashboard.Properties.ReturnLifecycles
import VendorDashboard.Properties.CanonicalRunLocks
import VendorDashboard.Properties.ScheduledJobLocks
import VendorDashboard.Properties.MissedOrders
import VendorDashboard.Properties.ShippingClaims
import VendorDashboard.Properties.SettlementAmounts
import VendorDashboard.Properties.BiweeklySchedule
import VendorDashboard.Properties.AllocationSplits
import VendorDashboard.Properties.SopyoDeliveries
import VendorDashboard.Properties.AbandonedReturnProgress
import VendorDashboard.Properties.ShipmentProviderCalls
import VendorDashboard.Framework.Decimal
import VendorDashboard.Framework.Timestamp
import VendorDashboard.OperationalJobs.RetrySchedule
import VendorDashboard.Properties.RetryDelays
import VendorDashboard.Shopify.VendorIdentityCutover
import VendorDashboard.Properties.VendorIdentity
import VendorDashboard.Shopify.RefundMonetaryEvidence
import VendorDashboard.Properties.RefundMonetaryEvidence
import VendorDashboard.Properties.RefundAccounts
import VendorDashboard.Orders.AllocationFullRefundTerminal
import VendorDashboard.Properties.FullRefundTerminal
import VendorDashboard.Framework.StableJson
import VendorDashboard.Finance.RefundEvidenceNormalizer
import VendorDashboard.Properties.RefundFingerprints
import VendorDashboard.Framework.Grouping
import VendorDashboard.Properties.SopyoExecutionPlans
import VendorDashboard.Shopify.FulfillmentOrderCancelClassifier
import VendorDashboard.Properties.FulfillmentOrderCancellations
import VendorDashboard.Finance.SalesInvoiceSync
import VendorDashboard.Properties.SalesInvoiceSearches
import VendorDashboard.Finance.ExecutionSnapshots
import VendorDashboard.Properties.FrozenSnapshots
import VendorDashboard.Framework.FixedPoint
import VendorDashboard.Finance.CommissionInvoiceRequest
import VendorDashboard.Properties.BilledCommission
import VendorDashboard.Shopify.FulfillmentProjection
import VendorDashboard.Properties.FulfillmentProjections
import VendorDashboard.Properties.PayoutBooks
import VendorDashboard.Properties.SalePayouts
import VendorDashboard.Properties.FinanceHistory
import VendorDashboard.Properties.VendorDebts
import VendorDashboard.Reconciliation.CanonicalCancellation
import VendorDashboard.Properties.CanonicalCancellations
