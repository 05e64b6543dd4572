import SolTradeRouter.RouteSettlement
import SolTradeRouter.RouteChaining
import SolTradeRouter.ConfigLifecycle
import SolTradeRouter.WireFormat
import SolTradeRouter.LayoutTables
import SolTradeRouter.DynamicAccepted
import SolTradeRouter.BuiltSwaps
import SolTradeRouter.QuoteInverse
import SolTradeRouter.LaunchLabClamp
import SolTradeRouter.BridgedLaunch
import SolTradeRouter.TradeAmounts
import SolTradeRouter.TradeMinimums
import SolTradeRouter.PanicFree
import SolTradeRouter.UserAccounts
import SolTradeRouter.MergeSnapshots
import SolTradeRouter.DynamicSettles
import SolTradeRouter.AmmV4Inverse
import SolTradeRouter.V3Limits
import SolTradeRouter.PayableSales
import SolTradeRouter.PumpFunSnapshot
import SolTradeRouter.MintDirection
import SolTradeRouter.StrictGuard
import SolTradeRouter.HonestTrades
import SolTradeRouter.AdminCommands
import SolTradeRouter.AtaCache
import SolTradeRouter.BuiltLegs
import SolTradeRouter.CreatorVault
import SolTradeRouter.Dedup
import SolTradeRouter.DedupRuns
import SolTradeRouter.GeyserStream
import SolTradeRouter.Parser
import SolTradeRouter.PreparedTrades
import SolTradeRouter.StaticRuns
import SolTradeRouter.TokenRuntime
import SolTradeRouter.TradeInstructions
