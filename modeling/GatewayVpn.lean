import GatewayVpn.NetworkApply.RecoverErrors
import GatewayVpn.NetworkApply.HostState
import GatewayVpn.NetworkApply.Unfinished
import GatewayVpn.NetworkApply.RollbackRace
import GatewayVpn.Update.Versions
import GatewayVpn.Access.QualityClass
import GatewayVpn.Access.ManualActivation
import GatewayVpn.Access.DegradedTarget
import GatewayVpn.Access.Hysteresis
import GatewayVpn.Mihomo.Rollback
import GatewayVpn.Candidate.Repetition
import GatewayVpn.ModemRecovery.Attempts
import GatewayVpn.Watchdog.Budgets
import GatewayVpn.Auth.Sessions
import GatewayVpn.Restore.Atomic
import GatewayVpn.Registry.Priorities
import GatewayVpn.Automation.Stranded
import GatewayVpn.Traffic.Totals
import GatewayVpn.Subscription.RetryAfter
import GatewayVpn.Subscription.Reclassify
