import OpcuaServer.Basic
import OpcuaServer.Parameters
import OpcuaServer.Subscription
import OpcuaServer.Harvest
import OpcuaServer.MonitoredItems
import OpcuaServer.Publishing
import OpcuaServer.Run
import OpcuaServer.Sequencing
import OpcuaServer.Lifetime
import OpcuaServer.Retransmission
import OpcuaServer.Limits
import OpcuaServer.KeepAlive
import OpcuaServer.Lifecycle
import OpcuaServer.StateDiagram
import OpcuaServer.Acknowledgement
import OpcuaServer.PublishingMode
import OpcuaServer.ItemBookkeeping
import OpcuaServer.GetMonitoredItems
import OpcuaServer.NotificationFlow
import OpcuaServer.AcknowledgeableCondition
import OpcuaServer.ConditionWorkflow
import OpcuaServer.ConditionBranch
