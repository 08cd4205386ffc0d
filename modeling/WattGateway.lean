import WattGateway.Message.Snapshots
import WattGateway.Message.AtMostOnce
import WattGateway.Message.Authorship
import WattGateway.Message.Reaper
import WattGateway.Message.Rebinding
import WattGateway.Message.Admitted
import WattGateway.Message.Deadlock
import WattGateway.Gateway.Kinds
import WattGateway.Gateway.Federation
import WattGateway.Gateway.Outbox
import WattGateway.Gateway.Redelivery
import WattGateway.Gateway.Current
import WattGateway.Gateway.Suppression
import WattGateway.Message.Buckets
import WattGateway.Message.SingleUse
import WattGateway.Message.FailedPublish
import WattGateway.Message.Letters
import WattGateway.Gateway.Reconcile
import WattGateway.Gateway.Views
import WattGateway.Gateway.Times
import WattGateway.Gateway.Health
import WattGateway.Gateway.WireShape
import WattGateway.Gateway.Published
import WattGateway.Message.Parts
import WattGateway.Gateway.Lanes
import WattGateway.Gateway.FanOut
