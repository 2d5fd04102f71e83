import BleWsCentral.Found.Run
import BleWsCentral.Found.SlotMap
import BleWsCentral.Found.Ledger
import BleWsCentral.Found.AppendLog
import BleWsCentral.Found.KeyedFold
import BleWsCentral.Found.Varint
import BleWsCentral.Found.Removals
import BleWsCentral.Found.Broadcast
import BleWsCentral.Found.Reader
import BleWsCentral.Found.Cursor
import BleWsCentral.Found.Text
import BleWsCentral.Found.Turns
import BleWsCentral.Found.Account
import BleWsCentral.Found.Feed
import BleWsCentral.Found.SharedSink
import BleWsCentral.Found.Local
import BleWsCentral.Found.FairLock
import BleWsCentral.Data
import BleWsCentral.Server.Db
import BleWsCentral.Server.Context
import BleWsCentral.Server.Update
import BleWsCentral.Server.SensorLog
import BleWsCentral.Server.Batches
import BleWsCentral.Server.Consistent
import BleWsCentral.Server.Commute
import BleWsCentral.Server.ReadBack
import BleWsCentral.Server.Restart
import BleWsCentral.Server.DataFlow
import BleWsCentral.Server.Labels
import BleWsCentral.Server.StoredLabels
import BleWsCentral.Server.Subscribers
import BleWsCentral.Server.Backup
import BleWsCentral.Server.Publishing
import BleWsCentral.Server.Registry
import BleWsCentral.Server.Requests
import BleWsCentral.Server.Sources
import BleWsCentral.Server.Dummy
import BleWsCentral.Server.SensorsLock
import BleWsCentral.Mesh.Proto
import BleWsCentral.Mesh.Packets
import BleWsCentral.Mesh.Payloads
import BleWsCentral.Mesh.MessageQueue
import BleWsCentral.Mesh.QueueTurns
import BleWsCentral.Mesh.QueueDelivery
import BleWsCentral.Mesh.QueueDropped
import BleWsCentral.Mesh.Backlog
import BleWsCentral.Mesh.Pairs
import BleWsCentral.Mesh.Provisioner
import BleWsCentral.Mesh.Dbus
import BleWsCentral.Mesh.Collection
import BleWsCentral.Mesh.Service
import BleWsCentral.Mesh.Steps
import BleWsCentral.Mesh.ServiceInv
import BleWsCentral.Mesh.Deadlock
import BleWsCentral.Mesh.Discovering
import BleWsCentral.Mesh.Stamps
import BleWsCentral.Mesh.Senders
import BleWsCentral.Mesh.Replies
import BleWsCentral.Mesh.Configured
import BleWsCentral.Mesh.Origins
import BleWsCentral.Mqtt.Codec
import BleWsCentral.Mqtt.Cuts
import BleWsCentral.Mqtt.Recovery
import BleWsCentral.Mqtt.ConnectOptions
import BleWsCentral.Mqtt.Connection
import BleWsCentral.Mqtt.Wire
import BleWsCentral.Server.Config
import BleWsCentral.Server.Tokens
import BleWsCentral.Pipeline
import BleWsCentral.Rounds
import BleWsCentral.Readings
import BleWsCentral.AfterFailure
