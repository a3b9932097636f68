import Eva4.Core.ReplicationOrder
import Eva4.Core.ReplicationRollback
import Eva4.Core.BulkCreation
import Eva4.Core.ItemLogic
import Eva4.ActMgr.Records
import Eva4.SvcMgr.Agreement
import Eva4.Core.RejectedActions
import Eva4.Core.SourceSharing
import Eva4.Core.SourceDestruction
import Eva4.Core.PersistentInventory
import Eva4.Psrpc.Pending
import Eva4.Repl.Nodes
import Eva4.InventoryDb.Worker
import Eva4.ControllerLm.Events
import Eva4.Core.ReplicationBulk
import Eva4.Launcher.OneProcess
import Eva4.ControllerLm.Cycle
import Eva4.ControllerLm.OpenerStop
import Eva4.ControllerLm.OpenerPlan
import Eva4.LocalAuth.KeyAgreement
import Eva4.LocalAuth.OneTime
import Eva4.Hmi.ReadOnly
import Eva4.Hmi.SingleSession
import Eva4.Hmi.SocketsFollow
import Eva4.Hmi.NewestState
import Eva4.Hmi.Revocation
import Eva4.ControllerModbus.Bits
import Eva4.ControllerModbus.Transport
import Eva4.CloudManager.Update
import Eva4.ControllerTrap.Aaa
import Eva4.ControllerTrap.Panics
import Eva4.DbJson.Batches
import Eva4.AaaOtp.Activation
import Eva4.DbSql.Cleanup
import Eva4.Mirror.Files
import Eva4.ControllerEnip.SetBit
import Eva4.FileMgr.Paths
import Eva4.Hmi.Serve
import Eva4.FileWriter.Csv
import Eva4.FileWriter.Rotate
import Eva4.FileWriter.Repair
import Eva4.ControllerPubsub.Outputs
import Eva4.Hmi.UserData
