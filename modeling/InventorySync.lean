import InventorySync.Bytes.Decoder
import InventorySync.Bytes.Varint
import InventorySync.Config
import InventorySync.Container.Addressing
import InventorySync.Container.Kind
import InventorySync.Container.Location
import InventorySync.Container.Role
import InventorySync.Container.Tracker
import InventorySync.Decimal.Shortest
import InventorySync.Engine
import InventorySync.Error
import InventorySync.Inventory.Basic
import InventorySync.Inventory.Creative
import InventorySync.Inventory.Observers
import InventorySync.Item.Basic
import InventorySync.Item.Codec
import InventorySync.Item.DisplayName
import InventorySync.Item.Reconcile
import InventorySync.Keyed
import InventorySync.Nbt.Codec
import InventorySync.Nbt.Decidable
import InventorySync.Nbt.Tag
import InventorySync.Packet.Basic
import InventorySync.Packet.Container
import InventorySync.Packet.Request
import InventorySync.Packet.Response
import InventorySync.Proofs.Acknowledged
import InventorySync.Proofs.Addressing
import InventorySync.Proofs.AnvilRename
import InventorySync.Proofs.BatchEffect
import InventorySync.Proofs.Batching
import InventorySync.Proofs.CommitOutcome
import InventorySync.Proofs.Compile
import InventorySync.Proofs.Conservation
import InventorySync.Proofs.CreativeFetch
import InventorySync.Proofs.CreativeLookup
import InventorySync.Proofs.DeclaredItems
import InventorySync.Proofs.DisplayNames
import InventorySync.Proofs.DraftViews
import InventorySync.Proofs.ExactNumbers
import InventorySync.Proofs.FailedClose
import InventorySync.Proofs.FailedCommit
import InventorySync.Proofs.FailedTransfer
import InventorySync.Proofs.FaithfulServer
import InventorySync.Proofs.FilterStrings
import InventorySync.Proofs.ForgottenWindows
import InventorySync.Proofs.Grouping
import InventorySync.Proofs.HookStories
import InventorySync.Proofs.IndependentAnswers
import InventorySync.Proofs.Invariants
import InventorySync.Proofs.LoomCombine
import InventorySync.Proofs.NbtNormalForm
import InventorySync.Proofs.NbtProportion
import InventorySync.Proofs.NbtRoundTrip
import InventorySync.Proofs.NbtShape
import InventorySync.Proofs.NormalForm
import InventorySync.Proofs.OneShotHooks
import InventorySync.Proofs.Overlay
import InventorySync.Proofs.OverlaySnapshot
import InventorySync.Proofs.PacketRoundTrip
import InventorySync.Proofs.Parallel
import InventorySync.Proofs.PendingHistory
import InventorySync.Proofs.PrefixStability
import InventorySync.Proofs.Promises
import InventorySync.Proofs.Reading
import InventorySync.Proofs.ReadingCost
import InventorySync.Proofs.Rearranging
import InventorySync.Proofs.RecordReading
import InventorySync.Proofs.Refusals
import InventorySync.Proofs.Registration
import InventorySync.Proofs.Regrouping
import InventorySync.Proofs.Renaming
import InventorySync.Proofs.RepeatedAcks
import InventorySync.Proofs.RequestMeaning
import InventorySync.Proofs.Rollback
import InventorySync.Proofs.SessionReports
import InventorySync.Proofs.SessionSteps
import InventorySync.Proofs.Settlement
import InventorySync.Proofs.SlotAddresses
import InventorySync.Proofs.StackIds
import InventorySync.Proofs.Totals
import InventorySync.Proofs.Twins
import InventorySync.Proofs.WindowContents
import InventorySync.Proofs.WireReading
import InventorySync.Session
import InventorySync.Toml.Document
import InventorySync.Toml.Grammar
import InventorySync.Toml.Value
import InventorySync.Transaction.Commit
import InventorySync.Transaction.Compile
import InventorySync.Transaction.Operation
import InventorySync.Transaction.Overlay
import InventorySync.Transaction.Requests
import InventorySync.Wire.Basic
import InventorySync.Wire.BlockPos
