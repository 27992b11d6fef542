import CashShop.Bus
import CashShop.Code
import CashShop.Command
import CashShop.Command.Arguments
import CashShop.Config
import CashShop.Config.Load
import CashShop.Config.Variable
import CashShop.Dispatch
import CashShop.Draft
import CashShop.Error
import CashShop.Hex
import CashShop.Id
import CashShop.Item
import CashShop.Json
import CashShop.Json.Double
import CashShop.Json.Numeral
import CashShop.Json.Printer
import CashShop.Json.Source
import CashShop.Log
import CashShop.Lookup
import CashShop.Main
import CashShop.Message.Account
import CashShop.Message.Character
import CashShop.Message.Compartment
import CashShop.Message.Item
import CashShop.Message.Shop
import CashShop.Metrics
import CashShop.Proofs.AllOrNothing
import CashShop.Proofs.Announcement
import CashShop.Proofs.AssetFlow
import CashShop.Proofs.Bookkeeping
import CashShop.Proofs.Call
import CashShop.Proofs.Casing
import CashShop.Proofs.Charge
import CashShop.Proofs.Clearance
import CashShop.Proofs.Commit
import CashShop.Proofs.Configuration
import CashShop.Proofs.Conservation
import CashShop.Proofs.Consumption
import CashShop.Proofs.Custody
import CashShop.Proofs.Dates
import CashShop.Proofs.Delivery
import CashShop.Proofs.Departure
import CashShop.Proofs.Directory
import CashShop.Proofs.Drawing
import CashShop.Proofs.Encoding
import CashShop.Proofs.ExactlyOnce
import CashShop.Proofs.FailedCompletion
import CashShop.Proofs.Feed
import CashShop.Proofs.Grouping
import CashShop.Proofs.HandoffInverse
import CashShop.Proofs.HandoffScope
import CashShop.Proofs.History
import CashShop.Proofs.Hold
import CashShop.Proofs.Insertion
import CashShop.Proofs.Isolation
import CashShop.Proofs.JsonText
import CashShop.Proofs.Lifecycle
import CashShop.Proofs.LiveClaims
import CashShop.Proofs.Mirror
import CashShop.Proofs.MutualExclusion
import CashShop.Proofs.Noninterference
import CashShop.Proofs.Numbering
import CashShop.Proofs.Occupancy
import CashShop.Proofs.Plan
import CashShop.Proofs.Reconciliation
import CashShop.Proofs.Refusal
import CashShop.Proofs.RemoteLookup
import CashShop.Proofs.ReplayLoss
import CashShop.Proofs.ReplayText
import CashShop.Proofs.Reply
import CashShop.Proofs.RequestTarget
import CashShop.Proofs.Reservation
import CashShop.Proofs.ResourceDocument
import CashShop.Proofs.RoundTrip
import CashShop.Proofs.Sale
import CashShop.Proofs.Settlement
import CashShop.Proofs.SingleAnswer
import CashShop.Proofs.SinglePlacement
import CashShop.Proofs.SlidingWindow
import CashShop.Proofs.StoreWork
import CashShop.Proofs.Subscription
import CashShop.Proofs.Tally
import CashShop.Proofs.Tenancy
import CashShop.Proofs.TransferCall
import CashShop.Proofs.Trimming
import CashShop.Proofs.Truthfulness
import CashShop.Proofs.UnitOfWork
import CashShop.Proofs.Unusable
import CashShop.Proofs.Verdict
import CashShop.Proofs.Views
import CashShop.Proofs.Work
import CashShop.Proofs.WorkflowWork
import CashShop.Query
import CashShop.Remote
import CashShop.Remote.Target
import CashShop.Replay
import CashShop.Reservation
import CashShop.Service
import CashShop.Session
import CashShop.Store
import CashShop.Sweeper
import CashShop.Table
import CashShop.Text
import CashShop.Text.Unicode
import CashShop.Toml
import CashShop.Toml.Document
import CashShop.Toml.Number
import CashShop.Toml.Text
import CashShop.Topic
import CashShop.Transport
import CashShop.Uuid
import CashShop.View
import CashShop.Wallet
import CashShop.Wire.Answer
import CashShop.Wire.Decoder
import CashShop.Wire.Entity
import CashShop.Wire.Record
import CashShop.Work
import CashShop.Work.Stores
import CashShop.Workflow.Account
import CashShop.Workflow.Capacity
import CashShop.Workflow.Handoff
import CashShop.Workflow.Purchase
import CashShop.Workflow.Transfer
