import TabletDrain.Api.Events
import TabletDrain.Api.Pods
import TabletDrain.Controller
import TabletDrain.Json.Printer
import TabletDrain.Lease.Elector
import TabletDrain.Main
import TabletDrain.Monitor
import TabletDrain.Proofs.Alias
import TabletDrain.Proofs.Alias.Order
import TabletDrain.Proofs.Alias.Spelling
import TabletDrain.Proofs.Controller.Visits
import TabletDrain.Proofs.Course.Lasting
import TabletDrain.Proofs.Course.Rest
import TabletDrain.Proofs.Course.Rolling
import TabletDrain.Proofs.Course.SingleFinished
import TabletDrain.Proofs.Course.Stages
import TabletDrain.Proofs.Course.Underway
import TabletDrain.Proofs.Drain.Advance
import TabletDrain.Proofs.Drain.Place
import TabletDrain.Proofs.Drain.Settling
import TabletDrain.Proofs.Json.Records
import TabletDrain.Proofs.Keyed
import TabletDrain.Proofs.Lease.Claims
import TabletDrain.Proofs.Lease.Leadership
import TabletDrain.Proofs.Lease.Swaps
import TabletDrain.Proofs.Lease.Terms
import TabletDrain.Proofs.Pass.Accounting
import TabletDrain.Proofs.Pass.Anatomy
import TabletDrain.Proofs.Pass.Apart
import TabletDrain.Proofs.Pass.DryRun
import TabletDrain.Proofs.Pass.Ending
import TabletDrain.Proofs.Pass.Finishing
import TabletDrain.Proofs.Pass.Freeze
import TabletDrain.Proofs.Pass.Gate
import TabletDrain.Proofs.Pass.Handover
import TabletDrain.Proofs.Pass.Listing
import TabletDrain.Proofs.Pass.Marked
import TabletDrain.Proofs.Pass.Marking
import TabletDrain.Proofs.Pass.Preparation
import TabletDrain.Proofs.Pass.Prompt
import TabletDrain.Proofs.Pass.Quiet
import TabletDrain.Proofs.Pass.Reasons
import TabletDrain.Proofs.Pass.Refinement
import TabletDrain.Proofs.Pass.Roles
import TabletDrain.Proofs.Pass.Round
import TabletDrain.Proofs.Pass.Script
import TabletDrain.Proofs.Pass.Settable
import TabletDrain.Proofs.Pass.Shadow
import TabletDrain.Proofs.Pass.Sifting
import TabletDrain.Proofs.Pass.Snapshots
import TabletDrain.Proofs.Pass.Stored
import TabletDrain.Proofs.Pass.Target
import TabletDrain.Proofs.Pass.Timetable
import TabletDrain.Proofs.Pass.Transfer
import TabletDrain.Proofs.Pass.Updates
import TabletDrain.Proofs.Pass.Writing
import TabletDrain.Proofs.Pod.Markers
import TabletDrain.Proofs.Pod.Moves
import TabletDrain.Proofs.Pod.Tending
import TabletDrain.Proofs.Pod.View
import TabletDrain.Proofs.Position.Grammar
import TabletDrain.Proofs.Position.Inclusion
import TabletDrain.Proofs.Position.Order
import TabletDrain.Proofs.Position.Ranges
import TabletDrain.Proofs.Position.RoundTrip
import TabletDrain.Proofs.Position.Written
import TabletDrain.Proofs.Shard.RoundTrip
import TabletDrain.Proofs.Shard.Selector
import TabletDrain.Proofs.Stepwise
import TabletDrain.Proofs.Succession.Polling
import TabletDrain.Proofs.Succession.Ties
import TabletDrain.Proofs.Text.Numeral
import TabletDrain.Proofs.Text.Order
import TabletDrain.Proofs.Text.Split
import TabletDrain.Proofs.Topology.TabletMap
import TabletDrain.Proofs.Upgrade.Image
import TabletDrain.Proofs.Upgrade.Preparing
import TabletDrain.Proofs.Upgrade.Rank
import TabletDrain.Shard.Definition
import TabletDrain.Topology.Commands
