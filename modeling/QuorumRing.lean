import QuorumRing.Json.Reader
import QuorumRing.Main
import QuorumRing.Proofs.Cluster.Accounting
import QuorumRing.Proofs.Cluster.Acknowledgement
import QuorumRing.Proofs.Cluster.Acts
import QuorumRing.Proofs.Cluster.Bootstrap
import QuorumRing.Proofs.Cluster.Decision
import QuorumRing.Proofs.Cluster.Deferral
import QuorumRing.Proofs.Cluster.Deletion
import QuorumRing.Proofs.Cluster.Effects
import QuorumRing.Proofs.Cluster.Enrolment
import QuorumRing.Proofs.Cluster.Failover
import QuorumRing.Proofs.Cluster.Guards
import QuorumRing.Proofs.Cluster.Ledger
import QuorumRing.Proofs.Cluster.Members
import QuorumRing.Proofs.Cluster.Provenance
import QuorumRing.Proofs.Cluster.Rebalancing
import QuorumRing.Proofs.Cluster.Recall
import QuorumRing.Proofs.Cluster.Rollback
import QuorumRing.Proofs.Cluster.Session
import QuorumRing.Proofs.Cluster.Shutdown
import QuorumRing.Proofs.Cluster.Standstill
import QuorumRing.Proofs.Cluster.Stints
import QuorumRing.Proofs.Cluster.Survival
import QuorumRing.Proofs.Cluster.Tally
import QuorumRing.Proofs.Cluster.Tracker
import QuorumRing.Proofs.Cluster.Upkeep
import QuorumRing.Proofs.Cluster.Watchlist
import QuorumRing.Proofs.Cluster.Work
import QuorumRing.Proofs.CommandLine.WriteTimeout
import QuorumRing.Proofs.Fleet.Checkup
import QuorumRing.Proofs.Fleet.Conservation
import QuorumRing.Proofs.Fleet.Copies
import QuorumRing.Proofs.Fleet.Inspection
import QuorumRing.Proofs.Fleet.Membership
import QuorumRing.Proofs.Fleet.Mending
import QuorumRing.Proofs.Fleet.Movement
import QuorumRing.Proofs.Fleet.Probing
import QuorumRing.Proofs.Fleet.Redistribution
import QuorumRing.Proofs.Fleet.Replication
import QuorumRing.Proofs.Fleet.Verdicts
import QuorumRing.Proofs.Fleet.Watch
import QuorumRing.Proofs.Fleet.Work
import QuorumRing.Proofs.Http.Faithfulness
import QuorumRing.Proofs.Metrics.Buckets
import QuorumRing.Proofs.Metrics.Exposition
import QuorumRing.Proofs.Ring.Agreement
import QuorumRing.Proofs.Ring.Closeness
import QuorumRing.Proofs.Ring.Collisions
import QuorumRing.Proofs.Ring.Consistency
import QuorumRing.Proofs.Ring.Disruption
import QuorumRing.Proofs.Ring.Distance
import QuorumRing.Proofs.Ring.History
import QuorumRing.Proofs.Ring.Labels
import QuorumRing.Proofs.Ring.Lookups
import QuorumRing.Proofs.Settings.UnitSpec
import QuorumRing.Proofs.Simulation.Completion
import QuorumRing.Proofs.Simulation.Growth
import QuorumRing.Proofs.Simulation.Turns
import QuorumRing.Proofs.Time.Duration
import QuorumRing.Proofs.Unit.Gate
import QuorumRing.Settings.Json
import QuorumRing.Time.Timestamp
