import GameHall.Main
import GameHall.Message.Wire
import GameHall.Proofs.Hall.Lookup
import GameHall.Proofs.Hall.Ownership
import GameHall.Proofs.Hall.Settings
import GameHall.Proofs.Hall.Whereabouts
import GameHall.Proofs.Rematch.Outcome
import GameHall.Proofs.Server.Rejection
import GameHall.Server
import GameHall.Table.Edit
import GameHall.Worker
import GameHall.Proofs.Rematch.Roster
import GameHall.Proofs.Hall.Departures
import GameHall.Proofs.Hall.Lifetime
import GameHall.Proofs.Hall.Permanence
import GameHall.Proofs.Hall.Shape
import GameHall.Proofs.Hall.Disconnection
import GameHall.Proofs.Hall.Reconnection
import GameHall.Proofs.Hall.Audience
import GameHall.Proofs.Hall.Moments
import GameHall.Proofs.Hall.WatcherNews
import GameHall.Proofs.Server.Isolation
import GameHall.Proofs.Hall.LeaderNews
import GameHall.Proofs.Rematch.Boot
import GameHall.Proofs.Hall.Independence
import GameHall.Proofs.Hall.WindingDown
import GameHall.Proofs.Hall.Confluence
import GameHall.Proofs.Worker.Order
import GameHall.Proofs.Worker.Lifecycle
import GameHall.Proofs.Rules.Faults
import GameHall.Proofs.Rules.Lookups
import GameHall.Proofs.Rules.References
import GameHall.Proofs.Rules.Rearranged
import GameHall.Proofs.Json.Scanned
import GameHall.Proofs.Json.ReadBack
import GameHall.Proofs.Wire
import GameHall.Proofs.Hall.Names
import GameHall.Proofs.Hall.Succession
import GameHall.Proofs.Hall.Characters
import GameHall.Proofs.Hall.Visits
import GameHall.Proofs.Rules.Twins
import GameHall.Proofs.Text.Lowercase
import GameHall.Proofs.Json.Cuts
import GameHall.Proofs.Json.Spelled
import GameHall.Proofs.Text.NormalForm
import GameHall.Proofs.Json.Layout
import GameHall.Proofs.Json.Rewritten
import GameHall.Proofs.Records
import GameHall.Desk
import GameHall.Proofs.Desk.Errands
import GameHall.Proofs.Desk.Shutdown
