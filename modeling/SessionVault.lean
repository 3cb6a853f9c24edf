import SessionVault.Compression.Ratio
import SessionVault.Share.Address
import SessionVault.Store.Local
import SessionVault.Session.Controller
import SessionVault.Command.Outcome
import SessionVault.Main
import SessionVault.Proofs.Snapshot.References
import SessionVault.Proofs.Share.Envelope
import SessionVault.Proofs.Graph.Ambiguity
import SessionVault.Proofs.Graph.Normal
import SessionVault.Proofs.Graph.Depth
import SessionVault.Proofs.Session.Loading
import SessionVault.Proofs.Snapshot.Contents
import SessionVault.Proofs.Snapshot.Fresh
import SessionVault.Proofs.Time.Calendar
import SessionVault.Proofs.Time.Moment
import SessionVault.Proofs.Store.Disk
import SessionVault.Proofs.Store.Index
import SessionVault.Proofs.Store.Opening
import SessionVault.Proofs.Store.Durable
import SessionVault.Proofs.Session.Sharing
import SessionVault.Proofs.Session.Saving
import SessionVault.Proofs.Session.Publishing
import SessionVault.Proofs.Session.Agreement
import SessionVault.Proofs.Session.Interleaving
import SessionVault.Proofs.Json.Indented
import SessionVault.Proofs.Store.Catalog
import SessionVault.Proofs.Store.Folder
import SessionVault.Proofs.Store.Upgrading
import SessionVault.Proofs.Store.Generations
import SessionVault.Proofs.Store.Roads
import SessionVault.Proofs.Store.Interruption
import SessionVault.Proofs.Store.Restart
import SessionVault.Proofs.Store.Survival
import SessionVault.Proofs.Session.Edits
import SessionVault.Proofs.Session.Captures
import SessionVault.Proofs.Session.Debounce
import SessionVault.Proofs.Graph.Equality
import SessionVault.Proofs.Share.Spelling
import SessionVault.Proofs.Session.Seeding
import SessionVault.Proofs.Text.Order
import SessionVault.Proofs.Store.Listing
import SessionVault.Proofs.Schema.Whole
import SessionVault.Proofs.Command.Migrate
