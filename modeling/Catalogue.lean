import Catalogue.Deployment
import Catalogue.Main
import Catalogue.Proofs.Consumer.Failing
import Catalogue.Proofs.Consumer.Limits
import Catalogue.Proofs.Consumer.Turns
import Catalogue.Proofs.Entity.Documents
import Catalogue.Proofs.Event.Accepted
import Catalogue.Proofs.Event.Wire
import Catalogue.Proofs.Http.Reads
import Catalogue.Proofs.Http.Relay
import Catalogue.Proofs.Json.Unknown
import Catalogue.Proofs.Pool.Safety
import Catalogue.Proofs.Pool.Schedule
import Catalogue.Proofs.Read.Degraded
import Catalogue.Proofs.Read.Remote
import Catalogue.Proofs.Read.Undisturbed
import Catalogue.Proofs.Settings.Variables
import Catalogue.Proofs.Store.KeyOrder
import Catalogue.Proofs.Store.Redelivery
import Catalogue.Proofs.Transport.Listing
import Catalogue.Proofs.Write.Consumable
import Catalogue.Proofs.Write.Convergence
import Catalogue.Proofs.Write.Order
import Catalogue.Proofs.Write.Refusals
