import Flydrop.P2p.Peer
import Flydrop.P2p.Manager
import Flydrop.P2p.Registry
import Flydrop.P2p.Net
import Flydrop.P2p.Connect
import Flydrop.P2p.Handshake
import Flydrop.P2p.Concurrency
import Flydrop.Core.Node
import Flydrop.Core.Config
import Flydrop.P2p.Discovery
import Flydrop.Core.Presence
import Flydrop.P2p.Outcome
import Flydrop.Core.System
import Flydrop.Core.Pairing
import Flydrop.Core.Delivery
