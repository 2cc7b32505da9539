import Mathlib.Data.Finset.Basic
/-!
# Peers, candidates and the events of the p2p crate

The data model shared by the manager, the handshake and the node: the peer
identity and metadata, the `PeerCandidate` a pairing produces, the live `Peer`
a handshake produces, and the events the manager sends to the application.

`peer.rs`, `event.rs` and `err.rs` are not among the sources; their types are
rebuilt from how `manager.rs`, `net.rs` and `node.rs` use them. A `HashSet` of
addresses is kept as a duplicate-free list in its iteration order, since
`connect_to_peer` dials the addresses in that order.
-/

namespace Flydrop.P2p

/-- `PeerId`, kept as the bytes `as_bytes` yields for the HMAC input. -/
structure PeerId where
  bytes : List UInt8
  deriving DecidableEq, Repr

/-- `std::net::SocketAddr`. -/
inductive SocketAddr
  | v4 (ip : UInt32) (port : UInt16)
  | v6 (ip : List UInt8) (port : UInt16)
  deriving DecidableEq, Repr

/-- Modelled from the spec: `DeviceType`, "a small tagged variant". -/
inductive DeviceType
  | desktop
  | mobile
  | unknown
  deriving DecidableEq, Repr

/-- `PeerMetadata`, what a node advertises in its presence responses. -/
structure PeerMetadata where
  id : PeerId
  typ : DeviceType
  name : String
  addr : SocketAddr
  deriving DecidableEq, Repr

/-- Modelled from the spec: `PairingAuthenticator` holds the secret agreed
during pairing. -/
structure PairingAuthenticator where
  secret : List UInt8
  deriving DecidableEq, Repr

/-- `PeerCandidate`, the credentials kept for a paired peer. -/
structure PeerCandidate where
  id : PeerId
  metadata : PeerMetadata
  addrs : List SocketAddr
  auth : PairingAuthenticator
  deriving DecidableEq, Repr

/-- Modelled from the spec: `PeerCandidate::new(&metadata, auth)` records the
peer's advertised address as its only address. -/
def PeerCandidate.new (metadata : PeerMetadata) (auth : PairingAuthenticator) :
    PeerCandidate :=
  { id := metadata.id, metadata := metadata, addrs := [metadata.addr], auth := auth }

/-- `ConnectionType`: which side of the handshake produced a `Peer`. -/
inductive ConnectionType
  | client
  | server
  deriving DecidableEq, Repr

/-- A TCP stream, known by the connection it belongs to. -/
structure TcpStream where
  handle : Nat
  deriving DecidableEq, Repr

/-- `Peer`, a live authenticated connection. -/
structure Peer where
  id : PeerId
  metadata : PeerMetadata
  role : ConnectionType
  stream : TcpStream
  deriving DecidableEq, Repr

/-- Modelled from the spec: `Peer::new` wraps the stream of a finished
handshake, keeping the remote metadata and taking the id from it. -/
def Peer.new (role : ConnectionType) (stream : TcpStream) (metadata : PeerMetadata) : Peer :=
  { id := metadata.id, metadata := metadata, role := role, stream := stream }

@[simp] theorem Peer.new_metadata (role : ConnectionType) (stream : TcpStream)
    (metadata : PeerMetadata) : (Peer.new role stream metadata).metadata = metadata := rfl

@[simp] theorem Peer.new_id (role : ConnectionType) (stream : TcpStream)
    (metadata : PeerMetadata) : (Peer.new role stream metadata).id = metadata.id := rfl

/-- `P2pEvent`, sent by the manager on the application channel. -/
inductive P2pEvent
  | peerDiscovered (metadata : PeerMetadata)
  | peerConnected (peer : Peer)
  | peerDisconnected (id : PeerId)
  deriving DecidableEq, Repr

/-- The id a `PeerDiscovered` event announces. -/
def P2pEvent.discoveredId : P2pEvent → Option PeerId
  | .peerDiscovered metadata => some metadata.id
  | _ => none

/-- The `Peer` a `PeerConnected` event hands over. -/
def P2pEvent.connectedPeer : P2pEvent → Option Peer
  | .peerConnected peer => some peer
  | _ => none

/-- `DiscoveryEvent` as the manager sends it: requests carry the dedup nonce. -/
inductive DiscoveryEvent
  | presenceRequest (dedup : UInt32)
  | presenceResponse (metadata : PeerMetadata)
  deriving DecidableEq, Repr

/-- The error a frame codec reports. -/
structure CodecError where
  reason : String
  deriving DecidableEq, Repr

/-- `err::ConnError`, the outcomes of `connect_to_peer` and of the handshake. -/
inductive ConnError
  | dup
  | notFound
  | addr
  | timeout
  | disconnect
  | auth
  | msg
  | failure (code : UInt32)
  | codec (e : CodecError)
  deriving DecidableEq, Repr

end Flydrop.P2p
