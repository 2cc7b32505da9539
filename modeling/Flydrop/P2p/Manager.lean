import Flydrop.P2p.Peer
import Mathlib.Data.List.AList
/-!
# The peer manager

`P2pManager` as a state record and its methods as functions on it. The two
`DashMap`s are association lists keyed by peer id, the `DashSet` of connected
ids is a `Finset`, and each channel is the list of what was sent on it, oldest
first. A send never changes anything else, so a failed send (closed receiver)
is the same state as a successful one.

Each method is atomic here; `Flydrop.P2p.Concurrency` splits
`handle_peer_discovered` into its single map operations. `connect_to_peer` is
given the outcome of each TCP dial and of the client handshake as functions,
so one definition covers every outcome.
-/

namespace Flydrop.P2p

/-- A `DashMap<PeerId, PeerCandidate>`. -/
abbrev PeerMap := AList (fun _ : PeerId => PeerCandidate)

/-- `P2pConfig`, the settings `P2pManager::new` reads. -/
structure P2pConfig where
  id : PeerId
  device : DeviceType
  name : String
  multicast : SocketAddr
  p2pAddr : SocketAddr

/-- The state of a `P2pManager`. -/
structure P2pManager where
  id : PeerId
  metadata : PeerMetadata
  knownPeers : PeerMap
  discoveredPeers : PeerMap
  connectedPeers : Finset PeerId
  discoveryChannel : List DiscoveryEvent
  appChannel : List P2pEvent
  dedup : UInt32

namespace P2pManager

/-- `P2pManager::new`: empty registries, metadata advertising the address the
listener was bound to. -/
def new (config : P2pConfig) (listenAddr : SocketAddr) (dedup : UInt32) : P2pManager where
  id := config.id
  metadata := { id := config.id, typ := config.device, name := config.name, addr := listenAddr }
  knownPeers := ∅
  discoveredPeers := ∅
  connectedPeers := ∅
  discoveryChannel := []
  appChannel := []
  dedup := dedup

/-- `add_known_peer`: insert or replace the candidate under its id. -/
def addKnownPeer (m : P2pManager) (peer : PeerCandidate) : P2pManager :=
  { m with knownPeers := m.knownPeers.insert peer.id peer }

/-- `request_presence`: emit a presence request carrying the dedup nonce. -/
def requestPresence (m : P2pManager) : P2pManager :=
  { m with discoveryChannel := m.discoveryChannel ++ [.presenceRequest m.dedup] }

/-- `get_metadata`. -/
def getMetadata (m : P2pManager) : PeerMetadata := m.metadata

/-- `get_discovered_peers`: the metadata of every discovered candidate. -/
def getDiscoveredPeers (m : P2pManager) : List PeerMetadata :=
  m.discoveredPeers.entries.map fun p => p.2.metadata

/-- `is_discovered`. -/
def isDiscovered (m : P2pManager) (id : PeerId) : Bool := decide (id ∈ m.discoveredPeers)

/-- `is_connected`. -/
def isConnected (m : P2pManager) (id : PeerId) : Bool := decide (id ∈ m.connectedPeers)

/-- The `for addr in &candidate.addrs` loop of `connect_to_peer`: dial each
address in turn, run the client handshake on the first that answers. -/
def dialAddrs (m : P2pManager) (id : PeerId) (candidate : PeerCandidate)
    (dial : SocketAddr → Option TcpStream)
    (handshake : TcpStream → PeerCandidate → Except ConnError Peer) :
    List SocketAddr → Except ConnError Peer × P2pManager
  | [] => (.error .addr, m)
  | addr :: addrs =>
    match dial addr with
    | none => dialAddrs m id candidate dial handshake addrs
    | some conn =>
      match handshake conn candidate with
      | .error e => (.error e, m)
      | .ok peer => (.ok peer, { m with connectedPeers := insert id m.connectedPeers })

/-- `connect_to_peer`. -/
def connectToPeer (m : P2pManager) (id : PeerId) (dial : SocketAddr → Option TcpStream)
    (handshake : TcpStream → PeerCandidate → Except ConnError Peer) :
    Except ConnError Peer × P2pManager :=
  if id ∈ m.connectedPeers then (.error .dup, m)
  else
    match m.discoveredPeers.lookup id with
    | none => (.error .notFound, m)
    | some candidate => m.dialAddrs id candidate dial handshake candidate.addrs

/-- `peer_disconnected`. -/
def peerDisconnected (m : P2pManager) (id : PeerId) : P2pManager :=
  { m with
    connectedPeers := m.connectedPeers.erase id
    appChannel := m.appChannel ++ [.peerDisconnected id] }

/-- `get_peer_candidate`: the discovered entry if there is one, else the known one. -/
def getPeerCandidate (m : P2pManager) (id : PeerId) : Option PeerCandidate :=
  (m.discoveredPeers.lookup id).or (m.knownPeers.lookup id)

/-- The candidate `handle_peer_discovered` builds from the advertised metadata
and the removed known entry. -/
def discoveredCandidate (peer : PeerMetadata) (known : PeerCandidate) : PeerCandidate :=
  { id := peer.id, metadata := peer, addrs := [peer.addr], auth := known.auth }

/-- `handle_peer_discovered`. `known_peers.remove` is `AList.extract`. -/
def handlePeerDiscovered (m : P2pManager) (peer : PeerMetadata) : P2pManager :=
  if peer.id ∉ m.connectedPeers ∧ peer.id ∉ m.discoveredPeers then
    match m.knownPeers.extract peer.id with
    | (none, rest) => { m with knownPeers := rest }
    | (some known, rest) =>
      let candidate := discoveredCandidate peer known
      { m with
        discoveredPeers := m.discoveredPeers.insert peer.id candidate
        knownPeers := rest.insert peer.id candidate
        appChannel := m.appChannel ++ [.peerDiscovered candidate.metadata] }
  else m

/-- `handle_presence_request`: answer with the local metadata. -/
def handlePresenceRequest (m : P2pManager) : P2pManager :=
  { m with discoveryChannel := m.discoveryChannel ++ [.presenceResponse m.metadata] }

/-- `handle_new_connection`: record the id and tell the application. -/
def handleNewConnection (m : P2pManager) (peer : Peer) : P2pManager :=
  { m with
    connectedPeers := insert peer.id m.connectedPeers
    appChannel := m.appChannel ++ [.peerConnected peer] }

/-! ## What each method can do -/

theorem erase_of_not_mem {s : PeerMap} {id : PeerId} (h : id ∉ s) : s.erase id = s :=
  AList.ext (List.kerase_of_not_mem_keys h)

/-- `handle_peer_discovered` either changes nothing, or records the peer under
the auth of its known entry, in both registries, and announces it. -/
theorem handlePeerDiscovered_cases (m : P2pManager) (peer : PeerMetadata) :
    m.handlePeerDiscovered peer = m ∨
      ∃ known, peer.id ∉ m.connectedPeers ∧ peer.id ∉ m.discoveredPeers ∧
        m.knownPeers.lookup peer.id = some known ∧
        m.handlePeerDiscovered peer =
          { m with
            discoveredPeers := m.discoveredPeers.insert peer.id (discoveredCandidate peer known)
            knownPeers := (m.knownPeers.erase peer.id).insert peer.id
              (discoveredCandidate peer known)
            appChannel := m.appChannel ++ [.peerDiscovered peer] } := by
  unfold handlePeerDiscovered
  split
  · next hfresh =>
    rw [AList.extract_eq_lookup_erase]
    cases hk : m.knownPeers.lookup peer.id with
    | none =>
      left
      rw [erase_of_not_mem (AList.lookup_eq_none.mp hk)]
    | some known => exact .inr ⟨known, hfresh.1, hfresh.2, rfl, rfl⟩
  · exact .inl rfl

/-- The address loop returns an error with the manager as it was, or a `Peer`
with `id` added to `connected_peers`. -/
theorem dialAddrs_result (m : P2pManager) (id : PeerId) (candidate : PeerCandidate)
    (dial : SocketAddr → Option TcpStream)
    (handshake : TcpStream → PeerCandidate → Except ConnError Peer) (addrs : List SocketAddr) :
    (∃ e, m.dialAddrs id candidate dial handshake addrs = (.error e, m)) ∨
      ∃ peer, m.dialAddrs id candidate dial handshake addrs =
        (.ok peer, { m with connectedPeers := insert id m.connectedPeers }) := by
  induction addrs with
  | nil => exact .inl ⟨_, rfl⟩
  | cons addr addrs ih =>
    unfold dialAddrs
    split
    · exact ih
    · split
      · exact .inl ⟨_, rfl⟩
      · exact .inr ⟨_, rfl⟩

/-- `connect_to_peer` returns an error with the manager as it was, or a `Peer`
for a discovered, unconnected id, with `id` added to `connected_peers`. -/
theorem connectToPeer_result (m : P2pManager) (id : PeerId) (dial : SocketAddr → Option TcpStream)
    (handshake : TcpStream → PeerCandidate → Except ConnError Peer) :
    (∃ e, m.connectToPeer id dial handshake = (.error e, m)) ∨
      ∃ peer, id ∉ m.connectedPeers ∧ id ∈ m.discoveredPeers ∧
        m.connectToPeer id dial handshake =
          (.ok peer, { m with connectedPeers := insert id m.connectedPeers }) := by
  unfold connectToPeer
  split
  · exact .inl ⟨_, rfl⟩
  · next hconn =>
    split
    · exact .inl ⟨_, rfl⟩
    · next candidate hc =>
      rcases dialAddrs_result m id candidate dial handshake candidate.addrs with h | ⟨peer, h⟩
      · exact .inl h
      · exact .inr ⟨peer, hconn, AList.lookup_isSome.mp (by simp [hc]), h⟩

/-- A `Peer` the address loop returns is the handshake's answer on the first
address that answered. -/
theorem dialAddrs_ok {m : P2pManager} {id : PeerId} {candidate : PeerCandidate}
    {dial : SocketAddr → Option TcpStream}
    {handshake : TcpStream → PeerCandidate → Except ConnError Peer} {peer : Peer}
    {addrs : List SocketAddr} (h : (m.dialAddrs id candidate dial handshake addrs).1 = .ok peer) :
    ∃ addr ∈ addrs, ∃ conn, dial addr = some conn ∧ handshake conn candidate = .ok peer := by
  induction addrs with
  | nil => cases h
  | cons addr addrs ih =>
    unfold dialAddrs at h
    split at h
    · obtain ⟨a, ha, hrest⟩ := ih h
      exact ⟨a, List.mem_cons_of_mem _ ha, hrest⟩
    · next conn hd =>
      split at h
      · cases h
      · next p hp => exact ⟨addr, List.mem_cons_self _ _, conn, hd, hp.trans h⟩

/-- A `Peer` that `connect_to_peer` returns is the handshake's answer for the
discovered candidate. -/
theorem connectToPeer_ok {m : P2pManager} {id : PeerId} {dial : SocketAddr → Option TcpStream}
    {handshake : TcpStream → PeerCandidate → Except ConnError Peer} {peer : Peer}
    (h : (m.connectToPeer id dial handshake).1 = .ok peer) :
    ∃ c conn, m.discoveredPeers.lookup id = some c ∧ handshake conn c = .ok peer := by
  unfold connectToPeer at h
  split at h
  · cases h
  · split at h
    · cases h
    · next c hc =>
      obtain ⟨_, _, conn, _, hp⟩ := dialAddrs_ok h
      exact ⟨c, conn, hc, hp⟩

section
variable (m : P2pManager) (id : PeerId) (dial : SocketAddr → Option TcpStream)
  (handshake : TcpStream → PeerCandidate → Except ConnError Peer)

@[simp] theorem connectToPeer_knownPeers : (m.connectToPeer id dial handshake).2.knownPeers = m.knownPeers := by
  rcases connectToPeer_result m id dial handshake with ⟨_, h⟩ | ⟨_, _, _, h⟩ <;> simp [h]

@[simp] theorem connectToPeer_discoveredPeers :
    (m.connectToPeer id dial handshake).2.discoveredPeers = m.discoveredPeers := by
  rcases connectToPeer_result m id dial handshake with ⟨_, h⟩ | ⟨_, _, _, h⟩ <;> simp [h]

@[simp] theorem connectToPeer_appChannel : (m.connectToPeer id dial handshake).2.appChannel = m.appChannel := by
  rcases connectToPeer_result m id dial handshake with ⟨_, h⟩ | ⟨_, _, _, h⟩ <;> simp [h]


@[simp] theorem handlePeerDiscovered_connectedPeers (peer : PeerMetadata) :
    (m.handlePeerDiscovered peer).connectedPeers = m.connectedPeers := by
  rcases handlePeerDiscovered_cases m peer with h | ⟨_, _, _, _, h⟩ <;> rw [h]

end

end P2pManager

/-- A call into the manager, with the outcomes a call depends on. -/
inductive Op
  | addKnownPeer (peer : PeerCandidate)
  | requestPresence
  | getDiscoveredPeers
  | getPeerCandidate (id : PeerId)
  | connectToPeer (id : PeerId) (dial : SocketAddr → Option TcpStream)
      (handshake : TcpStream → PeerCandidate → Except ConnError Peer)
  | peerDisconnected (id : PeerId)
  | handlePeerDiscovered (peer : PeerMetadata)
  | handlePresenceRequest
  | handleNewConnection (peer : Peer)

namespace P2pManager

/-- The state after one call; queries leave it as it was. -/
def apply (m : P2pManager) : Op → P2pManager
  | .addKnownPeer peer => m.addKnownPeer peer
  | .requestPresence => m.requestPresence
  | .getDiscoveredPeers => m
  | .getPeerCandidate _ => m
  | .connectToPeer id dial handshake => (m.connectToPeer id dial handshake).2
  | .peerDisconnected id => m.peerDisconnected id
  | .handlePeerDiscovered peer => m.handlePeerDiscovered peer
  | .handlePresenceRequest => m.handlePresenceRequest
  | .handleNewConnection peer => m.handleNewConnection peer

/-- The state after a sequence of calls, each run to completion. -/
def run (m : P2pManager) (ops : List Op) : P2pManager := ops.foldl apply m

@[simp] theorem run_nil (m : P2pManager) : m.run [] = m := rfl

@[simp] theorem run_append_singleton (m : P2pManager) (ops : List Op) (op : Op) :
    m.run (ops ++ [op]) = (m.run ops).apply op := by
  simp [run]

end P2pManager

/-! ## A small network for examples -/

/-- Node `a`, listening on `192.168.0.1`. -/
def demoConfig : P2pConfig :=
  ⟨⟨[1]⟩, .desktop, "a", .v4 0xEFFF2A62 50692, .v4 0xC0A80001 0⟩

/-- The address `a`'s listener was bound to. -/
def demoAddr : SocketAddr := .v4 0xC0A80001 40000

/-- Node `b` on `192.168.0.2`, advertising a listener on `port`. -/
def peerB (port : UInt16) : PeerMetadata := ⟨⟨[2]⟩, .mobile, "b", .v4 0xC0A80002 port⟩

/-- Node `a` after pairing with `b` (secret "h"). -/
def pairedA : P2pManager :=
  (P2pManager.new demoConfig demoAddr 0).addKnownPeer (PeerCandidate.new (peerB 4000) ⟨[104]⟩)

end Flydrop.P2p
