import Flydrop.P2p.Registry
import Flydrop.P2p.Net
/-!
# The manager under concurrent callers

Two views finer than one atomic call at a time.

*Live peers.* The manager together with the `Peer`s alive in the process: an
outbound `connect_to_peer` that succeeds and an inbound handshake handed to
`handle_new_connection` each add one, and a `Peer` whose stream closes is
reported through `peer_disconnected`. Only `connect_to_peer` refuses an id that
is already connected; the inbound path records the id again, so a peer that
dials back while its earlier connection is open leaves two live `Peer`s behind
one entry of `connected_peers`. What holds in every run is one direction only:
`Live.run_connected_live`, every connected id has a live `Peer`.

*One map operation at a time.* `handle_peer_discovered` runs five `DashMap`
operations, each atomic on its own; an `add_known_peer` from the application
task and a `get_peer_candidate` from an accept task (two reads) can run
between any two of them. One interleaving of the three calls ends where no
serial order of them does.
-/

namespace Flydrop.P2p

/-! ## Live peers -/

/-- The manager and the `Peer`s alive in the process. -/
structure Live where
  manager : P2pManager
  peers : List Peer

/-- What happens to the manager and the live `Peer`s. -/
inductive LiveEvent
  | pair (peer : PeerCandidate)
  | discover (peer : PeerMetadata)
  | connect (id : PeerId) (dial : SocketAddr → Option TcpStream)
      (handshake : TcpStream → PeerCandidate → Except ConnError Peer)
  | accept (peer : Peer)
  | close (peer : Peer)

/-- One event: the returned `Peer` of a successful connect, and an accepted
one, join the live set; a live `Peer` that closes leaves it and its handler
calls `peer_disconnected`. -/
def Live.step (s : Live) : LiveEvent → Live
  | .pair peer => { s with manager := s.manager.addKnownPeer peer }
  | .discover peer => { s with manager := s.manager.handlePeerDiscovered peer }
  | .connect id dial handshake =>
    match s.manager.connectToPeer id dial handshake with
    | (.ok peer, m) => ⟨m, peer :: s.peers⟩
    | (.error _, m) => ⟨m, s.peers⟩
  | .accept peer => ⟨s.manager.handleNewConnection peer, peer :: s.peers⟩
  | .close peer =>
    if peer ∈ s.peers then ⟨s.manager.peerDisconnected peer.id, s.peers.erase peer⟩ else s

/-- A sequence of events. -/
def Live.run (s : Live) (events : List LiveEvent) : Live := events.foldl Live.step s

/-- How many live `Peer`s have id `id`. -/
def Live.liveCount (s : Live) (id : PeerId) : Nat := s.peers.countP (·.id = id)

/-- A client handshake that answers with a `Peer` for the candidate it was
given, as `net::connect` does with `Peer::new(.., peer.metadata)`. -/
def LiveEvent.HonestHandshake : LiveEvent → Prop
  | .connect _ _ handshake => ∀ conn c p, handshake conn c = .ok p → p.id = c.metadata.id
  | _ => True

/-- A client handshake each of whose `Peer`s is one `net::connect` returns,
under some receive outcomes, is honest. -/
theorem LiveEvent.honestHandshake_of_connect {id : PeerId} {dial : SocketAddr → Option TcpStream}
    {handshake : TcpStream → PeerCandidate → Except ConnError Peer} (sign : Sign) (totp : Totp)
    (h : ∀ conn c p, handshake conn c = .ok p →
      ∃ manager rs, (Flydrop.P2p.connect sign totp manager conn c rs).1 = .done (.ok p)) :
    (LiveEvent.connect id dial handshake).HonestHandshake := by
  intro conn c p hp
  obtain ⟨_, _, hrun⟩ := h conn c p hp
  rw [connect_ok_eq hrun, Peer.new_id]

/-- What does hold with live peers: the registries keep their invariant and
every connected id has a live `Peer`. -/
structure Live.Inv (s : Live) : Prop where
  registry : P2pManager.RegistryInv s.manager
  connected_live : ∀ id ∈ s.manager.connectedPeers, ∃ p ∈ s.peers, p.id = id

theorem Live.step_connect (s : Live) (id : PeerId) (dial : SocketAddr → Option TcpStream)
    (handshake : TcpStream → PeerCandidate → Except ConnError Peer) :
    s.step (.connect id dial handshake) =
      ⟨(s.manager.connectToPeer id dial handshake).2,
        match (s.manager.connectToPeer id dial handshake).1 with
        | .ok peer => peer :: s.peers
        | .error _ => s.peers⟩ := by
  simp only [Live.step]
  split <;> simp_all

/-- A `Peer` that joins the live set may have its id connected. -/
theorem connected_live_cons {C : Finset PeerId} {ps : List Peer}
    (h : ∀ id ∈ C, ∃ p ∈ ps, p.id = id) (peer : Peer) :
    ∀ id ∈ insert peer.id C, ∃ p ∈ peer :: ps, p.id = id := by
  intro id hid
  rcases Finset.mem_insert.mp hid with rfl | hid
  · exact ⟨peer, List.mem_cons_self _ _, rfl⟩
  · obtain ⟨p, hp, rfl⟩ := h id hid
    exact ⟨p, List.mem_cons_of_mem _ hp, rfl⟩

/-- One event keeps `Live.Inv` when its handshake is honest. -/
theorem Live.Inv.step {s : Live} (hi : s.Inv) {e : LiveEvent} (he : e.HonestHandshake) :
    (s.step e).Inv := by
  cases e with
  | pair peer => exact ⟨hi.registry.addKnownPeer peer, hi.connected_live⟩
  | discover peer =>
    exact ⟨hi.registry.handlePeerDiscovered peer, by simpa [Live.step] using hi.connected_live⟩
  | connect id dial handshake =>
    refine ⟨by rw [Live.step_connect]; exact hi.registry.apply (.connectToPeer id dial handshake), ?_⟩
    rcases P2pManager.connectToPeer_result s.manager id dial handshake with ⟨_, h⟩ | ⟨peer, -, -, h⟩
    · have grow : s.peers ⊆ (s.step (.connect id dial handshake)).peers := by
        rw [Live.step_connect]; split <;> simp
      intro id' hid'
      rw [Live.step_connect, h] at hid'
      obtain ⟨p, hp, rfl⟩ := hi.connected_live id' hid'
      exact ⟨p, grow hp, rfl⟩
    · obtain ⟨c, conn, hc, hp⟩ := P2pManager.connectToPeer_ok (congrArg Prod.fst h)
      have hpeer : peer.id = id := (he conn c peer hp).trans (hi.registry.discovered_id id c hc).2.1
      subst hpeer
      rw [Live.step_connect, h]
      exact connected_live_cons hi.connected_live peer
  | accept peer =>
    exact ⟨hi.registry.apply (.handleNewConnection peer), connected_live_cons hi.connected_live peer⟩
  | close peer =>
    simp only [Live.step]
    split
    · refine ⟨hi.registry.apply (.peerDisconnected peer.id), fun id hid => ?_⟩
      obtain ⟨hne, hid⟩ := Finset.mem_erase.mp hid
      obtain ⟨p, hp, rfl⟩ := hi.connected_live id hid
      exact ⟨p, (List.mem_erase_of_ne (fun h => hne (congrArg Peer.id h))).mpr hp, rfl⟩
    · exact hi

/-- From a fresh manager, with honest client handshakes, every id in
`connected_peers` has a live `Peer` in every run. -/
theorem Live.run_connected_live (config : P2pConfig) (listenAddr : SocketAddr) (dedup : UInt32)
    (events : List LiveEvent) (honest : ∀ e ∈ events, e.HonestHandshake) :
    ∀ id ∈ (Live.run ⟨P2pManager.new config listenAddr dedup, []⟩ events).manager.connectedPeers,
      ∃ p ∈ (Live.run ⟨P2pManager.new config listenAddr dedup, []⟩ events).peers, p.id = id := by
  suffices h : (Live.run ⟨P2pManager.new config listenAddr dedup, []⟩ events).Inv from
    h.connected_live
  induction events using List.reverseRecOn with
  | nil => exact ⟨P2pManager.registryInv_new config listenAddr dedup, by simp [P2pManager.new, Live.run]⟩
  | append_singleton events e ih =>
    rw [Live.run, List.foldl_append]
    exact (ih fun e' he' => honest e' (List.mem_append_left _ he')).step
      (honest e (List.mem_append_right _ (List.mem_singleton_self _)))

theorem run_connected_live_paired :
    ∃ p ∈ (Live.run ⟨P2pManager.new demoConfig demoAddr 0, []⟩
      [.pair (PeerCandidate.new (peerB 4000) ⟨[104]⟩), .discover (peerB 4000),
        .connect ⟨[2]⟩ (fun _ => some ⟨1⟩) (fun conn c => .ok (Peer.new .client conn c.metadata))]).peers,
      p.id = ⟨[2]⟩ :=
  Live.run_connected_live demoConfig demoAddr 0
    [.pair (PeerCandidate.new (peerB 4000) ⟨[104]⟩), .discover (peerB 4000),
      .connect ⟨[2]⟩ (fun _ => some ⟨1⟩) (fun conn c => .ok (Peer.new .client conn c.metadata))]
    (by simp [LiveEvent.HonestHandshake]) ⟨[2]⟩ (by decide)

/-- `a` pairs with `b` and hears it; `a` dials `b` successfully; meanwhile `b`
dials `a`, whose accept handshake succeeds too. -/
def crossedConnect : List LiveEvent :=
  [.pair (PeerCandidate.new (peerB 4000) ⟨[104]⟩), .discover (peerB 4000),
    .connect ⟨[2]⟩ (fun _ => some ⟨1⟩) (fun conn _ => .ok (Peer.new .client conn (peerB 4000))),
    .accept (Peer.new .server ⟨2⟩ (peerB 4000))]

/-- `a` after the crossed connections, from a fresh manager. -/
def crossedLive : Live := Live.run ⟨P2pManager.new demoConfig demoAddr 0, []⟩ crossedConnect

/-- After the crossed connections `b` is one entry of `connected_peers` with
two live `Peer`s; once the first closes, `b` is no longer connected although
its second `Peer` is still live. -/
theorem crossed_connect_two_live_peers :
    ⟨[2]⟩ ∈ crossedLive.manager.connectedPeers ∧ crossedLive.liveCount ⟨[2]⟩ = 2 ∧
      ⟨[2]⟩ ∉ (crossedLive.step (.close (Peer.new .client ⟨1⟩ (peerB 4000)))).manager.connectedPeers ∧
      (crossedLive.step (.close (Peer.new .client ⟨1⟩ (peerB 4000)))).liveCount ⟨[2]⟩ = 1 := by
  decide

/-! ## One map operation at a time -/

/-- Where `handle_peer_discovered` stands: before each of its map operations. -/
inductive DiscoverPc
  | containsConnected
  | containsDiscovered
  | removeKnown
  | insertDiscovered (candidate : PeerCandidate)
  | insertKnown (candidate : PeerCandidate)
  | done
  deriving DecidableEq

/-- One map operation of `handle_peer_discovered(peer)`; the last one also
sends `PeerDiscovered`. -/
def discoverStep (peer : PeerMetadata) (m : P2pManager) : DiscoverPc → DiscoverPc × P2pManager
  | .containsConnected => (if peer.id ∈ m.connectedPeers then .done else .containsDiscovered, m)
  | .containsDiscovered => (if peer.id ∈ m.discoveredPeers then .done else .removeKnown, m)
  | .removeKnown =>
    match m.knownPeers.extract peer.id with
    | (none, rest) => (.done, { m with knownPeers := rest })
    | (some known, rest) =>
      (.insertDiscovered (P2pManager.discoveredCandidate peer known), { m with knownPeers := rest })
  | .insertDiscovered candidate =>
    (.insertKnown candidate,
      { m with discoveredPeers := m.discoveredPeers.insert peer.id candidate })
  | .insertKnown candidate =>
    (.done,
      { m with
        knownPeers := m.knownPeers.insert peer.id candidate
        appChannel := m.appChannel ++ [.peerDiscovered candidate.metadata] })
  | .done => (.done, m)

/-- Where `get_peer_candidate(id)` stands: before its read of
`discovered_peers`, before its read of `known_peers`, or returned. -/
inductive CandidatePc
  | readDiscovered
  | readKnown (discovered : Option PeerCandidate)
  | done (result : Option PeerCandidate)
  deriving DecidableEq

/-- One read of `get_peer_candidate(id)`; `Option::or` takes the known entry
only when there is no discovered one. -/
def candidateStep (id : PeerId) (m : P2pManager) : CandidatePc → CandidatePc
  | .readDiscovered => .readKnown (m.discoveredPeers.lookup id)
  | .readKnown discovered => .done (discovered.or (m.knownPeers.lookup id))
  | .done result => .done result

/-- The event-loop task in `handle_peer_discovered(peer)`, the application
task in `add_known_peer(pairing)`, and an accept task in
`get_peer_candidate(peer.id)`, over the shared registries. -/
structure Race where
  shared : P2pManager
  discover : DiscoverPc
  pairingPending : Bool
  lookup : CandidatePc

/-- The task that takes the next atomic step. -/
inductive Task
  | discover
  | pair
  | lookup
  deriving DecidableEq

/-- The chosen task performs one map operation; a finished task does nothing. -/
def Race.step (peer : PeerMetadata) (pairing : PeerCandidate) (s : Race) : Task → Race
  | .discover =>
    let p := discoverStep peer s.shared s.discover
    { s with discover := p.1, shared := p.2 }
  | .pair =>
    if s.pairingPending then { s with shared := s.shared.addKnownPeer pairing, pairingPending := false }
    else s
  | .lookup => { s with lookup := candidateStep peer.id s.shared s.lookup }

/-- The race under a schedule: which task steps, in real-time order. -/
def Race.run (peer : PeerMetadata) (pairing : PeerCandidate) (s : Race) (schedule : List Task) :
    Race :=
  schedule.foldl (Race.step peer pairing) s

/-- The three calls about to start on the shared registries `m`. -/
def Race.start (m : P2pManager) : Race := ⟨m, .containsConnected, true, .readDiscovered⟩

/-- What the callers can observe afterwards: both registries' entries for the
id and the candidate `get_peer_candidate` returned. -/
def Race.outcome (id : PeerId) (s : Race) : Option PeerCandidate × Option PeerCandidate × CandidatePc :=
  (s.shared.knownPeers.lookup id, s.shared.discoveredPeers.lookup id, s.lookup)

/-- The three calls one after another, in the given order. -/
def serially (order : List Task) : List Task :=
  order.flatMap fun
    | .discover => List.replicate 5 .discover
    | .pair => [.pair]
    | .lookup => [.lookup, .lookup]

/-- The six orders of the three calls. -/
def serialOrders : List (List Task) :=
  [[.discover, .pair, .lookup], [.discover, .lookup, .pair], [.pair, .discover, .lookup],
    [.pair, .lookup, .discover], [.lookup, .discover, .pair], [.lookup, .pair, .discover]]

/-- `a` knows `b` under secret "h" and hears `b`'s presence response while the
user re-pairs `b` under secret "w" and `b` dials in. The schedule runs the
accept task's two reads and then the whole `add_known_peer` inside the window
between `known_peers.remove` and the re-inserts. -/
def pairingRace : List Task :=
  [.discover, .discover, .discover, .lookup, .lookup, .pair, .discover, .discover]

/-- The three calls on `a`'s registries under a schedule: `b`'s presence
response, the re-pairing of `b` under secret "w", and the lookup of `b`. -/
def pairingRun (schedule : List Task) : Race :=
  (Race.start pairedA).run (peerB 4000) (PeerCandidate.new (peerB 4000) ⟨[119]⟩) schedule

/-- Under that schedule `get_peer_candidate(b)` returns `None` although `b` was
known throughout, the finished `add_known_peer` is overwritten by a candidate
built from the entry it replaced, and no serial order of the three calls
gives the same outcome. -/
theorem pairing_race_not_serializable :
    (pairingRun pairingRace).lookup = .done none ∧ (pairingRun pairingRace).pairingPending = false ∧
      ((pairingRun pairingRace).shared.knownPeers.lookup ⟨[2]⟩).map (·.auth) = some ⟨[104]⟩ ∧
      ∀ order ∈ serialOrders,
        (pairingRun (serially order)).outcome ⟨[2]⟩ ≠ (pairingRun pairingRace).outcome ⟨[2]⟩ := by
  decide

end Flydrop.P2p
