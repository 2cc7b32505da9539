import Flydrop.Core.Node
import Flydrop.P2p.Net
import Flydrop.P2p.Registry
/-!
# The whole node

`Node::init` and the process it starts, with three actors around one
`P2pManager`:

* the node's event loop (`Node::start`), taking the UI's commands, the
  sessions the per-peer tasks report, and the events of the manager's
  application channel, in order, as it reads them;
* the p2p event loop the manager spawns, which calls back into the manager for
  every presence request and response the discovery socket reads and for every
  inbound TCP connection whose `net::accept` returns a `Peer`;
* the presence loops, which call `request_presence`.

Any of them may act next. A `SendPeer` runs the real client handshake,
`net::connect`, under whatever each receive yields. `event_loop.rs` is not
among the sources: which manager method the p2p event loop calls for what it
reads follows the spec.

* `Node.init_sysInv`, `SysInv.run`, `only_paired_peers`: every peer the node
  knows, discovers, connects to or accepts, every peer the UI is shown as
  discovered, and every peer a session handler is spawned for, is a peer of the
  configuration the node started from or the peer of a `Pair` payload;
* `identity_fixed`: the node's own id never changes, in its configuration, in
  what it wrote to disk, or in what its manager advertises.
-/

namespace Flydrop.Core

open Flydrop.P2p

/-! ## `Node::init` -/

/-- `discovery::DISCOVERY_MULTICAST`, `239.255.42.98`. -/
def discoveryMulticast : UInt32 := 0xEFFF2A62

/-- `Node::init`, from the configuration `store.get` returned, the device type
of the platform, the address `lan.next_ipv4_up` reports, the address the
manager's listener was bound to, the dedup nonce `P2pManager::new` draws, and
the candidates `secret::to_known(&conf.known_peers)` yields. -/
def Node.init (conf : NodeConfig) (device : DeviceType) (localIp : UInt32) (listenAddr : SocketAddr)
    (dedup : UInt32) (known : List PeerCandidate) : Node :=
  let p2pConf : P2pConfig := ⟨conf.id, device, conf.name, .v4 discoveryMulticast 50692, .v4 localIp 0⟩
  let p2p := known.foldl P2pManager.addKnownPeer (P2pManager.new p2pConf listenAddr dedup)
  ⟨conf, conf, p2p, State.default, true, [], [], [], [], [], [], 0⟩

/-! ## The process -/

/-- What `net::connect` returns under the receive outcomes `rs`, every later
receive timing out. -/
def connectResult (sign : Sign) (totp : Totp) (m : P2pManager) (conn : TcpStream) (c : PeerCandidate)
    (rs : List Recv) : Except ConnError Peer :=
  match (connect sign totp m conn c (rs ++ [.elapsed])).1 with
  | .done r => r
  | _ => .error .timeout

/-- The node, and how many events of the manager's application channel its
event loop has read. -/
structure System where
  node : Node
  received : Nat

/-- What can happen next in the process. -/
inductive SysEvent
  /-- A UI command, with what the world answers while it runs; the client
  handshake is `net::connect`, under the receive outcomes `recvs` gives each
  dialled connection and candidate. -/
  | command (env : CmdEnv) (recvs : TcpStream → PeerCandidate → List Recv) (req : Request)
  /-- A per-peer task reports a session. -/
  | internal (e : InternalEvent)
  /-- The UI drops its receiver. -/
  | uiClosed
  /-- `Node::start` reads the next event of the manager's application channel. -/
  | deliver
  /-- A presence loop calls `request_presence`. -/
  | requestPresence
  /-- Modelled from the spec: the p2p event loop reads a presence request. -/
  | presenceRequest
  /-- Modelled from the spec: the p2p event loop reads a presence response. -/
  | presenceResponse (meta : PeerMetadata)
  /-- Modelled from the spec: the p2p event loop accepts a TCP connection and
  runs `net::accept` on it under the receive outcomes `recvs`. -/
  | accept (conn : TcpStream) (recvs : List Recv)
  /-- A connected peer's handler closes its connection. -/
  | closed (id : PeerId)

/-- The manager after one call of the p2p event loop or of a presence loop. -/
def System.withP2p (s : System) (op : Op) : System :=
  { s with node := { s.node with p2p := s.node.p2p.apply op } }

/-- One event of the process. -/
def System.step (sign : Sign) (totp : Totp) (ctlUnknownErr : UInt32) (s : System) :
    SysEvent → System
  | .command env recvs req =>
    let env := { env with handshake := fun conn c => connectResult sign totp s.node.p2p conn c (recvs conn c) }
    { s with node := s.node.step ctlUnknownErr (.command env req) }
  | .internal e => { s with node := s.node.step ctlUnknownErr (.internal e) }
  | .uiClosed => { s with node := s.node.step ctlUnknownErr .uiClosed }
  | .deliver =>
    match s.node.p2p.appChannel[s.received]? with
    | some e => ⟨s.node.step ctlUnknownErr (.p2p e), s.received + 1⟩
    | none => s
  | .requestPresence => s.withP2p .requestPresence
  | .presenceRequest => s.withP2p .handlePresenceRequest
  | .presenceResponse meta => s.withP2p (.handlePeerDiscovered meta)
  | .accept conn recvs =>
    match (accept sign totp s.node.p2p conn recvs).1 with
    | .done (.ok peer) => s.withP2p (.handleNewConnection peer)
    | _ => s
  | .closed id => s.withP2p (.peerDisconnected id)

/-- A run of the process. -/
def System.run (sign : Sign) (totp : Totp) (ctlUnknownErr : UInt32) (s : System)
    (events : List SysEvent) : System :=
  events.foldl (System.step sign totp ctlUnknownErr) s

@[simp] theorem System.run_append_singleton (sign : Sign) (totp : Totp) (ctlUnknownErr : UInt32)
    (s : System) (events : List SysEvent) (e : SysEvent) :
    System.run sign totp ctlUnknownErr s (events ++ [e]) =
      (System.run sign totp ctlUnknownErr s events).step sign totp ctlUnknownErr e := by
  simp [System.run]

/-- The peer whose id a `Pair` command reads off its QR payload. -/
def SysEvent.pairedId : SysEvent → Option PeerId
  | .command env _ (.pair json) => (env.parseQr json).map (·.peer.id)
  | _ => none

/-! ## What the node's loop does to the peers it holds -/

namespace Node

@[simp] theorem handleCommand_events (env : CmdEnv) (n : Node) (req : Request) :
    (n.handleCommand env req).2.events = n.events := by
  cases req <;> simp only [handleCommand] <;> repeat' split
  all_goals rfl

@[simp] theorem handleCommand_serverHandlers (env : CmdEnv) (n : Node) (req : Request) :
    (n.handleCommand env req).2.serverHandlers = n.serverHandlers := by
  cases req <;> simp only [handleCommand] <;> repeat' split
  all_goals rfl

@[simp] theorem handleEvent_serverHandlers (ctlUnknownErr : UInt32) (n : Node) (e : InternalEvent) :
    (n.handleEvent ctlUnknownErr e).serverHandlers = n.serverHandlers := by
  cases e <;> simp only [handleEvent] <;> split <;> simp

@[simp] theorem handleEvent_p2p (ctlUnknownErr : UInt32) (n : Node) (e : InternalEvent) :
    (n.handleEvent ctlUnknownErr e).p2p = n.p2p := by
  cases e <;> simp only [handleEvent] <;> split <;> simp

/-- `handle_event` shows the UI session events only: it never announces a
discovered peer. -/
theorem handleEvent_discovered {ctlUnknownErr : UInt32} {n : Node} {e : InternalEvent}
    {meta : PeerMetadata} (h : .discovered meta ∈ (n.handleEvent ctlUnknownErr e).events) :
    .discovered meta ∈ n.events := by
  cases e with
  | inboundSession _ body _ =>
    simp only [handleEvent] at h
    split at h
    · simp only [sendEvent_fst, apply_ite CoreEvent.discovered] at h
      split at h <;> (try split at h) <;> simp_all
    · exact h
  | sessionResult _ body =>
    simp only [handleEvent] at h
    split at h
    · rename_i status _
      simp only [sendEvent_fst] at h
      split at h
      · cases status <;> simpa [resultEvent] using h
      · exact h
    · exact h

@[simp] theorem handleP2p_p2p (n : Node) (e : P2pEvent) : (n.handleP2p e).p2p = n.p2p := by
  cases e <;> simp [handleP2p]

end Node

@[simp] theorem System.withP2p_node_p2p (s : System) (op : Op) :
    (s.withP2p op).node.p2p = s.node.p2p.apply op := rfl

/-! ## The manager holds only paired peers -/

/-- Every peer the manager holds is one for which `P` holds: the known entries,
under their keys and in their metadata; the connected ids; the peers it
announces as discovered or reports connected on its application channel. The
registries also keep their own invariant. -/
structure PairedManager (P : PeerId → Prop) (m : P2pManager) : Prop where
  registry : P2pManager.RegistryInv m
  known : ∀ id c, m.knownPeers.lookup id = some c → P id ∧ P c.metadata.id
  connected : ∀ id ∈ m.connectedPeers, P id
  announced : ∀ meta, .peerDiscovered meta ∈ m.appChannel → P meta.id
  accepted : ∀ p, .peerConnected p ∈ m.appChannel → P p.id

section
variable {P : PeerId → Prop} {m : P2pManager}

theorem PairedManager.mono {Q : PeerId → Prop} (hi : PairedManager P m) (hPQ : ∀ id, P id → Q id) :
    PairedManager Q m where
  registry := hi.registry
  known id c h := (hi.known id c h).imp (hPQ _) (hPQ _)
  connected id h := hPQ _ (hi.connected id h)
  announced meta h := hPQ _ (hi.announced meta h)
  accepted p h := hPQ _ (hi.accepted p h)

/-- A discovered entry is filed under its metadata's id, a paired one. -/
theorem PairedManager.discovered (hi : PairedManager P m) {id : PeerId} {c : PeerCandidate}
    (h : m.discoveredPeers.lookup id = some c) : c.metadata.id = id ∧ P id :=
  ⟨(hi.registry.discovered_id id c h).2.1,
    (hi.known id _ (Option.get_mem (AList.lookup_isSome.mpr
      (hi.registry.discovered_known id (AList.lookup_isSome.mp (by simp [h])))))).1⟩

/-- The candidate `get_peer_candidate` returns carries a paired peer's metadata. -/
theorem PairedManager.candidate (hi : PairedManager P m) {id : PeerId} {c : PeerCandidate}
    (h : m.getPeerCandidate id = some c) : P c.metadata.id := by
  unfold P2pManager.getPeerCandidate at h
  cases hd : m.discoveredPeers.lookup id with
  | some c' =>
    obtain rfl : c' = c := by simpa [hd] using h
    exact (hi.discovered hd).1 ▸ (hi.discovered hd).2
  | none => exact (hi.known id c (by simpa [hd] using h)).2

/-- A call that keeps the known entries, connects no new id and sends nothing
on the application channel but disconnections. -/
theorem PairedManager.of_frame {m' : P2pManager} (hi : PairedManager P m)
    (hreg : P2pManager.RegistryInv m') (hk : m'.knownPeers = m.knownPeers)
    (hc : m'.connectedPeers ⊆ m.connectedPeers)
    (ha : ∀ e ∈ m'.appChannel, e ∈ m.appChannel ∨ ∃ id, e = .peerDisconnected id) :
    PairedManager P m' where
  registry := hreg
  known id c h := hi.known id c (hk ▸ h)
  connected id h := hi.connected id (hc h)
  announced meta h := (ha _ h).elim (hi.announced meta) fun ⟨_, h⟩ => nomatch h
  accepted p h := (ha _ h).elim (hi.accepted p) fun ⟨_, h⟩ => nomatch h

/-- `handle_peer_discovered` records and announces a peer only under a known,
hence paired, id. -/
theorem PairedManager.handlePeerDiscovered (hi : PairedManager P m) (meta : PeerMetadata) :
    PairedManager P (m.handlePeerDiscovered meta) := by
  rcases P2pManager.handlePeerDiscovered_cases m meta with h | ⟨known, -, -, hk, h⟩
  · rwa [h]
  have hP : P meta.id := (hi.known _ _ hk).1
  refine ⟨hi.registry.handlePeerDiscovered meta, fun id c hc => ?_, fun id hid => ?_,
    fun m hm => ?_, fun p hp => ?_⟩ <;> rw [h] at *
  · rcases P2pManager.lookup_insert_cases hc with ⟨rfl, rfl⟩ | ⟨hne, hc⟩
    · exact ⟨hP, hP⟩
    · exact hi.known id c (by rwa [AList.lookup_erase_ne hne] at hc)
  · exact hi.connected id hid
  · rw [List.mem_append, List.mem_singleton, P2pEvent.peerDiscovered.injEq] at hm
    exact hm.elim (hi.announced m) (· ▸ hP)
  · rw [List.mem_append, List.mem_singleton] at hp
    exact hp.elim (hi.accepted p) nofun

/-- `handle_new_connection` for a paired peer. -/
theorem PairedManager.handleNewConnection (hi : PairedManager P m) {p : Peer} (hp : P p.id) :
    PairedManager P (m.handleNewConnection p) where
  registry := hi.registry.apply (.handleNewConnection p)
  known := hi.known
  connected id h := (Finset.mem_insert.mp h).elim (· ▸ hp) (hi.connected id)
  announced meta h := (List.mem_append.mp h).elim (hi.announced meta) (by simp)
  accepted p' h := by
    rcases List.mem_append.mp h with h | h
    · exact hi.accepted p' h
    · obtain rfl := P2pEvent.peerConnected.inj (List.mem_singleton.mp h)
      exact hp

/-- `add_known_peer` of a candidate for a paired peer. -/
theorem PairedManager.addKnownPeer (hi : PairedManager P m) {c : PeerCandidate}
    (hc : P c.id ∧ P c.metadata.id) : PairedManager P (m.addKnownPeer c) where
  registry := hi.registry.addKnownPeer c
  known id c' h := by
    rcases P2pManager.lookup_insert_cases h with ⟨rfl, rfl⟩ | ⟨-, h⟩
    · exact hc
    · exact hi.known id c' h
  connected := hi.connected
  announced := hi.announced
  accepted := hi.accepted

/-- `connect_to_peer` connects only a discovered, hence paired, id. -/
theorem PairedManager.connectToPeer (hi : PairedManager P m) (id : PeerId)
    (dial : SocketAddr → Option TcpStream) (handshake : TcpStream → PeerCandidate → Except ConnError Peer) :
    PairedManager P (m.connectToPeer id dial handshake).2 := by
  rcases P2pManager.connectToPeer_result m id dial handshake with ⟨_, h⟩ | ⟨_, -, hd, h⟩ <;> rw [h]
  · exact hi
  refine ⟨?_, hi.known, fun id' h' => ?_, hi.announced, hi.accepted⟩
  · simpa [P2pManager.apply, h] using hi.registry.apply (.connectToPeer id dial handshake)
  · rcases Finset.mem_insert.mp h' with rfl | h'
    · obtain ⟨c, hc⟩ := Option.isSome_iff_exists.mp (AList.lookup_isSome.mpr hd)
      exact (hi.discovered hc).2
    · exact hi.connected id' h'

end

/-! ## The whole process holds only paired peers -/

/-- The manager holds only peers for which `P` holds, and so do the UI's
discovery events and the peers session handlers are spawned for. -/
structure SysInv (P : PeerId → Prop) (s : System) : Prop where
  manager : PairedManager P s.node.p2p
  shown : ∀ meta, .discovered meta ∈ s.node.events → P meta.id
  servers : ∀ p ∈ s.node.serverHandlers, P p.id
  clients : ∀ ps ∈ s.node.clientHandlers, P ps.1.id

/-- What `net::connect` returns as a `Peer` is `Peer::new(Client, conn, c.metadata)`. -/
theorem connectResult_ok {sign : Sign} {totp : Totp} {m : P2pManager} {conn : TcpStream}
    {c : PeerCandidate} {rs : List Recv} {p : Peer} (h : connectResult sign totp m conn c rs = .ok p) :
    p = Peer.new .client conn c.metadata := by
  unfold connectResult at h
  split at h
  · next hr => exact connect_ok_eq (h ▸ hr)
  · cases h

/-- A `Peer` `net::accept` returns carries the metadata of the candidate the
registries hold for the id its `Request` claimed. -/
theorem accept_ok_candidate {sign : Sign} {totp : Totp} {m : P2pManager} {conn : TcpStream}
    {rs : List Recv} {p : Peer} (h : (accept sign totp m conn rs).1 = .done (.ok p)) :
    ∃ id c, m.getPeerCandidate id = some c ∧ p = Peer.new .server conn c.metadata := by
  obtain ⟨r₁, r₂, rest, -, h₂⟩ := accept_of_ok h
  rcases acceptStep_eq_ok h₂ with h' | ⟨c, h₁, -, rfl, -⟩
  · exact absurd h' (acceptStep_awaitRequest_ne_ok r₁ p)
  obtain ⟨-, ⟨id, -, hc⟩, -⟩ := acceptStep_eq_awaitComplete h₁
  exact ⟨id, c, hc, rfl⟩

section
variable {P : PeerId → Prop} {s : System}

theorem SysInv.mono {Q : PeerId → Prop} (hi : SysInv P s) (hPQ : ∀ id, P id → Q id) : SysInv Q s :=
  ⟨hi.manager.mono hPQ, fun meta h => hPQ _ (hi.shown meta h), fun p h => hPQ _ (hi.servers p h),
    fun ps h => hPQ _ (hi.clients ps h)⟩

/-- A step that leaves the manager alone. -/
theorem SysInv.of_node {s' : System} (hi : SysInv P s) (hp : s'.node.p2p = s.node.p2p)
    (hev : ∀ meta, .discovered meta ∈ s'.node.events → .discovered meta ∈ s.node.events)
    (hsv : s'.node.serverHandlers = s.node.serverHandlers)
    (hcl : s'.node.clientHandlers = s.node.clientHandlers) : SysInv P s' :=
  ⟨hp ▸ hi.manager, fun meta h => hi.shown meta (hev meta h), fun p h => hi.servers p (hsv ▸ h),
    fun ps h => hi.clients ps (hcl ▸ h)⟩

/-- A step of the p2p event loop or of a presence loop. -/
theorem SysInv.withP2p (hi : SysInv P s) {op : Op} (h : PairedManager P (s.node.p2p.apply op)) :
    SysInv P (s.withP2p op) :=
  ⟨h, hi.shown, hi.servers, hi.clients⟩

variable (sign : Sign) (totp : Totp) (ctlUnknownErr : UInt32)

/-- A UI command: a `SendPeer` connects a discovered peer and spawns its client
handler for the `Peer` `net::connect` returns; a `Pair` records the peer of
its payload. -/
theorem SysInv.command (hi : SysInv P s) (env : CmdEnv) (recvs : TcpStream → PeerCandidate → List Recv)
    (req : Request) :
    SysInv (fun id => P id ∨ (SysEvent.command env recvs req).pairedId = some id)
      (s.step sign totp ctlUnknownErr (.command env recvs req)) := by
  cases req with
  | sendPeer id request =>
    refine SysInv.mono ?_ fun _ => .inl
    have hm := hi.manager.connectToPeer id env.dial
      fun conn c => connectResult sign totp s.node.p2p conn c (recvs conn c)
    simp only [System.step, Node.step, Node.handleCommand]
    split
    · next h =>
      rw [h] at hm
      exact ⟨hm, hi.shown, hi.servers, hi.clients⟩
    · next peer p2p h =>
      rw [h] at hm
      obtain ⟨c, conn, hc, hp⟩ := P2pManager.connectToPeer_ok (congrArg Prod.fst h)
      refine ⟨hm, hi.shown, hi.servers, fun ps hps => ?_⟩
      rcases List.mem_append.mp hps with hps | hps
      · exact hi.clients ps hps
      · rw [List.mem_singleton.mp hps, connectResult_ok hp, Peer.new_id]
        exact (hi.manager.discovered hc).1 ▸ (hi.manager.discovered hc).2
  | pair json =>
    simp only [System.step, Node.step, Node.handleCommand, SysEvent.pairedId]
    split
    · exact SysInv.mono (hi.of_node rfl (fun _ h => h) rfl rfl) fun _ => .inl
    · next payload hq =>
      split
      · exact SysInv.mono (hi.of_node rfl (fun _ h => h) rfl rfl) fun _ => .inl
      · next auth _ =>
        have hP : P payload.peer.id ∨ (env.parseQr json).map (·.peer.id) = some payload.peer.id :=
          .inr (by rw [hq]; rfl)
        split
        · exact ⟨(hi.manager.mono fun _ => .inl).addKnownPeer ⟨hP, hP⟩, fun meta h => .inl (hi.shown meta h),
            fun p h => .inl (hi.servers p h), fun ps h => .inl (hi.clients ps h)⟩
        · exact SysInv.mono (hi.of_node rfl (fun _ h => h) rfl rfl) fun _ => .inl
  | _ =>
    refine (hi.of_node ?_ ?_ ?_ ?_).mono fun _ => .inl <;>
      simp only [System.step, Node.step, Node.handleCommand] <;> (repeat' split) <;> simp

/-- `Node::start` reads the next event of the application channel: a
discovery it shows the UI and a connection it spawns a server handler for are
ones the manager announced, so paired. -/
theorem SysInv.deliver (hi : SysInv P s) : SysInv P (s.step sign totp ctlUnknownErr .deliver) := by
  simp only [System.step]
  split
  · next e he =>
    have hmem := List.getElem?_mem he
    have hm : PairedManager P (s.node.step ctlUnknownErr (.p2p e)).p2p := by
      simp only [Node.step, Node.handleP2p_p2p]; exact hi.manager
    cases e with
    | peerDiscovered meta =>
      simp only [Node.step, Node.handleP2p, Node.sendEvent_fst] at hm ⊢
      refine ⟨hm, fun meta' h => ?_, hi.servers, hi.clients⟩
      split at h
      · rcases List.mem_append.mp h with h | h
        · exact hi.shown meta' h
        · cases List.mem_singleton.mp h
          exact hi.manager.announced meta hmem
      · exact hi.shown meta' h
    | peerConnected p =>
      refine ⟨hm, hi.shown, fun p' h => ?_, hi.clients⟩
      rcases List.mem_append.mp h with h | h
      · exact hi.servers p' h
      · cases List.mem_singleton.mp h
        exact hi.manager.accepted p hmem
    | peerDisconnected _ => exact ⟨hi.manager, hi.shown, hi.servers, hi.clients⟩
  · exact hi

/-- One event of the process: every peer it then holds is one it held a paired
peer, or the peer a `Pair` command reads off its payload. -/
theorem SysInv.step (hi : SysInv P s) (ev : SysEvent) :
    SysInv (fun id => P id ∨ ev.pairedId = some id) (s.step sign totp ctlUnknownErr ev) := by
  cases ev with
  | command env recvs req => exact hi.command sign totp ctlUnknownErr env recvs req
  | internal e =>
    refine SysInv.mono ?_ fun _ => .inl
    exact hi.of_node (by simp [System.step, Node.step]) (fun _ h => Node.handleEvent_discovered h)
      (by simp [System.step, Node.step]) (by simp [System.step, Node.step])
  | uiClosed => exact SysInv.mono (hi.of_node rfl (fun _ h => h) rfl rfl) fun _ => .inl
  | deliver => exact SysInv.mono (hi.deliver sign totp ctlUnknownErr) fun _ => .inl
  | requestPresence =>
    refine SysInv.mono (hi.withP2p (hi.manager.of_frame (hi.manager.registry.apply _) rfl subset_rfl
      fun e h => .inl ?_)) fun _ => .inl
    simpa [P2pManager.apply, P2pManager.requestPresence] using h
  | presenceRequest =>
    refine SysInv.mono (hi.withP2p (hi.manager.of_frame (hi.manager.registry.apply _) rfl subset_rfl
      fun e h => .inl ?_)) fun _ => .inl
    simpa [P2pManager.apply, P2pManager.handlePresenceRequest] using h
  | presenceResponse meta =>
    exact SysInv.mono (hi.withP2p (hi.manager.handlePeerDiscovered meta)) fun _ => .inl
  | accept conn recvs =>
    refine SysInv.mono ?_ fun _ => .inl
    simp only [System.step]
    split
    · next peer h =>
      obtain ⟨id, c, hc, rfl⟩ := accept_ok_candidate h
      exact hi.withP2p (hi.manager.handleNewConnection (hi.manager.candidate hc))
    · exact hi
  | closed id =>
    exact SysInv.mono (hi.withP2p (hi.manager.of_frame (hi.manager.registry.apply _) rfl
      (Finset.erase_subset _ _) fun e h => (List.mem_append.mp h).imp_right
        fun h => ⟨id, List.mem_singleton.mp h⟩)) fun _ => .inl

/-- Every run: every peer the process holds is one it held before the run, or
the peer of a `Pair` command of the run. -/
theorem SysInv.run (hi : SysInv P s) (events : List SysEvent) :
    SysInv (fun id => P id ∨ id ∈ events.filterMap SysEvent.pairedId)
      (System.run sign totp ctlUnknownErr s events) := by
  induction events using List.reverseRecOn with
  | nil => exact hi.mono fun _ => .inl
  | append_singleton events ev ih =>
    rw [System.run_append_singleton]
    refine (ih.step sign totp ctlUnknownErr ev).mono fun id h => ?_
    rw [List.filterMap_append, List.mem_append]
    rcases h with (h | h) | h
    · exact .inl h
    · exact .inr (.inl h)
    · exact .inr (.inr (by simp [h]))

end

/-! ## From `Node::init` -/

theorem foldl_addKnownPeer_lookup {m : P2pManager} {known : List PeerCandidate} {id : PeerId}
    {c : PeerCandidate} (h : (known.foldl P2pManager.addKnownPeer m).knownPeers.lookup id = some c) :
    c ∈ known ∨ m.knownPeers.lookup id = some c := by
  induction known generalizing m with
  | nil => exact .inr h
  | cons a known ih =>
    rcases ih h with h | h
    · exact .inl (List.mem_cons_of_mem _ h)
    · rcases P2pManager.lookup_insert_cases h with ⟨-, rfl⟩ | ⟨-, h⟩
      · exact .inl (List.mem_cons_self _ _)
      · exact .inr h

/-- Loading the known peers writes `known_peers` only. -/
theorem foldl_addKnownPeer_eq (m : P2pManager) (known : List PeerCandidate) :
    known.foldl P2pManager.addKnownPeer m =
      { m with knownPeers := (known.foldl P2pManager.addKnownPeer m).knownPeers } := by
  induction known generalizing m with
  | nil => rfl
  | cons a known ih => rw [List.foldl_cons, ih]; rfl

theorem registryInv_foldl_addKnownPeer {m : P2pManager} (hi : P2pManager.RegistryInv m)
    (known : List PeerCandidate) : P2pManager.RegistryInv (known.foldl P2pManager.addKnownPeer m) := by
  induction known generalizing m with
  | nil => exact hi
  | cons a known ih => exact ih (hi.addKnownPeer a)

/-- `Node::init` holds only the peers of its configuration, when
`secret::to_known` yields candidates of configured peers filed under their own
ids. -/
theorem Node.init_sysInv (conf : NodeConfig) (device : DeviceType) (localIp : UInt32)
    (listenAddr : SocketAddr) (dedup : UInt32) {known : List PeerCandidate}
    (hknown : ∀ c ∈ known, c.metadata ∈ conf.knownPeers ∧ c.id = c.metadata.id) :
    SysInv (fun id => ∃ meta ∈ conf.knownPeers, meta.id = id)
      ⟨Node.init conf device localIp listenAddr dedup known, 0⟩ := by
  let p2pConf : P2pConfig := ⟨conf.id, device, conf.name, .v4 discoveryMulticast 50692, .v4 localIp 0⟩
  -- the node starts with no events, handlers or UI messages
  refine ⟨?_, fun _ h => (List.not_mem_nil _ h).elim, fun _ h => (List.not_mem_nil _ h).elim,
    fun _ h => (List.not_mem_nil _ h).elim⟩
  show PairedManager _ (known.foldl P2pManager.addKnownPeer (P2pManager.new p2pConf listenAddr dedup))
  have hreg := registryInv_foldl_addKnownPeer (P2pManager.registryInv_new p2pConf listenAddr dedup) known
  rw [foldl_addKnownPeer_eq]
  -- and its manager has discovered, connected to and accepted no one
  refine ⟨(foldl_addKnownPeer_eq _ known) ▸ hreg, fun id c h => ?_, fun _ h => (Finset.not_mem_empty _ h).elim,
    fun _ h => (List.not_mem_nil _ h).elim, fun _ h => (List.not_mem_nil _ h).elim⟩
  rcases foldl_addKnownPeer_lookup h with hc | h
  · obtain ⟨hmem, hid⟩ := hknown c hc
    exact ⟨⟨c.metadata, hmem, hid ▸ hreg.known_id id c h⟩, ⟨c.metadata, hmem, rfl⟩⟩
  · simp [P2pManager.new] at h

/-- In every run of the process from `Node::init`, every peer the node holds
anywhere (a known, discovered or connected id, a discovery shown to the UI, a
server or client session handler) is a peer of its starting configuration or
the peer of a `Pair` command of the run: the node never learns of, connects to
or accepts anyone it was not paired with. -/
theorem only_paired_peers (sign : Sign) (totp : Totp) (ctlUnknownErr : UInt32) (conf : NodeConfig)
    (device : DeviceType) (localIp : UInt32) (listenAddr : SocketAddr) (dedup : UInt32)
    (known : List PeerCandidate) (hknown : ∀ c ∈ known, c.metadata ∈ conf.knownPeers ∧ c.id = c.metadata.id)
    (events : List SysEvent) (id : PeerId) :
    let s := System.run sign totp ctlUnknownErr ⟨Node.init conf device localIp listenAddr dedup known, 0⟩ events
    (id ∈ s.node.p2p.knownPeers ∨ id ∈ s.node.p2p.discoveredPeers ∨ id ∈ s.node.p2p.connectedPeers ∨
      (∃ meta, .discovered meta ∈ s.node.events ∧ meta.id = id) ∨
      (∃ p ∈ s.node.serverHandlers, p.id = id) ∨ ∃ ps ∈ s.node.clientHandlers, ps.1.id = id) →
    (∃ meta ∈ conf.knownPeers, meta.id = id) ∨ id ∈ events.filterMap SysEvent.pairedId := by
  intro s hheld
  have hi := (Node.init_sysInv conf device localIp listenAddr dedup hknown).run sign totp ctlUnknownErr events
  rcases hheld with h | h | h | ⟨meta, h, rfl⟩ | ⟨p, h, rfl⟩ | ⟨ps, h, rfl⟩
  · obtain ⟨c, hc⟩ := Option.isSome_iff_exists.mp (AList.lookup_isSome.mpr h)
    exact (hi.manager.known id c hc).1
  · obtain ⟨c, hc⟩ := Option.isSome_iff_exists.mp (AList.lookup_isSome.mpr h)
    exact (hi.manager.discovered hc).2
  · exact hi.manager.connected id h
  · exact hi.shown meta h
  · exact hi.servers p h
  · exact hi.clients ps h

/-- A `Pair` of `b` whose QR payload parses, under the secret "h", and whose
write succeeds. -/
def pairB : SysEvent :=
  .command ⟨fun _ => none, fun _ _ => .error .addr, fun _ => some ⟨"h", peerB 4000⟩, fun _ => some ⟨[104]⟩,
    fun _ => true⟩ (fun _ _ => []) (.pair [])

/-- Node `a`, started with no known peer, pairs with `b`: `b` is then known, as
the peer of that `Pair`. -/
theorem only_paired_peers_pairB :
    ⟨[2]⟩ ∈ (System.run demoSign demoTotp 0
      ⟨Node.init (nodeA false).conf .desktop 0xC0A80001 demoAddr 0 [], 0⟩ [pairB]).node.p2p.knownPeers ∧
    ((∃ meta ∈ (nodeA false).conf.knownPeers, meta.id = ⟨[2]⟩) ∨
      (⟨[2]⟩ : PeerId) ∈ [pairB].filterMap SysEvent.pairedId) :=
  ⟨by decide, only_paired_peers demoSign demoTotp 0 (nodeA false).conf .desktop 0xC0A80001 demoAddr 0 []
    (by simp) [pairB] ⟨[2]⟩ (.inl (by decide))⟩

/-! ## The node's identity -/

/-- No call changes the manager's id or the metadata it advertises. -/
theorem apply_identity (m : P2pManager) (op : Op) :
    (m.apply op).id = m.id ∧ (m.apply op).metadata = m.metadata := by
  cases op with
  | connectToPeer id dial handshake =>
    rcases P2pManager.connectToPeer_result m id dial handshake with ⟨_, h⟩ | ⟨_, -, -, h⟩ <;>
      simp [P2pManager.apply, h]
  | handlePeerDiscovered meta =>
    rcases P2pManager.handlePeerDiscovered_cases m meta with h | ⟨_, -, -, -, h⟩ <;>
      simp [P2pManager.apply, h]
  | _ => exact ⟨rfl, rfl⟩

/-- The node's id `id`, in its configuration, in the configuration it last
wrote, and in its manager's id and advertised metadata. -/
def Node.Identity (id : PeerId) (n : Node) : Prop :=
  n.conf.id = id ∧ n.stored.id = id ∧ n.p2p.id = id ∧ n.p2p.metadata.id = id

theorem Node.Identity.step {id : PeerId} {n : Node} (h : n.Identity id) (ctlUnknownErr : UInt32)
    (i : Input) : (n.step ctlUnknownErr i).Identity id := by
  obtain ⟨hc, hs, hp, hm⟩ := h
  cases i with
  | command env req =>
    cases req with
    | sendPeer id' request =>
      have hid := apply_identity n.p2p (.connectToPeer id' env.dial env.handshake)
      simp only [Node.step, Node.handleCommand]
      split <;> next h =>
        simp only [P2pManager.apply, h] at hid
        exact ⟨hc, hs, hid.1.trans hp, hid.2 ▸ hm⟩
    | _ =>
      simp only [Node.step, Node.handleCommand]
      repeat' split
      all_goals first | exact ⟨hc, hs, hp, hm⟩ | exact ⟨hc, hc, hp, hm⟩
  | internal e =>
    cases e <;> simp only [Node.step, Node.handleEvent] <;> split <;>
      simp [Node.Identity, hc, hs, hp, hm]
  | p2p e => cases e <;> simp [Node.step, Node.handleP2p, Node.Identity, hc, hs, hp, hm]
  | uiClosed => exact ⟨hc, hs, hp, hm⟩

theorem Node.Identity.system {id : PeerId} {s : System} (h : s.node.Identity id) (sign : Sign)
    (totp : Totp) (ctlUnknownErr : UInt32) (ev : SysEvent) :
    (s.step sign totp ctlUnknownErr ev).node.Identity id := by
  have hop : ∀ op, (s.withP2p op).node.Identity id := fun op =>
    ⟨h.1, h.2.1, (apply_identity _ op).1.trans h.2.2.1,
      (congrArg PeerMetadata.id (apply_identity _ op).2).trans h.2.2.2⟩
  cases ev with
  | command env recvs req => exact h.step ctlUnknownErr _
  | internal e => exact h.step ctlUnknownErr _
  | uiClosed => exact h.step ctlUnknownErr _
  | deliver =>
    simp only [System.step]
    split
    · exact h.step ctlUnknownErr _
    · exact h
  | accept conn recvs =>
    simp only [System.step]
    split
    · exact hop _
    · exact h
  | _ => exact hop _

/-- In every run of the process from `Node::init`, the node's id is the one its
configuration started with: in `conf`, in the configuration it last wrote, and
in the id its manager signs handshakes with and the metadata it advertises.
`SetConfig` cannot change it. -/
theorem identity_fixed (sign : Sign) (totp : Totp) (ctlUnknownErr : UInt32) (conf : NodeConfig)
    (device : DeviceType) (localIp : UInt32) (listenAddr : SocketAddr) (dedup : UInt32)
    (known : List PeerCandidate) (events : List SysEvent) :
    let n := (System.run sign totp ctlUnknownErr
      ⟨Node.init conf device localIp listenAddr dedup known, 0⟩ events).node
    n.conf.id = conf.id ∧ n.stored.id = conf.id ∧ n.p2p.id = conf.id ∧ n.p2p.metadata.id = conf.id := by
  intro n
  induction events using List.reverseRecOn with
  | nil =>
    have hframe := foldl_addKnownPeer_eq (P2pManager.new
      ⟨conf.id, device, conf.name, .v4 discoveryMulticast 50692, .v4 localIp 0⟩ listenAddr dedup) known
    simp only [n, System.run, List.foldl_nil, Node.init]
    rw [hframe]
    simp [P2pManager.new]
  | append_singleton events ev ih =>
    simp only [n, System.run_append_singleton]
    exact Node.Identity.system ih sign totp ctlUnknownErr ev

end Flydrop.Core
