import Flydrop.Core.System
/-!
# What the node's loop passes on

`Node::start` reads the manager's application channel in order, through the
cursor `System.received`, and the channel only grows. Over every run of the
process:

* `Delivered.run`: the `Discovered` events the UI gets are, in order, among the
  discoveries of the entries read so far (one read while the UI is gone is
  lost), and the server handlers spawned are exactly the `PeerConnected`
  entries read so far, in order;
* `discovery_shown_once`: from `Node::init`, the UI is told of each peer's
  discovery at most once, since the manager announces each id once.
-/

namespace Flydrop.Core

open Flydrop.P2p

/-- The id a `Discovered` event shows the UI. -/
def CoreEvent.discoveredId : CoreEvent → Option PeerId
  | .discovered peer => some peer.id
  | _ => none

namespace Node

/-- `handle_command` sends nothing on the application channel. -/
@[simp] theorem handleCommand_appChannel (env : CmdEnv) (n : Node) (req : Request) :
    (n.handleCommand env req).2.p2p.appChannel = n.p2p.appChannel := by
  cases req with
  | sendPeer id request =>
    simp only [handleCommand]
    split <;> rename_i h <;> simpa [h] using P2pManager.connectToPeer_appChannel n.p2p id env.dial env.handshake
  | _ => simp only [handleCommand] <;> (repeat' split) <;> rfl

/-- `handle_event` only appends to `events`, and never a `Discovered`. -/
theorem handleEvent_events (ctlUnknownErr : UInt32) (n : Node) (e : InternalEvent) :
    ∃ extra, (n.handleEvent ctlUnknownErr e).events = n.events ++ extra ∧
      extra.filterMap CoreEvent.discoveredId = [] := by
  cases e with
  | inboundSession meta body tx =>
    simp only [handleEvent]
    split
    · by_cases hu : n.uiOpen <;> by_cases ha : n.conf.autoAccept <;>
        simp [sendEvent_fst, hu, ha, CoreEvent.discoveredId]
    · exact ⟨[], by simp⟩
  | sessionResult id body =>
    simp only [handleEvent]
    split
    · rename_i status _
      by_cases hu : n.uiOpen <;> cases status <;> simp [sendEvent_fst, hu, resultEvent, CoreEvent.discoveredId]
    · exact ⟨[], by simp⟩

end Node

/-- What the UI and the server handlers have been given: the entries of the
application channel read so far, in order. -/
structure Delivered (s : System) : Prop where
  received_le : s.received ≤ s.node.p2p.appChannel.length
  shown : (s.node.events.filterMap CoreEvent.discoveredId).Sublist
    ((s.node.p2p.appChannel.take s.received).filterMap P2pEvent.discoveredId)
  servers : s.node.serverHandlers = (s.node.p2p.appChannel.take s.received).filterMap P2pEvent.connectedPeer

section
variable {s : System}

/-- A step that reads nothing, only appends to the channel, shows the UI no
discovery and spawns no server handler. -/
theorem Delivered.of_frame {s' : System} (h : Delivered s) (hr : s'.received = s.received)
    (ha : ∃ sent, s'.node.p2p.appChannel = s.node.p2p.appChannel ++ sent)
    (he : ∃ extra, s'.node.events = s.node.events ++ extra ∧ extra.filterMap CoreEvent.discoveredId = [])
    (hs : s'.node.serverHandlers = s.node.serverHandlers) : Delivered s' := by
  obtain ⟨sent, ha⟩ := ha
  obtain ⟨extra, he, hnone⟩ := he
  have htake : s'.node.p2p.appChannel.take s'.received = s.node.p2p.appChannel.take s.received := by
    rw [ha, hr, List.take_append_of_le_length h.received_le]
  refine ⟨?_, ?_, ?_⟩
  · rw [hr, ha, List.length_append]; exact Nat.le_add_right_of_le h.received_le
  · rw [htake, he, List.filterMap_append, hnone, List.append_nil]; exact h.shown
  · rw [htake, hs]; exact h.servers

/-- A call of the p2p event loop or of a presence loop. -/
theorem Delivered.withP2p (h : Delivered s) (op : Op) : Delivered (s.withP2p op) :=
  h.of_frame rfl (let ⟨sent, hsent, _⟩ := P2pManager.appChannel_apply s.node.p2p op; ⟨sent, hsent⟩)
    ⟨[], by simp [System.withP2p], rfl⟩ rfl

variable (sign : Sign) (totp : Totp) (ctlUnknownErr : UInt32)

/-- `Node::start` reads the next entry: a discovery goes to the UI while it is
there, a connection gets its server handler. -/
theorem Delivered.deliver (h : Delivered s) : Delivered (s.step sign totp ctlUnknownErr .deliver) := by
  simp only [System.step]
  split
  · next e he =>
    have hlt := (List.getElem?_eq_some_iff.mp he).1
    have htake : s.node.p2p.appChannel.take (s.received + 1) = s.node.p2p.appChannel.take s.received ++ [e] := by
      rw [List.take_succ, he]; rfl
    refine ⟨by simpa [Node.step] using hlt, ?_, ?_⟩ <;>
      simp only [Node.step, Node.handleP2p_p2p, htake, List.filterMap_append]
    · cases e with
      | peerDiscovered meta =>
        simp only [Node.handleP2p, Node.sendEvent_fst]
        split
        · simpa [CoreEvent.discoveredId, P2pEvent.discoveredId] using h.shown
        · simpa [P2pEvent.discoveredId] using h.shown.trans (List.sublist_append_left _ _)
      | peerConnected p => simpa [Node.handleP2p, P2pEvent.discoveredId] using h.shown
      | peerDisconnected id => simpa [Node.handleP2p, P2pEvent.discoveredId] using h.shown
    · cases e <;> simp [Node.handleP2p, P2pEvent.connectedPeer, h.servers]
  · exact h

/-- Every event of the process. -/
theorem Delivered.step (h : Delivered s) (ev : SysEvent) : Delivered (s.step sign totp ctlUnknownErr ev) := by
  cases ev with
  | command env recvs req =>
    exact h.of_frame rfl ⟨[], by simp [System.step, Node.step]⟩ ⟨[], by simp [System.step, Node.step], rfl⟩
      (by simp [System.step, Node.step])
  | internal e =>
    exact h.of_frame rfl ⟨[], by simp [System.step, Node.step]⟩
      (Node.handleEvent_events ctlUnknownErr s.node e) (by simp [System.step, Node.step])
  | uiClosed => exact h.of_frame rfl ⟨[], by simp [System.step, Node.step]⟩ ⟨[], by simp [System.step, Node.step], rfl⟩ rfl
  | deliver => exact h.deliver sign totp ctlUnknownErr
  | requestPresence => exact h.withP2p _
  | presenceRequest => exact h.withP2p _
  | presenceResponse meta => exact h.withP2p _
  | accept conn recvs =>
    simp only [System.step]
    split
    · exact h.withP2p _
    · exact h
  | closed id => exact h.withP2p _

theorem Delivered.run (h : Delivered s) (events : List SysEvent) :
    Delivered (System.run sign totp ctlUnknownErr s events) := by
  induction events using List.reverseRecOn with
  | nil => exact h
  | append_singleton events ev ih => rw [System.run_append_singleton]; exact ih.step sign totp ctlUnknownErr ev

end

theorem Node.init_delivered (conf : NodeConfig) (device : DeviceType) (localIp : UInt32)
    (listenAddr : SocketAddr) (dedup : UInt32) (known : List PeerCandidate) :
    Delivered ⟨Node.init conf device localIp listenAddr dedup known, 0⟩ :=
  ⟨Nat.zero_le _, List.nil_sublist _, by simp [Node.init]⟩

/-- In every run of the process from `Node::init`, the discoveries the UI is
shown are, in order, among those the manager announced in the entries its loop
has read, and name each peer at most once; the server handlers spawned are
exactly the peers of the `PeerConnected` entries read, in order. -/
theorem discovery_shown_once (sign : Sign) (totp : Totp) (ctlUnknownErr : UInt32) (conf : NodeConfig)
    (device : DeviceType) (localIp : UInt32) (listenAddr : SocketAddr) (dedup : UInt32)
    (known : List PeerCandidate) (events : List SysEvent) :
    let s := System.run sign totp ctlUnknownErr ⟨Node.init conf device localIp listenAddr dedup known, 0⟩ events
    (s.node.events.filterMap CoreEvent.discoveredId).Sublist
      ((s.node.p2p.appChannel.take s.received).filterMap P2pEvent.discoveredId) ∧
    (s.node.events.filterMap CoreEvent.discoveredId).Nodup ∧
    s.node.serverHandlers = (s.node.p2p.appChannel.take s.received).filterMap P2pEvent.connectedPeer := by
  intro s
  have hd := (Node.init_delivered conf device localIp listenAddr dedup known).run sign totp ctlUnknownErr events
  -- the registries' invariant, which holds of every peer
  have hreg : SysInv (fun _ => True) ⟨Node.init conf device localIp listenAddr dedup known, 0⟩ :=
    ⟨⟨registryInv_foldl_addKnownPeer (P2pManager.registryInv_new _ _ _) known, fun _ _ _ => ⟨trivial, trivial⟩,
      fun _ _ => trivial, fun _ _ => trivial, fun _ _ => trivial⟩, fun _ _ => trivial, fun _ _ => trivial,
      fun _ _ => trivial⟩
  have hnodup := ((hreg.run sign totp ctlUnknownErr events).manager.registry.announced_nodup)
  exact ⟨hd.shown, hnodup.sublist (hd.shown.trans ((List.take_sublist _ _).filterMap _)), hd.servers⟩

end Flydrop.Core
