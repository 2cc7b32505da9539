import Flydrop.P2p.Manager
/-!
# The node's event loop

`Node` as a state record and the three handlers `Node::start` selects between:
`handle_command` for the UI's commands, `handle_event` for the sessions the
per-peer tasks report, and `handle_p2p` for the manager's events. Every ready
branch may be taken, so a run is any sequence of inputs.

What a handler waits for is given to it: the outcome of each dial and of the
client handshake, the parse of a pairing payload, `PairingAuthenticator::new`,
and whether `store.set` writes. Each channel is the list of what was sent on
it; a send on `events` fails once the UI has dropped its receiver. Spawned
tasks are recorded with what they were given.

`state.rs`, `api.rs` and `proto.rs` are not among the sources: `State`, the
command set and the session messages are rebuilt from their uses in
`node.rs`.

* `sessions_step`, `sessions_keys_run`: only an inbound session files an id in
  `state.sessions`, and only an `Ack` for the id removes it;
* `replies_answer_opened_sessions`: every reply is a response sent under the id
  of an inbound session, on the channel that session came with;
* `clientHandlers_run`, `clientHandlers_run_ids_nodup`: the sessions the node
  opens take the counter's successive values, distinct over any run of at
  most `UInt64.size` inputs.
-/

namespace Flydrop.Core

open Flydrop.P2p

/-- `CtlRequest`: what a session asks the remote node to do. -/
inductive CtlRequest
  | launchUri (uri : String)
  deriving DecidableEq, Repr

/-- `CtlResponse`: a session's answer. -/
inductive CtlResponse
  | success
  | error (code : UInt32)
  | cancel
  | waiting
  deriving DecidableEq, Repr

/-- `Ctl`: a session's payload. -/
inductive Ctl
  | request (r : CtlRequest)
  | response (r : CtlResponse)
  deriving DecidableEq, Repr

/-- `Session`: one request or response, tagged with its session id. -/
structure Session where
  id : UInt64
  ctl : Ctl
  deriving DecidableEq, Repr

/-- An `mpsc::Sender<Session>`: the reply channel of one inbound session. -/
structure ReplyChannel where
  handle : Nat
  deriving DecidableEq, Repr

/-- A `CancellationToken` and its clones. -/
structure CancellationToken where
  handle : Nat
  deriving DecidableEq, Repr

/-- `CoreEvent`, sent to the UI. -/
inductive CoreEvent
  | discovered (peer : PeerMetadata)
  | askLaunchUri (peer : PeerId) (session : UInt64) (uri : String)
  | launchUri (peer : PeerId) (session : UInt64) (uri : String)
  | peerCtlWaiting (peer : PeerId)
  | peerCtlSuccess (peer : PeerId)
  | peerCtlCancel (peer : PeerId)
  | peerCtlFailed (peer : PeerId)
  deriving DecidableEq, Repr

/-- `InternalEvent`, sent by the per-peer tasks. -/
inductive InternalEvent
  | inboundSession (meta : PeerMetadata) (body : Session) (tx : ReplyChannel)
  | sessionResult (id : PeerId) (body : Session)

/-- `conf::NodeConfig`. -/
structure NodeConfig where
  name : String
  id : PeerId
  knownPeers : Finset PeerMetadata
  autoAccept : Bool
  deriving DecidableEq

/-- `QrPayload`, what a pairing QR code carries. -/
structure QrPayload where
  secret : String
  peer : PeerMetadata

/-- `state::State`, the node's in-memory state. -/
structure State where
  sessionId : UInt64
  sessions : AList (fun _ : UInt64 => ReplyChannel)
  discoveryCt : Option CancellationToken

/-- `State::default()`. -/
def State.default : State := ⟨0, ∅, none⟩

/-- `cmd::Request`, the UI's commands. -/
inductive Request
  | startDiscovery
  | stopDiscovery
  | sendPeer (id : PeerId) (request : CtlRequest)
  | setConfig (new : NodeConfig)
  | pair (json : List UInt8)
  | ack (peer : PeerId) (session : UInt64) (ack : CtlResponse)

/-- `err::CoreError`, as far as `handle_command` raises it. -/
inductive CoreError
  | conn (e : ConnError)
  | json
  | pairing
  | store
  deriving DecidableEq, Repr

/-- What the world answers while one command runs. -/
structure CmdEnv where
  dial : SocketAddr → Option TcpStream
  handshake : TcpStream → PeerCandidate → Except ConnError Peer
  parseQr : List UInt8 → Option QrPayload
  newAuth : String → Option PairingAuthenticator
  storeSet : NodeConfig → Bool

/-- The node. -/
structure Node where
  conf : NodeConfig
  stored : NodeConfig
  p2p : P2pManager
  state : State
  uiOpen : Bool
  events : List CoreEvent
  replies : List (ReplyChannel × Session)
  clientHandlers : List (Peer × Session)
  serverHandlers : List Peer
  presenceLoops : List CancellationToken
  cancelled : List CancellationToken
  nextToken : Nat

namespace Node

/-- `self.events.send(e).await`: delivered while the UI holds the receiver. -/
def sendEvent (n : Node) (e : CoreEvent) : Node × Bool :=
  if n.uiOpen then ({ n with events := n.events ++ [e] }, true) else (n, false)

/-- `handle_command`. -/
def handleCommand (env : CmdEnv) (n : Node) : Request → Except CoreError Unit × Node
  | .startDiscovery =>
    match n.state.discoveryCt with
    | none =>
      let token : CancellationToken := ⟨n.nextToken⟩
      (.ok (),
        { n with
          state := { n.state with discoveryCt := some token }
          presenceLoops := n.presenceLoops ++ [token]
          nextToken := n.nextToken + 1 })
    | some _ => (.ok (), n)
  | .stopDiscovery =>
    let cancelled := match n.state.discoveryCt with
      | some token => n.cancelled ++ [token]
      | none => n.cancelled
    (.ok (), { n with state := { n.state with discoveryCt := none }, cancelled := cancelled })
  | .sendPeer id request =>
    match n.p2p.connectToPeer id env.dial env.handshake with
    | (.error e, p2p) => (.error (.conn e), { n with p2p := p2p })
    | (.ok peer, p2p) =>
      let sessionId := n.state.sessionId + 1
      (.ok (),
        { n with
          p2p := p2p
          state := { n.state with sessionId := sessionId }
          clientHandlers := n.clientHandlers ++ [(peer, ⟨sessionId, .request request⟩)] })
  | .setConfig new =>
    let new := { new with id := n.conf.id }
    if env.storeSet new then (.ok (), { n with conf := new, stored := new })
    else (.error .store, n)
  | .pair json =>
    match env.parseQr json with
    | none => (.error .json, n)
    | some payload =>
      match env.newAuth payload.secret with
      | none => (.error .pairing, n)
      | some auth =>
        let conf := { n.conf with knownPeers := insert payload.peer n.conf.knownPeers }
        if env.storeSet conf then
          (.ok (),
            { n with
              conf := conf
              stored := conf
              p2p := n.p2p.addKnownPeer (PeerCandidate.new payload.peer auth) })
        else (.error .store, { n with conf := conf })
  | .ack _ session ack =>
    match n.state.sessions.lookup session with
    | some tx =>
      (.ok (),
        { n with
          state := { n.state with sessions := n.state.sessions.erase session }
          replies := n.replies ++ [(tx, ⟨session, .response ack⟩)] })
    | none => (.ok (), n)

/-- The event `handle_event` shows the UI for a session result. -/
def resultEvent (id : PeerId) : CtlResponse → CoreEvent
  | .error _ => .peerCtlFailed id
  | .success => .peerCtlSuccess id
  | .cancel => .peerCtlCancel id
  | .waiting => .peerCtlWaiting id

/-- `handle_event`; `ctlUnknownErr` is `proto::CTL_UNKNOWN_ERR`. The
`sessions.get(..)` marked "drop" reads the map and changes nothing. -/
def handleEvent (ctlUnknownErr : UInt32) (n : Node) : InternalEvent → Node
  | .inboundSession meta body tx =>
    let n := { n with state := { n.state with sessions := n.state.sessions.insert body.id tx } }
    match body.ctl with
    | .request (.launchUri uri) =>
      let msg : CoreEvent × CtlResponse :=
        if n.conf.autoAccept then (.launchUri meta.id body.id uri, .success)
        else (.askLaunchUri meta.id body.id uri, .waiting)
      let sent := n.sendEvent msg.1
      let res := if sent.2 then msg.2 else .error ctlUnknownErr
      { sent.1 with replies := sent.1.replies ++ [(tx, ⟨body.id, .response res⟩)] }
    | _ => n
  | .sessionResult id body =>
    match body.ctl with
    | .response status => (n.sendEvent (resultEvent id status)).1
    | _ => n

/-- `handle_p2p`. -/
def handleP2p (n : Node) : P2pEvent → Node
  | .peerDiscovered peer => (n.sendEvent (.discovered peer)).1
  | .peerDisconnected _ => n
  | .peerConnected peer => { n with serverHandlers := n.serverHandlers ++ [peer] }

end Node

/-- What `Node::start` can wake up to, and the UI dropping its receiver. -/
inductive Input
  | command (env : CmdEnv) (req : Request)
  | internal (e : InternalEvent)
  | p2p (e : P2pEvent)
  | uiClosed

namespace Node

/-- One turn of `Node::start`. -/
def step (ctlUnknownErr : UInt32) (n : Node) : Input → Node
  | .command env req => (n.handleCommand env req).2
  | .internal e => n.handleEvent ctlUnknownErr e
  | .p2p e => n.handleP2p e
  | .uiClosed => { n with uiOpen := false }

/-- A run of the loop. -/
def run (ctlUnknownErr : UInt32) (n : Node) (inputs : List Input) : Node :=
  inputs.foldl (step ctlUnknownErr) n

@[simp] theorem run_append_singleton (ctlUnknownErr : UInt32) (n : Node) (inputs : List Input)
    (i : Input) : n.run ctlUnknownErr (inputs ++ [i]) = (n.run ctlUnknownErr inputs).step ctlUnknownErr i := by
  simp [run]

/-! ## What the handlers write -/

/-- A send on `events` writes nothing but `events`. -/
@[simp] theorem sendEvent_fst (n : Node) (e : CoreEvent) :
    (n.sendEvent e).1 = { n with events := if n.uiOpen then n.events ++ [e] else n.events } := by
  unfold sendEvent; split <;> rfl

/-- `handle_event` files an inbound session's reply channel under its id,
whatever the session asks and however it is answered. -/
theorem handleEvent_sessions (ctlUnknownErr : UInt32) (n : Node) (e : InternalEvent) :
    (n.handleEvent ctlUnknownErr e).state.sessions = match e with
      | .inboundSession _ body tx => n.state.sessions.insert body.id tx
      | .sessionResult _ _ => n.state.sessions := by
  cases e <;> simp only [handleEvent] <;> split <;> simp

@[simp] theorem handleEvent_sessionId (ctlUnknownErr : UInt32) (n : Node) (e : InternalEvent) :
    (n.handleEvent ctlUnknownErr e).state.sessionId = n.state.sessionId := by
  cases e <;> simp only [handleEvent] <;> split <;> simp

@[simp] theorem handleEvent_clientHandlers (ctlUnknownErr : UInt32) (n : Node) (e : InternalEvent) :
    (n.handleEvent ctlUnknownErr e).clientHandlers = n.clientHandlers := by
  cases e <;> simp only [handleEvent] <;> split <;> simp

@[simp] theorem handleP2p_state (n : Node) (e : P2pEvent) : (n.handleP2p e).state = n.state := by
  cases e <;> simp [handleP2p]

@[simp] theorem handleP2p_clientHandlers (n : Node) (e : P2pEvent) :
    (n.handleP2p e).clientHandlers = n.clientHandlers := by
  cases e <;> simp [handleP2p]

/-! ## What each input does to `state.sessions` -/

/-- Only two inputs touch `state.sessions`: an inbound session files its reply
channel under its id, and an `Ack` whose id is filed removes it. -/
theorem sessions_step (ctlUnknownErr : UInt32) (n : Node) (i : Input) :
    (n.step ctlUnknownErr i).state.sessions = n.state.sessions ∨
      (∃ meta body tx, i = .internal (.inboundSession meta body tx) ∧
        (n.step ctlUnknownErr i).state.sessions = n.state.sessions.insert body.id tx) ∨
      ∃ env peer session ack, i = .command env (.ack peer session ack) ∧
        (n.step ctlUnknownErr i).state.sessions = n.state.sessions.erase session := by
  cases i with
  | command env req =>
    cases req with
    | ack peer session ack =>
      simp only [step, handleCommand]
      split
      · exact .inr (.inr ⟨env, peer, session, ack, rfl, rfl⟩)
      · exact .inl rfl
    | _ =>
      left
      simp only [step, handleCommand]
      repeat' split
      all_goals rfl
  | internal e =>
    cases e with
    | inboundSession meta body tx =>
      exact .inr (.inl ⟨meta, body, tx, rfl, handleEvent_sessions ctlUnknownErr n _⟩)
    | sessionResult id body => exact .inl (handleEvent_sessions ctlUnknownErr n _)
  | p2p e => exact .inl (by simp [step])
  | uiClosed => exact .inl rfl

/-- Every id filed after a run was filed before it or is the id of an inbound
session the run delivered. -/
theorem sessions_keys_run (ctlUnknownErr : UInt32) (n : Node) (inputs : List Input) (id : UInt64)
    (h : id ∈ (n.run ctlUnknownErr inputs).state.sessions) :
    id ∈ n.state.sessions ∨
      ∃ meta body tx, .internal (.inboundSession meta body tx) ∈ inputs ∧ body.id = id := by
  induction inputs using List.reverseRecOn with
  | nil => exact .inl h
  | append_singleton inputs i ih =>
    have grow : ∀ {i'}, i' ∈ inputs → i' ∈ inputs ++ [i] := fun h => List.mem_append_left _ h
    rw [run_append_singleton] at h
    rcases sessions_step ctlUnknownErr (n.run ctlUnknownErr inputs) i with
      h' | ⟨meta, body, tx, rfl, h'⟩ | ⟨env, peer, session, ack, rfl, h'⟩ <;> rw [h'] at h
    · exact (ih h).imp_right fun ⟨m, b, t, hm, hb⟩ => ⟨m, b, t, grow hm, hb⟩
    · rcases (AList.mem_insert _).mp h with rfl | h
      · exact .inr ⟨meta, body, tx, List.mem_append_right _ (List.mem_singleton_self _), rfl⟩
      · exact (ih h).imp_right fun ⟨m, b, t, hm, hb⟩ => ⟨m, b, t, grow hm, hb⟩
    · exact (ih (AList.mem_erase.mp h).2).imp_right fun ⟨m, b, t, hm, hb⟩ => ⟨m, b, t, grow hm, hb⟩

/-! ## Where replies go -/

/-- Only two inputs send a reply: an inbound session the node answers at once,
on the channel it came with and under its id, and an `Ack` whose id is filed,
on the channel filed for it. -/
theorem replies_step (ctlUnknownErr : UInt32) (n : Node) (i : Input) :
    (n.step ctlUnknownErr i).replies = n.replies ∨
      (∃ meta body tx r, i = .internal (.inboundSession meta body tx) ∧
        (n.step ctlUnknownErr i).replies = n.replies ++ [(tx, ⟨body.id, .response r⟩)]) ∨
      ∃ env peer session ack tx, i = .command env (.ack peer session ack) ∧
        n.state.sessions.lookup session = some tx ∧
        (n.step ctlUnknownErr i).replies = n.replies ++ [(tx, ⟨session, .response ack⟩)] := by
  cases i with
  | command env req =>
    cases req with
    | ack peer session ack =>
      simp only [step, handleCommand]
      split
      · next tx h => exact .inr (.inr ⟨env, peer, session, ack, tx, rfl, h, rfl⟩)
      · exact .inl rfl
    | _ =>
      left
      simp only [step, handleCommand]
      repeat' split
      all_goals rfl
  | internal e =>
    cases e with
    | inboundSession meta body tx =>
      simp only [step, handleEvent]
      split
      · by_cases hu : n.uiOpen <;> exact .inr (.inl ⟨meta, body, tx, _, rfl, by simp [sendEvent, hu]; rfl⟩)
      · exact .inl rfl
    | sessionResult id body =>
      left
      simp only [step, handleEvent]
      split <;> simp
  | p2p e => exact .inl (by cases e <;> simp [step, handleP2p])
  | uiClosed => exact .inl rfl

/-- Every filed reply channel came, under its id, with an inbound session of
`inputs`, and every reply sent is a response that went out, under its id, on
such a channel. -/
structure RepliesOpened (inputs : List Input) (n : Node) : Prop where
  filed : ∀ id tx, n.state.sessions.lookup id = some tx →
    ∃ meta body, Input.internal (.inboundSession meta body tx) ∈ inputs ∧ body.id = id
  replied : ∀ p ∈ n.replies,
    (∃ meta body, Input.internal (.inboundSession meta body p.1) ∈ inputs ∧ body.id = p.2.id) ∧
      ∃ r, p.2.ctl = .response r

theorem RepliesOpened.step {inputs : List Input} {n : Node} (h : RepliesOpened inputs n)
    (ctlUnknownErr : UInt32) (i : Input) : RepliesOpened (inputs ++ [i]) (n.step ctlUnknownErr i) := by
  have grow : ∀ {tx id}, (∃ meta body, Input.internal (.inboundSession meta body tx) ∈ inputs ∧ body.id = id) →
      ∃ meta body, Input.internal (.inboundSession meta body tx) ∈ inputs ++ [i] ∧ body.id = id :=
    fun ⟨m, b, hm, hb⟩ => ⟨m, b, List.mem_append_left _ hm, hb⟩
  have self : i ∈ inputs ++ [i] := List.mem_append_right _ (List.mem_singleton_self _)
  constructor
  · intro id tx hl
    rcases sessions_step ctlUnknownErr n i with
      h' | ⟨meta, body, tx', rfl, h'⟩ | ⟨env, peer, session, ack, rfl, h'⟩ <;> rw [h'] at hl
    · exact grow (h.filed id tx hl)
    · by_cases hid : id = body.id
      · subst hid
        rw [AList.lookup_insert] at hl
        cases hl
        exact ⟨meta, body, self, rfl⟩
      · exact grow (h.filed id tx (by rwa [AList.lookup_insert_ne hid] at hl))
    · by_cases hid : id = session
      · subst hid; simp at hl
      · exact grow (h.filed id tx (by rwa [AList.lookup_erase_ne hid] at hl))
  · intro p hp
    rcases replies_step ctlUnknownErr n i with
      h' | ⟨meta, body, tx, r, rfl, h'⟩ | ⟨env, peer, session, ack, tx, rfl, hl, h'⟩ <;> rw [h'] at hp
    · exact (h.replied p hp).imp_left grow
    all_goals rcases List.mem_append.mp hp with hp | hp
    · exact (h.replied p hp).imp_left grow
    · rw [List.mem_singleton.mp hp]
      exact ⟨⟨meta, body, self, rfl⟩, r, rfl⟩
    · exact (h.replied p hp).imp_left grow
    · rw [List.mem_singleton.mp hp]
      exact ⟨grow (h.filed session tx hl), ack, rfl⟩

/-- From a node with no session filed and no reply sent, every reply of every
run is a response, sent under the id of an inbound session of the run on the
channel that session came with: the node answers no session that was not
opened to it, though an `Ack` may answer another peer's session of that id. -/
theorem replies_answer_opened_sessions (ctlUnknownErr : UInt32) (n : Node) (inputs : List Input)
    (hs : n.state.sessions = ∅) (hr : n.replies = []) :
    ∀ p ∈ (n.run ctlUnknownErr inputs).replies,
      (∃ meta body, Input.internal (.inboundSession meta body p.1) ∈ inputs ∧ body.id = p.2.id) ∧
        ∃ r, p.2.ctl = .response r := by
  suffices h : RepliesOpened inputs (n.run ctlUnknownErr inputs) from h.replied
  induction inputs using List.reverseRecOn with
  | nil => exact ⟨fun id tx h => by simp [run, hs] at h, fun p hp => by simp [run, hr] at hp⟩
  | append_singleton inputs i ih => rw [run_append_singleton]; exact ih.step ctlUnknownErr i

/-! ## Outbound session ids -/

/-- Only a `SendPeer` whose `connect_to_peer` succeeds spawns a client handler:
its session takes the counter's next value, and the counter moves to it. -/
theorem clientHandlers_step (ctlUnknownErr : UInt32) (n : Node) (i : Input) :
    ((n.step ctlUnknownErr i).clientHandlers = n.clientHandlers ∧
        (n.step ctlUnknownErr i).state.sessionId = n.state.sessionId) ∨
      ∃ peer request, (n.step ctlUnknownErr i).clientHandlers =
          n.clientHandlers ++ [(peer, ⟨n.state.sessionId + 1, .request request⟩)] ∧
        (n.step ctlUnknownErr i).state.sessionId = n.state.sessionId + 1 := by
  cases i with
  | command env req =>
    cases req with
    | sendPeer id request =>
      simp only [step, handleCommand]
      split
      · exact .inl ⟨rfl, rfl⟩
      · exact .inr ⟨_, request, rfl, rfl⟩
    | _ =>
      left
      simp only [step, handleCommand]
      repeat' split
      all_goals constructor <;> trivial
  | internal e => exact .inl ⟨by simp [step], by simp [step]⟩
  | p2p e => exact .inl ⟨by simp [step], by simp [step]⟩
  | uiClosed => exact .inl ⟨rfl, rfl⟩

theorem toNat_add_one (x : UInt64) : (x + 1).toNat = (x.toNat + 1) % UInt64.size := rfl

/-- Over a run, the client handlers spawned carry the counter's next values in
order, at most one per input, and the counter ends at the last of them; the
counter is a `u64`, so its values wrap modulo `UInt64.size`. -/
theorem clientHandlers_run (ctlUnknownErr : UInt32) (n : Node) (inputs : List Input) :
    ∃ new : List (Peer × Session),
      (n.run ctlUnknownErr inputs).clientHandlers = n.clientHandlers ++ new ∧
      new.length ≤ inputs.length ∧
      new.map (·.2.id.toNat) =
        (List.range new.length).map (fun k => (n.state.sessionId.toNat + k + 1) % UInt64.size) ∧
      (n.run ctlUnknownErr inputs).state.sessionId.toNat =
        (n.state.sessionId.toNat + new.length) % UInt64.size := by
  induction inputs using List.reverseRecOn with
  | nil => exact ⟨[], by simp [run], le_rfl, rfl, (Nat.mod_eq_of_lt n.state.sessionId.toNat_lt_size).symm⟩
  | append_singleton inputs i ih =>
    obtain ⟨new, hch, hlen, hids, hsid⟩ := ih
    rw [run_append_singleton]
    rcases clientHandlers_step ctlUnknownErr (n.run ctlUnknownErr inputs) i with
      ⟨hc, hs⟩ | ⟨peer, request, hc, hs⟩
    · exact ⟨new, by rw [hc, hch], by simp; omega, hids, by rw [hs, hsid]⟩
    have hnext : ((n.run ctlUnknownErr inputs).state.sessionId + 1).toNat =
        (n.state.sessionId.toNat + new.length + 1) % UInt64.size := by
      rw [toNat_add_one, hsid, Nat.mod_add_mod]
    refine ⟨new ++ [(peer, ⟨(n.run ctlUnknownErr inputs).state.sessionId + 1, .request request⟩)],
      by rw [hc, hch, List.append_assoc], by simp; omega, ?_, ?_⟩
    · simp only [List.map_append, List.length_append, List.length_singleton, List.range_succ, hids,
        List.map_singleton, hnext]
    · rw [hs, hnext, List.length_append, List.length_singleton, Nat.add_assoc]

/-- Fewer than `UInt64.size` of them, the counter's next values are distinct. -/
theorem nextIds_nodup (s : Nat) {m : Nat} (hm : m ≤ UInt64.size) :
    ((List.range m).map fun k => (s + k + 1) % UInt64.size).Nodup := by
  refine (List.nodup_range m).map_on fun x hx y hy h => ?_
  simp only [List.mem_range] at hx hy
  simp only [UInt64.size] at hm h
  omega

/-- In every run of at most `UInt64.size` inputs, the client handlers it spawns
carry pairwise distinct session ids: a node never reuses its own ids, whereas
two peers' counters can give the same one. -/
theorem clientHandlers_run_ids_nodup (ctlUnknownErr : UInt32) (n : Node) (inputs : List Input)
    (h : inputs.length ≤ UInt64.size) :
    ∃ new : List (Peer × Session),
      (n.run ctlUnknownErr inputs).clientHandlers = n.clientHandlers ++ new ∧
      (new.map (·.2.id)).Nodup := by
  obtain ⟨new, hch, hlen, hids, -⟩ := clientHandlers_run ctlUnknownErr n inputs
  have hnodup := nextIds_nodup n.state.sessionId.toNat (hlen.trans h)
  rw [← hids] at hnodup
  exact ⟨new, hch, (List.map_map UInt64.toNat _ new ▸ hnodup).of_map _⟩

end Node

/-- Node `c` on `192.168.0.3`. -/
def peerC : PeerMetadata := ⟨⟨[3]⟩, .desktop, "c", .v4 0xC0A80003 4000⟩

/-- Node `a` with its UI open, after `State::default()`. -/
def nodeA (autoAccept : Bool) : Node :=
  let conf : NodeConfig := ⟨"a", ⟨[1]⟩, ∅, autoAccept⟩
  ⟨conf, conf, pairedA, State.default, true, [], [], [], [], [], [], 0⟩

/-- A command environment in which nothing outside the node answers. -/
def quietEnv : CmdEnv := ⟨fun _ => none, fun _ _ => .error .addr, fun _ => none, fun _ => none,
  fun _ => false⟩

/-- `a` after discovering `b` and `c`, both paired with it under the secret "h". -/
def nodeABC : Node :=
  { nodeA false with
    p2p := ((pairedA.addKnownPeer (PeerCandidate.new peerC ⟨[104]⟩)).handlePeerDiscovered
      (peerB 4000)).handlePeerDiscovered peerC }

/-- A command environment in which every dial and every client handshake
succeeds. -/
def dialEnv : CmdEnv := ⟨fun _ => some ⟨1⟩, fun conn c => .ok (Peer.new .client conn c.metadata),
  fun _ => none, fun _ => none, fun _ => false⟩

/-- `a` asks `b`, then `c`, to open a URI. -/
def twoSends : List Input :=
  [.command dialEnv (.sendPeer ⟨[2]⟩ (.launchUri "x")), .command dialEnv (.sendPeer ⟨[3]⟩ (.launchUri "y"))]

theorem clientHandlers_run_ids_nodup_twoSends :
    (nodeABC.run 0 twoSends).clientHandlers.map (·.2.id) = [1, 2] ∧
      ∃ new : List (Peer × Session),
        (nodeABC.run 0 twoSends).clientHandlers = nodeABC.clientHandlers ++ new ∧
          (new.map (·.2.id)).Nodup :=
  ⟨by decide, Node.clientHandlers_run_ids_nodup 0 nodeABC twoSends (by decide)⟩

theorem sessions_keys_run_launch :
    (1 : UInt64) ∈ (nodeA false).state.sessions ∨
      ∃ meta body tx, .internal (.inboundSession meta body tx) ∈
        [Input.internal (.inboundSession (peerB 4000) ⟨1, .request (.launchUri "https://x")⟩ ⟨10⟩)] ∧ body.id = 1 :=
  Node.sessions_keys_run 0 (nodeA false)
    [.internal (.inboundSession (peerB 4000) ⟨1, .request (.launchUri "https://x")⟩ ⟨10⟩)] 1 (by decide)

/-- `b` and `c`, each numbering its sessions from 1, ask `a` to open a URI;
the user accepts `b`'s request. -/
def crossedSessions : List Input :=
  [.internal (.inboundSession (peerB 4000) ⟨1, .request (.launchUri "https://x")⟩ ⟨10⟩),
    .internal (.inboundSession peerC ⟨1, .request (.launchUri "https://y")⟩ ⟨11⟩),
    .command quietEnv (.ack ⟨[2]⟩ 1 .success)]

/-- The UI is asked about `b`'s session 1, and the `Ack` answering it goes out
on the reply channel of `c`'s session 1. -/
theorem ack_answers_other_peers_session :
    CoreEvent.askLaunchUri ⟨[2]⟩ 1 "https://x" ∈ ((nodeA false).run 0 crossedSessions).events ∧
      ((nodeA false).run 0 crossedSessions).replies.getLast? =
        some (⟨11⟩, ⟨1, .response .success⟩) := by
  decide

theorem replies_answer_opened_sessions_crossed :
    ∃ meta body, Input.internal (.inboundSession meta body ⟨11⟩) ∈ crossedSessions ∧ body.id = 1 :=
  (Node.replies_answer_opened_sessions 0 (nodeA false) crossedSessions rfl rfl
    (⟨11⟩, ⟨1, .response .success⟩) (by decide)).1

/-- `b` asks `a` to open a URI in session 1. -/
def launchSession : List Input :=
  [.internal (.inboundSession (peerB 4000) ⟨1, .request (.launchUri "https://x")⟩ ⟨10⟩)]

/-- `b` opens session 2 with a body `handle_event` does not handle. -/
def unhandledSession : List Input :=
  [.internal (.inboundSession (peerB 4000) ⟨2, .response .success⟩ ⟨10⟩)]

/-- With auto-accept on, an inbound session is answered `Success` at once and
its entry stays in `state.sessions`; an inbound body the node does not handle
is never answered and its entry stays too. -/
theorem answered_sessions_stay_filed :
    ((nodeA true).run 0 launchSession).replies = [(⟨10⟩, ⟨1, .response .success⟩)] ∧
      ((nodeA true).run 0 launchSession).state.sessions.lookup 1 = some ⟨10⟩ ∧
      ((nodeA false).run 0 unhandledSession).replies = [] ∧
      ((nodeA false).run 0 unhandledSession).state.sessions.lookup 2 = some ⟨10⟩ := by
  decide

end Flydrop.Core
