import Flydrop.P2p.Peer
/-!
# The discovery loop

The task `discovery::start` spawns: a `select!` between the application's
outbound events and the datagrams the multicast socket reads. A presence
request sets the `just_send_request` flag; while it is set, the next inbound
presence request from the socket's own address is dropped and clears it.

Around the loop, the network as the discovery protocol sees it: every request
the application sends may come back once as a loop-back echo from the
socket's own address, after any delay and in any order with the other
datagrams in flight, and other nodes' datagrams arrive at any time. Each
datagram in flight is tagged (as ghost state) with whether it is the echo of
one of this node's own requests.

The application may drop its sender, and the loop then stops when it next
wakes on that channel; the manager may drop `transport_rx`, and the loop then
stops at the next datagram it reads and would forward, which goes nowhere.

`Net.run_forwarded` says what the loop forwards in every run: everything it
reads except some presence requests from its own address, and the datagram it
read when it found `transport_rx` gone; `Net.run_dropped_le_requests`: at most
one of those presence requests per request it has sent.
-/

namespace Flydrop.P2p.Discovery

/-- `DiscoveryEvent` as this crate has it: a request carries no nonce. -/
inductive DiscoveryEvent
  | presenceRequest
  | presenceResponse (metadata : PeerMetadata)
  deriving DecidableEq, Repr

/-- A datagram: the event and the address it came from or is sent to. -/
abbrev Datagram := DiscoveryEvent × SocketAddr

/-- The state of the spawned task. -/
structure Loop where
  justSendRequest : Bool
  written : List Datagram
  forwarded : List Datagram
  running : Bool
  deriving DecidableEq

/-- The task as it starts. -/
def Loop.init : Loop := ⟨false, [], [], true⟩

/-- What wakes the `select!`: the application channel (`None` once every
sender is dropped), or the socket reader, with whether the manager's
`transport_rx` is still open. -/
inductive Wake
  | broadcast (event : Option DiscoveryEvent)
  | network (result : Option (Except CodecError Datagram)) (transportOpen : Bool)

/-- One turn of the loop in `discovery::start`, with the socket's own address
`localAddr` and the multicast group `addr`. -/
def loopStep (localAddr addr : SocketAddr) (s : Loop) : Wake → Loop
  | .broadcast none => { s with running := false }
  | .broadcast (some .presenceRequest) =>
    { s with justSendRequest := true, written := s.written ++ [(.presenceRequest, addr)] }
  | .broadcast (some (.presenceResponse m)) =>
    { s with written := s.written ++ [(.presenceResponse m, addr)] }
  | .network none _ => s
  | .network (some (.error _)) _ => s
  | .network (some (.ok frame)) transportOpen =>
    if s.justSendRequest ∧ frame.1 = .presenceRequest ∧ frame.2 = localAddr then
      { s with justSendRequest := false }
    else if transportOpen then { s with forwarded := s.forwarded ++ [frame] }
    else { s with running := false }

/-- A datagram reading a presence request from the socket's own address: the
only kind the loop ever drops. -/
def Datagram.ownRequestShaped (localAddr : SocketAddr) (d : Datagram) : Bool :=
  d.1 = .presenceRequest ∧ d.2 = localAddr

/-- What one read datagram does: the flag absorbs it (it is then shaped like
an own request), or it is forwarded, or the manager's `transport_rx` is gone
and the loop stops without forwarding it. -/
theorem loopStep_read (localAddr addr : SocketAddr) (s : Loop) (d : Datagram) (transportOpen : Bool) :
    (s.justSendRequest = true ∧ d.ownRequestShaped localAddr = true ∧
      loopStep localAddr addr s (.network (some (.ok d)) transportOpen) = { s with justSendRequest := false }) ∨
    (transportOpen = true ∧
      loopStep localAddr addr s (.network (some (.ok d)) transportOpen) = { s with forwarded := s.forwarded ++ [d] }) ∨
    (transportOpen = false ∧
      loopStep localAddr addr s (.network (some (.ok d)) transportOpen) = { s with running := false }) := by
  by_cases h : s.justSendRequest = true ∧ d.1 = .presenceRequest ∧ d.2 = localAddr
  · exact .inl ⟨h.1, by simp [Datagram.ownRequestShaped, h.2], by simp [loopStep, h]⟩
  · cases transportOpen
    · exact .inr (.inr ⟨rfl, by simp [loopStep, h]⟩)
    · exact .inr (.inl ⟨rfl, by simp [loopStep, h]⟩)

/-- A broadcast forwards nothing, and sets the flag only with a request it
writes. -/
theorem loopStep_broadcast (localAddr addr : SocketAddr) (s : Loop) (event : Option DiscoveryEvent) :
    (loopStep localAddr addr s (.broadcast event)).forwarded = s.forwarded ∧
      (loopStep localAddr addr s (.broadcast event)).justSendRequest.toNat +
          s.written.countP (·.1 = .presenceRequest) ≤
        s.justSendRequest.toNat + (loopStep localAddr addr s (.broadcast event)).written.countP (·.1 = .presenceRequest) := by
  rcases event with _ | _ | _ <;> simp [loopStep]
  omega

/-! ## The network around the loop -/

/-- A datagram in flight to this node, tagged with whether it is the echo of
one of this node's own presence requests. -/
structure Inbound where
  datagram : Datagram
  ownRequestEcho : Bool
  deriving DecidableEq

/-- The loop, the datagrams in flight to it, those it has read, in order, and
whether the manager still holds `transport_rx`. -/
structure Net where
  loop : Loop
  inFlight : List Inbound
  received : List Inbound
  transportOpen : Bool
  deriving DecidableEq

/-- What the environment does next. -/
inductive NetEvent
  | send (event : DiscoveryEvent) (echo : Bool)
  | arrive (d : Datagram)
  | deliver (i : Nat)
  | appClosed
  | transportClosed

/-- One event: the loop takes the application's next event and sends it (and
the group may echo it back from `localAddr`), another node's datagram takes
flight, the `i`-th datagram in flight reaches the reader, the loop finds every
application sender dropped, or the manager drops `transport_rx`. The loop only
acts while it runs. -/
def Net.step (localAddr addr : SocketAddr) (s : Net) : NetEvent → Net
  | .send event echo =>
    if s.loop.running then
      { s with
        loop := loopStep localAddr addr s.loop (.broadcast (some event))
        inFlight := s.inFlight ++
          if echo then [⟨(event, localAddr), decide (event = .presenceRequest)⟩] else [] }
    else s
  | .arrive d => { s with inFlight := s.inFlight ++ [⟨d, false⟩] }
  | .deliver i =>
    match s.inFlight[i]?, s.loop.running with
    | some d, true =>
      { s with
        loop := loopStep localAddr addr s.loop (.network (some (.ok d.datagram)) s.transportOpen)
        inFlight := s.inFlight.eraseIdx i
        received := s.received ++ [d] }
    | _, _ => s
  | .appClosed =>
    if s.loop.running then { s with loop := loopStep localAddr addr s.loop (.broadcast none) } else s
  | .transportClosed => { s with transportOpen := false }

/-- A run of the environment from a fresh loop. -/
def Net.run (localAddr addr : SocketAddr) (events : List NetEvent) : Net :=
  events.foldl (Net.step localAddr addr) ⟨Loop.init, [], [], true⟩

@[simp] theorem Net.run_append_singleton (localAddr addr : SocketAddr) (events : List NetEvent)
    (ev : NetEvent) :
    Net.run localAddr addr (events ++ [ev]) = (Net.run localAddr addr events).step localAddr addr ev :=
  List.foldl_append _ _ _ _

/-- The loop has stopped and the manager has dropped `transport_rx`: the one
state in which the last datagram read may have gone nowhere. -/
def Net.closedOnTransport (s : Net) : Bool := !s.loop.running && !s.transportOpen

/-- What one event does to the loop: nothing, a wake on the application
channel, or a read of a datagram from the flight. -/
theorem Net.step_cases (localAddr addr : SocketAddr) (s : Net) (ev : NetEvent) :
    ((s.step localAddr addr ev).loop = s.loop ∧ (s.step localAddr addr ev).received = s.received ∧
      (s.closedOnTransport = true → (s.step localAddr addr ev).closedOnTransport = true)) ∨
    (s.loop.running = true ∧ (s.step localAddr addr ev).received = s.received ∧
      (s.step localAddr addr ev).transportOpen = s.transportOpen ∧
      ∃ event, (s.step localAddr addr ev).loop = loopStep localAddr addr s.loop (.broadcast event)) ∨
    (s.loop.running = true ∧ ∃ d : Inbound, (s.step localAddr addr ev).received = s.received ++ [d] ∧
      (s.step localAddr addr ev).transportOpen = s.transportOpen ∧
      (s.step localAddr addr ev).loop = loopStep localAddr addr s.loop (.network (some (.ok d.datagram)) s.transportOpen)) := by
  cases ev with
  | send event echo =>
    by_cases hr : s.loop.running = true
    · refine .inr (.inl ⟨hr, ?_, ?_, some event, ?_⟩) <;> simp [Net.step, hr]
    · exact .inl (by simp [Net.step, hr])
  | arrive d => exact .inl ⟨rfl, rfl, id⟩
  | deliver i =>
    rcases hd : s.inFlight[i]? with _ | d
    · exact .inl (by simp [Net.step, hd])
    cases hr : s.loop.running
    · exact .inl (by simp [Net.step, hd, hr])
    · refine .inr (.inr ⟨rfl, d, ?_, ?_, ?_⟩) <;> simp [Net.step, hd, hr]
  | appClosed =>
    by_cases hr : s.loop.running = true
    · refine .inr (.inl ⟨hr, ?_, ?_, none, ?_⟩) <;> simp [Net.step, hr]
    · exact .inl (by simp [Net.step, hr])
  | transportClosed => exact .inl ⟨rfl, rfl, fun h => by simp_all [Net.closedOnTransport, Net.step]⟩

/-- What the loop has forwarded, against what it has read: the datagrams it
read, less some shaped like its own requests, and less the last one read if
the loop then stopped on a dropped `transport_rx`. -/
def ForwardsAllElse (localAddr : SocketAddr) (s : Net) : Prop :=
  s.loop.forwarded.Sublist (s.received.map (·.datagram)) ∧
    ∃ lost : List Datagram, lost.length ≤ 1 ∧ (s.closedOnTransport = false → lost = []) ∧
      (s.received.map (·.datagram)).filter (fun d => !d.ownRequestShaped localAddr) =
        s.loop.forwarded.filter (fun d => !d.ownRequestShaped localAddr) ++ lost

theorem ForwardsAllElse.step {localAddr : SocketAddr} (addr : SocketAddr) {s : Net}
    (h : ForwardsAllElse localAddr s) (ev : NetEvent) :
    ForwardsAllElse localAddr (s.step localAddr addr ev) := by
  obtain ⟨hsub, lost, hlen, hopen, hfilter⟩ := h
  rcases Net.step_cases localAddr addr s ev with
    ⟨hl, hrec, ht⟩ | ⟨hr, hrec, -, event, hl⟩ | ⟨hr, d, hrec, ht, hl⟩ <;> rw [ForwardsAllElse, hl, hrec]
  · -- nothing the loop sees changes; the receiver may close
    exact ⟨hsub, lost, hlen, fun hc => hopen (Bool.eq_false_iff.mpr fun h => by simp [ht h] at hc),
      hfilter⟩
  · -- a running loop has lost nothing, and a broadcast forwards nothing
    have hlost : lost = [] := hopen (by simp [Net.closedOnTransport, hr])
    subst hlost
    rw [(loopStep_broadcast localAddr addr s.loop event).1]
    exact ⟨hsub, [], by simp, fun _ => rfl, hfilter⟩
  · have hlost : lost = [] := hopen (by simp [Net.closedOnTransport, hr])
    subst hlost
    rw [List.append_nil] at hfilter
    rcases loopStep_read localAddr addr s.loop d.datagram s.transportOpen with
      ⟨-, hown, hstep⟩ | ⟨-, hstep⟩ | ⟨hclosed, hstep⟩ <;> rw [hstep]
    · -- the flag absorbs it
      exact ⟨by simpa using hsub.trans (List.sublist_append_left _ _), [], by simp, fun _ => rfl,
        by simp [List.filter_append, hfilter, hown]⟩
    · -- forwarded
      exact ⟨by simpa using hsub.append (List.Sublist.refl [d.datagram]), [], by simp, fun _ => rfl,
        by simp [List.filter_append, hfilter]⟩
    · -- read, and lost on the dropped receiver
      rw [hclosed] at hl hstep
      refine ⟨by simpa using hsub.trans (List.sublist_append_left _ _),
        [d.datagram].filter (fun d => !d.ownRequestShaped localAddr), List.length_filter_le _ _,
        fun hc => absurd hc (by simp [Net.closedOnTransport, hl, hstep, ht, hclosed]), ?_⟩
      simp [List.filter_append, hfilter]

/-- In every run the loop forwards every datagram it reads, in order, except
some presence requests from its own address, and, once it has stopped on a
dropped `transport_rx`, the datagram it read last. -/
theorem Net.run_forwarded (localAddr addr : SocketAddr) (events : List NetEvent) :
    ForwardsAllElse localAddr (Net.run localAddr addr events) := by
  induction events using List.reverseRecOn with
  | nil => exact ⟨List.Sublist.slnil, [], by simp, fun _ => rfl, rfl⟩
  | append_singleton events ev ih =>
    rw [Net.run_append_singleton]
    exact ih.step addr ev

/-- What the loop has read but not forwarded, with a request still awaiting
its echo, is paid for by the presence requests it has written (the flag each
request sets absorbs at most one datagram), and by one datagram once the loop
has stopped on a dropped `transport_rx`. -/
def DropsPaid (s : Net) : Prop :=
  s.received.length + s.loop.justSendRequest.toNat ≤
    s.loop.forwarded.length + s.loop.written.countP (·.1 = .presenceRequest) + s.closedOnTransport.toNat

theorem DropsPaid.step {localAddr : SocketAddr} (addr : SocketAddr) {s : Net} (h : DropsPaid s)
    (ev : NetEvent) : DropsPaid (s.step localAddr addr ev) := by
  unfold DropsPaid at *
  rcases Net.step_cases localAddr addr s ev with
    ⟨hl, hrec, ht⟩ | ⟨hr, hrec, ht, event, hl⟩ | ⟨hr, d, hrec, ht, hl⟩
  · -- nothing the loop sees changes; the receiver may close
    have hmono : s.closedOnTransport.toNat ≤ (s.step localAddr addr ev).closedOnTransport.toNat := by
      cases hs : s.closedOnTransport <;> simp [ht, hs]
    rw [hl, hrec]
    omega
  · -- a broadcast forwards nothing and pays for the flag it sets
    have hpay := (loopStep_broadcast localAddr addr s.loop event).2
    have hc : s.closedOnTransport = false := by simp [Net.closedOnTransport, hr]
    rw [hc, Bool.toNat_false] at h
    rw [hl, hrec, (loopStep_broadcast localAddr addr s.loop event).1]
    omega
  · have hc : s.closedOnTransport = false := by simp [Net.closedOnTransport, hr]
    rw [hc, Bool.toNat_false] at h
    rw [hrec, List.length_append, List.length_singleton]
    rcases loopStep_read localAddr addr s.loop d.datagram s.transportOpen with
      ⟨hj, -, hstep⟩ | ⟨-, hstep⟩ | ⟨hclosed, hstep⟩ <;> rw [hl, hstep]
    · -- the flag absorbs it
      rw [hj, Bool.toNat_true] at h
      simp only [Net.closedOnTransport, hl, hstep, Bool.toNat_false]
      omega
    · -- forwarded
      simp only [Net.closedOnTransport, hl, hstep, hr, List.length_append, List.length_singleton,
        Bool.not_true, Bool.false_and, Bool.toNat_false]
      omega
    · -- read, and lost on the dropped receiver
      rw [hclosed] at hl hstep
      simp only [Net.closedOnTransport, hl, hstep, ht, hclosed, Bool.not_false, Bool.and_self,
        Bool.toNat_true]
      omega

/-- The socket's own address: loopback, on the multicast port. -/
def localA : SocketAddr := .v4 0x7F000001 50692

/-- The multicast group `239.255.42.98:50692`. -/
def groupA : SocketAddr := .v4 0xEFFF2A62 50692

/-- The manager drops `transport_rx`; then a presence response from
`192.168.0.2` arrives and is read. -/
def lateResponse : List NetEvent :=
  [.transportClosed, .arrive (.presenceResponse ⟨⟨[2]⟩, .mobile, "b", .v4 0xC0A80002 4000⟩,
    .v4 0xC0A80002 50692), .deliver 0]

/-- The response goes nowhere and the loop stops: the one datagram the bound
allows beyond the requests. -/
example :
    (Net.run localA groupA lateResponse).received.length = 1 ∧
      (Net.run localA groupA lateResponse).loop.forwarded = [] ∧
      (Net.run localA groupA lateResponse).closedOnTransport = true := by
  decide

/-- Two requests go out before either echo returns; both echoes are read. -/
def twoEchoes : List NetEvent :=
  [.send .presenceRequest true, .send .presenceRequest true, .deliver 0, .deliver 0]

/-- A request goes out and its echo is lost; another node bound to the same
address sends a request, which is read. -/
def lostEchoSharedAddr : List NetEvent :=
  [.send .presenceRequest false, .arrive (.presenceRequest, localA), .deliver 0]

/-- In the first run the first echo clears the flag and the second reaches the
manager as if another node had asked. In the second the other node's request,
read while the flag is set, is dropped. -/
theorem own_echo_forwarded_other_request_dropped :
    (Net.run localA groupA twoEchoes).received.all (·.ownRequestEcho) ∧
      (Net.run localA groupA twoEchoes).loop.forwarded = [(.presenceRequest, localA)] ∧
      (Net.run localA groupA lostEchoSharedAddr).received = [⟨(.presenceRequest, localA), false⟩] ∧
      (Net.run localA groupA lostEchoSharedAddr).loop.forwarded = [] := by
  decide

end Flydrop.P2p.Discovery
