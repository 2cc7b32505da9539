import Flydrop.P2p.Net
/-!
# `connect_to_peer` with the client handshake

`P2pManager::connect_to_peer` run with `net::connect` as its handshake: what it
returns for every registry state, every outcome of each TCP connect and every
run of the handshake, and what it writes.

* `connect_error_not_raisedByManager`: `net::connect` fails only with its own
  errors, never with the `Dup`, `NotFound` or `Addr` of `connect_to_peer`;
* `dialAddrs_of_none`, `dialAddrs_first`, `first_answer`: the address loop
  runs the handshake on the first address whose TCP connect succeeds, and
  returns `Addr` when none does;
* `connect_to_peer_outcomes`: the whole contract, assembled from these and
  `connectToPeer_result`.
-/

namespace Flydrop.P2p

/-- The errors `connect_to_peer` raises itself, around the handshake. -/
def ConnError.raisedByManager : ConnError → Bool
  | .dup | .notFound | .addr => true
  | _ => false

/-! ## The errors of the handshake -/

theorem runRole_invariant {σ : Type} {step : σ → Recv → σ × List Connection} (P : σ → Prop)
    (hstep : ∀ s r, P s → P (step s r).1) {s : σ} (hs : P s) (rs : List Recv) :
    P (runRole step s rs).1 := by
  induction rs generalizing s with
  | nil => exact hs
  | cons r rs ih => exact ih (hstep s r hs)

section
variable {sign : Sign} {totp : Totp} {conn : TcpStream} {peer : PeerCandidate}
  {manager : P2pManager}

/-- A receive that ends the client in an error either found it ended so, or
raised one of the handshake's own errors. -/
theorem connectStep_error {s : ConnectState} {r : Recv} {e : ConnError}
    (h : (connectStep sign totp conn peer s r).1 = .done (.error e)) :
    s = .done (.error e) ∨ e.raisedByManager = false := by
  rcases s with _ | _ | _ <;> rcases r with _ | _ | _ | (_ | tag | _ | _ | _) <;>
    simp only [connectStep] at h
  all_goals first
    | exact .inl h
    | (cases h <;> exact .inr rfl)
    | (split at h <;> first | (cases h; exact .inr rfl) | cases h)

/-- `net::connect` fails only with the handshake's own errors. -/
theorem connect_error_not_raisedByManager {rs : List Recv} {e : ConnError}
    (h : (connect sign totp manager conn peer rs).1 = .done (.error e)) :
    e.raisedByManager = false := by
  have key : ∀ e, (runRole (connectStep sign totp conn peer) .awaitResponse rs).1 = .done (.error e) →
      e.raisedByManager = false :=
    runRole_invariant (fun s => ∀ e, s = .done (.error e) → e.raisedByManager = false)
      (fun _ _ hs e he => (connectStep_error he).elim (hs e) id) (fun _ h => by cases h) rs
  exact key e h

end

/-! ## The address loop -/

section
variable {m : P2pManager} {id : PeerId} {c : PeerCandidate} {dial : SocketAddr → Option TcpStream}
  {handshake : TcpStream → PeerCandidate → Except ConnError Peer}

/-- When no TCP connect succeeds the loop returns `Addr` and writes nothing. -/
theorem dialAddrs_of_none {addrs : List SocketAddr} (h : ∀ a ∈ addrs, dial a = none) :
    m.dialAddrs id c dial handshake addrs = (.error .addr, m) := by
  induction addrs with
  | nil => rfl
  | cons a addrs ih =>
    simp only [P2pManager.dialAddrs, h a (List.mem_cons_self _ _)]
    exact ih fun a' ha' => h a' (List.mem_cons_of_mem _ ha')

/-- The loop runs the handshake on the first address whose TCP connect
succeeds and returns what it returns. -/
theorem dialAddrs_first {pre post : List SocketAddr} {addr : SocketAddr} {conn : TcpStream}
    (hpre : ∀ a ∈ pre, dial a = none) (haddr : dial addr = some conn) :
    m.dialAddrs id c dial handshake (pre ++ addr :: post) =
      match handshake conn c with
      | .error e => (.error e, m)
      | .ok peer => (.ok peer, { m with connectedPeers := insert id m.connectedPeers }) := by
  induction pre with
  | nil => cases hh : handshake conn c <;> simp only [List.nil_append, P2pManager.dialAddrs, haddr, hh]
  | cons a pre ih =>
    simp only [List.cons_append, P2pManager.dialAddrs, hpre a (List.mem_cons_self _ _)]
    exact ih fun a' ha' => hpre a' (List.mem_cons_of_mem _ ha')

end

/-- Either every TCP connect fails, or some address is the first that answers. -/
theorem first_answer (dial : SocketAddr → Option TcpStream) (addrs : List SocketAddr) :
    (∀ a ∈ addrs, dial a = none) ∨
      ∃ pre addr post conn, addrs = pre ++ addr :: post ∧ (∀ a ∈ pre, dial a = none) ∧
        dial addr = some conn := by
  induction addrs with
  | nil => exact .inl (by simp)
  | cons a addrs ih =>
    cases ha : dial a with
    | some conn => exact .inr ⟨[], a, addrs, conn, rfl, by simp, ha⟩
    | none =>
      rcases ih with hall | ⟨pre, addr, post, conn, rfl, hpre, haddr⟩
      · exact .inl (List.forall_mem_cons.mpr ⟨ha, hall⟩)
      · exact .inr ⟨a :: pre, addr, post, conn, rfl, List.forall_mem_cons.mpr ⟨ha, hpre⟩, haddr⟩

/-! ## The contract -/

/-- What `connect_to_peer` writes to the registries: nothing on an error, and
`id` into `connected_peers` with a `Peer`. -/
theorem connectToPeer_writes (m : P2pManager) (id : PeerId) (dial : SocketAddr → Option TcpStream)
    (handshake : TcpStream → PeerCandidate → Except ConnError Peer) :
    (∀ e, (m.connectToPeer id dial handshake).1 = .error e →
      (m.connectToPeer id dial handshake).2.knownPeers = m.knownPeers ∧
      (m.connectToPeer id dial handshake).2.discoveredPeers = m.discoveredPeers ∧
      (m.connectToPeer id dial handshake).2.connectedPeers = m.connectedPeers) ∧
    ∀ p, (m.connectToPeer id dial handshake).1 = .ok p →
      (m.connectToPeer id dial handshake).2.knownPeers = m.knownPeers ∧
      (m.connectToPeer id dial handshake).2.discoveredPeers = m.discoveredPeers ∧
      (m.connectToPeer id dial handshake).2.connectedPeers = insert id m.connectedPeers := by
  rcases P2pManager.connectToPeer_result m id dial handshake with ⟨_, h⟩ | ⟨_, -, -, h⟩ <;>
    exact ⟨fun _ he => by simp_all, fun _ hp => by simp_all⟩

/-- `connect_to_peer(id)`, whatever each TCP connect and each run of
`net::connect` answers: `Dup` exactly for a connected id; then `NotFound`
exactly for an undiscovered one; then the handshake's result on the first
address that answers, and `Addr` exactly when none does. An error writes
nothing, and a `Peer` only adds `id` to `connected_peers`. -/
theorem connect_to_peer_outcomes (sign : Sign) (totp : Totp) (m : P2pManager) (id : PeerId)
    (dial : SocketAddr → Option TcpStream)
    (handshake : TcpStream → PeerCandidate → Except ConnError Peer)
    (hhandshake : ∀ conn c, ∃ rs, (connect sign totp m conn c rs).1 = .done (handshake conn c)) :
    let r := m.connectToPeer id dial handshake
    (r.1 = .error .dup ↔ id ∈ m.connectedPeers) ∧
    (id ∉ m.connectedPeers → (r.1 = .error .notFound ↔ id ∉ m.discoveredPeers)) ∧
    (∀ c, id ∉ m.connectedPeers → m.discoveredPeers.lookup id = some c →
      (∀ pre addr post conn, c.addrs = pre ++ addr :: post → (∀ a ∈ pre, dial a = none) →
        dial addr = some conn → r.1 = handshake conn c) ∧
      (r.1 = .error .addr ↔ ∀ a ∈ c.addrs, dial a = none)) ∧
    (∀ e, r.1 = .error e → r.2.knownPeers = m.knownPeers ∧
      r.2.discoveredPeers = m.discoveredPeers ∧ r.2.connectedPeers = m.connectedPeers) ∧
    ∀ p, r.1 = .ok p → r.2.knownPeers = m.knownPeers ∧
      r.2.discoveredPeers = m.discoveredPeers ∧ r.2.connectedPeers = insert id m.connectedPeers := by
  intro r
  have hwrites := connectToPeer_writes m id dial handshake
  by_cases hconn : id ∈ m.connectedPeers
  · have hr : r = (.error .dup, m) := if_pos hconn
    exact ⟨by simp [hr, hconn], (absurd hconn ·), fun _ h => absurd hconn h, hwrites⟩
  rcases hc : m.discoveredPeers.lookup id with _ | c
  · have hr : r = (.error .notFound, m) := by simp [r, P2pManager.connectToPeer, hconn, hc]
    exact ⟨by simp [hr, hconn], fun _ => by simp [hr, AList.lookup_eq_none.mp hc],
      fun _ _ h => by simp at h, hwrites⟩
  have hr : r = m.dialAddrs id c dial handshake c.addrs := by
    simp [r, P2pManager.connectToPeer, hconn, hc]
  have hfirst : ∀ pre addr post conn, c.addrs = pre ++ addr :: post → (∀ a ∈ pre, dial a = none) →
      dial addr = some conn → r.1 = handshake conn c := by
    intro pre addr post conn hsplit hpre haddr
    rw [hr, hsplit, dialAddrs_first hpre haddr]
    split <;> simp_all
  have herr : ∀ e, r.1 = .error e →
      (e = .addr ∧ ∀ a ∈ c.addrs, dial a = none) ∨ e.raisedByManager = false := by
    intro e he
    rcases first_answer dial c.addrs with hall | ⟨pre, addr, post, conn, hsplit, hpre, haddr⟩
    · rw [hr, dialAddrs_of_none hall] at he
      exact .inl ⟨(Except.error.inj he).symm, hall⟩
    · obtain ⟨_, hrs⟩ := hhandshake conn c
      rw [← hfirst pre addr post conn hsplit hpre haddr, he] at hrs
      exact .inr (connect_error_not_raisedByManager hrs)
  have hd : id ∈ m.discoveredPeers := AList.lookup_isSome.mp (by simp [hc])
  refine ⟨⟨fun h => ?_, (absurd · hconn)⟩, fun _ => ⟨fun h => ?_, (absurd hd ·)⟩,
    fun c' _ hc' => ?_, hwrites⟩
  · rcases herr _ h with ⟨h, -⟩ | h <;> cases h
  · rcases herr _ h with ⟨h, -⟩ | h <;> cases h
  obtain rfl : c = c' := Option.some.inj hc'
  refine ⟨hfirst, fun h => ?_, fun hall => by rw [hr, dialAddrs_of_none hall]⟩
  rcases herr _ h with ⟨-, hall⟩ | h
  · exact hall
  · cases h

/-- Node `a` after hearing `b` at port 4000. -/
def discoveredA : P2pManager := pairedA.handlePeerDiscovered (peerB 4000)

/-- `a` dials `b`, whose listener answers, and the handshake times out: the
timeout is what `connect_to_peer` returns. -/
theorem connect_to_peer_timeout :
    (discoveredA.connectToPeer ⟨[2]⟩ (fun _ => some ⟨1⟩) (fun _ _ => .error .timeout)).1 =
      .error .timeout :=
  ((connect_to_peer_outcomes demoSign demoTotp discoveredA ⟨[2]⟩ _ _
      (fun _ _ => ⟨[.elapsed], rfl⟩)).2.2.1 _ (by decide) rfl).1
    [] _ [] ⟨1⟩ rfl (by simp) rfl

end Flydrop.P2p
