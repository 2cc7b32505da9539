import Flydrop.P2p.Manager
/-!
# The connection handshake

`net::connect` (the client) and `net::accept` (the server) as machines that
take one receive outcome at a time and answer with the frames they send. Each
role has two receives, each bounded by the one-second timeout; a receive
yields a frame, a codec error, the end of the stream, or the timeout.

`hmac::sign` is HMAC-SHA256 and is taken as given; `hmac.rs` is not among the
sources, so `verify` follows the spec: it succeeds exactly when a fresh tag
equals the one received. The key is the ASCII of the TOTP code the role
derives from the candidate's pairing secret at that moment (`Totp`). Sends are
taken to succeed: the `?` on `frame.send` is not modelled.
-/

namespace Flydrop.P2p

/-- `proto::Connection`, the frames of the handshake. -/
inductive Connection
  | request (id : PeerId) (tag : List UInt8)
  | response (tag : List UInt8)
  | completeRequest
  | completeResponse
  | failure (code : UInt32)
  deriving DecidableEq, Repr

/-- What `timeout(1s, frame.next()).await` yields. -/
inductive Recv
  | elapsed
  | closed
  | error (e : CodecError)
  | frame (c : Connection)
  deriving DecidableEq, Repr

/-- `TIMEOUT_ERR`. -/
def timeoutErr : UInt32 := 2001

/-- `NOT_FOUND_ERR`. -/
def notFoundErr : UInt32 := 2002

/-- `AUTH_ERR`. -/
def authErr : UInt32 := 2003

/-- `hmac::sign(key, msg)`, the tag as bytes. -/
abbrev Sign := List UInt8 → List UInt8 → List UInt8

/-- `auth.generate().unwrap().as_bytes()`: the ASCII of the TOTP code for the
current window, the HMAC key of a handshake. -/
abbrev Totp := PairingAuthenticator → List UInt8

/-- Modelled from the spec: `hmac::verify(key, msg, tag)` succeeds iff a
freshly signed tag equals `tag`. -/
def verify (sign : Sign) (key msg tag : List UInt8) : Bool := decide (tag = sign key msg)

@[simp] theorem verify_iff (sign : Sign) (key msg tag : List UInt8) :
    verify sign key msg tag = true ↔ tag = sign key msg := decide_eq_true_iff

/-! ## The client: `net::connect` -/

/-- Where `net::connect` stands between receives. -/
inductive ConnectState
  | awaitResponse
  | awaitComplete
  | done (result : Except ConnError Peer)

/-- The `Request` `net::connect` sends before its first receive. -/
def connectRequest (sign : Sign) (totp : Totp) (manager : P2pManager) (peer : PeerCandidate) :
    Connection :=
  .request manager.id (sign (totp peer.auth) manager.id.bytes)

/-- One receive of `net::connect` with the candidate `peer` for the server, and
the frames it sends in reaction. -/
def connectStep (sign : Sign) (totp : Totp) (conn : TcpStream) (peer : PeerCandidate) :
    ConnectState → Recv → ConnectState × List Connection
  | .awaitResponse, .elapsed => (.done (.error .timeout), [.failure timeoutErr])
  | .awaitResponse, .closed => (.done (.error .disconnect), [])
  | .awaitResponse, .error e => (.done (.error (.codec e)), [])
  | .awaitResponse, .frame (.response tag) =>
    if verify sign (totp peer.auth) peer.id.bytes tag then (.awaitComplete, [.completeRequest])
    else (.done (.error .auth), [.failure authErr])
  | .awaitResponse, .frame (.failure code) => (.done (.error (.failure code)), [])
  | .awaitResponse, .frame _ => (.done (.error .msg), [])
  | .awaitComplete, .elapsed => (.done (.error .timeout), [.failure timeoutErr])
  | .awaitComplete, .closed => (.done (.error .disconnect), [])
  | .awaitComplete, .error e => (.done (.error (.codec e)), [])
  | .awaitComplete, .frame .completeResponse =>
    (.done (.ok (Peer.new .client conn peer.metadata)), [])
  | .awaitComplete, .frame _ => (.done (.error .msg), [])
  | .done r, _ => (.done r, [])

/-! ## The server: `net::accept` -/

/-- Where `net::accept` stands between receives; after the `Response` it
holds the candidate it authenticated the client with. -/
inductive AcceptState
  | awaitRequest
  | awaitComplete (peer : PeerCandidate)
  | done (result : Except ConnError Peer)

/-- One receive of `net::accept` on the node whose manager is `manager`, and
the frames it sends in reaction. -/
def acceptStep (sign : Sign) (totp : Totp) (manager : P2pManager) (conn : TcpStream) :
    AcceptState → Recv → AcceptState × List Connection
  | .awaitRequest, .elapsed => (.done (.error .timeout), [.failure timeoutErr])
  | .awaitRequest, .closed => (.done (.error .disconnect), [])
  | .awaitRequest, .error e => (.done (.error (.codec e)), [])
  | .awaitRequest, .frame (.request id tag) =>
    match manager.getPeerCandidate id with
    | none => (.done (.error .notFound), [.failure notFoundErr])
    | some peer =>
      let key := totp peer.auth
      if verify sign key peer.id.bytes tag then
        (.awaitComplete peer, [.response (sign key manager.id.bytes)])
      else (.done (.error .auth), [.failure authErr])
  | .awaitRequest, .frame (.failure code) => (.done (.error (.failure code)), [])
  | .awaitRequest, .frame _ => (.done (.error .msg), [])
  | .awaitComplete _, .elapsed => (.done (.error .timeout), [.failure timeoutErr])
  | .awaitComplete _, .closed => (.done (.error .disconnect), [])
  | .awaitComplete _, .error e => (.done (.error (.codec e)), [])
  | .awaitComplete peer, .frame .completeRequest =>
    (.done (.ok (Peer.new .server conn peer.metadata)), [.completeResponse])
  | .awaitComplete _, .frame _ => (.done (.error .msg), [])
  | .done r, _ => (.done r, [])

/-! ## Whole handshakes -/

/-- A role fed one receive outcome after another: its last state and every
frame it sent, in order. -/
def runRole {σ : Type} (step : σ → Recv → σ × List Connection) : σ → List Recv → σ × List Connection
  | s, [] => (s, [])
  | s, r :: rs =>
    let p := step s r
    let q := runRole step p.1 rs
    (q.1, p.2 ++ q.2)

/-- `net::connect` under the receive outcomes `rs`. -/
def connect (sign : Sign) (totp : Totp) (manager : P2pManager) (conn : TcpStream)
    (peer : PeerCandidate) (rs : List Recv) : ConnectState × List Connection :=
  let q := runRole (connectStep sign totp conn peer) .awaitResponse rs
  (q.1, connectRequest sign totp manager peer :: q.2)

/-- `net::accept` under the receive outcomes `rs`. -/
def accept (sign : Sign) (totp : Totp) (manager : P2pManager) (conn : TcpStream)
    (rs : List Recv) : AcceptState × List Connection :=
  runRole (acceptStep sign totp manager conn) .awaitRequest rs

theorem runRole_of_absorbing {σ : Type} {step : σ → Recv → σ × List Connection} {s : σ}
    (h : ∀ r, step s r = (s, [])) (rs : List Recv) : runRole step s rs = (s, []) := by
  induction rs with
  | nil => rfl
  | cons r rs ih => simp [runRole, h, ih]

/-! ## What one receive can do -/

section
variable {sign : Sign} {totp : Totp} {conn : TcpStream} {peer : PeerCandidate}
  {manager : P2pManager}

theorem connectStep_eq_awaitComplete {s : ConnectState} {r : Recv}
    (h : (connectStep sign totp conn peer s r).1 = .awaitComplete) :
    s = .awaitResponse ∧ r = .frame (.response (sign (totp peer.auth) peer.id.bytes)) ∧
      (connectStep sign totp conn peer s r).2 = [.completeRequest] := by
  rcases s with _ | _ | _ <;> rcases r with _ | _ | _ | (_ | tag | _ | _ | _) <;>
    simp [connectStep] at h ⊢
  split at h <;> simp_all

theorem connectStep_eq_ok {s : ConnectState} {r : Recv} {p : Peer}
    (h : (connectStep sign totp conn peer s r).1 = .done (.ok p)) :
    s = .done (.ok p) ∨
      s = .awaitComplete ∧ r = .frame .completeResponse ∧ p = Peer.new .client conn peer.metadata := by
  rcases s with _ | _ | _ <;> rcases r with _ | _ | _ | (_ | tag | _ | _ | _) <;>
    simp [connectStep] at h ⊢
  all_goals first | (split at h <;> simp_all) | simp_all

/-- The client sends `CompleteRequest` only on entering `awaitComplete`; every
other frame it sends in reaction to a receive is a `Failure`. -/
theorem connectStep_sent {s : ConnectState} {r : Recv} {f : Connection}
    (h : f ∈ (connectStep sign totp conn peer s r).2) :
    f = .completeRequest ∧ (connectStep sign totp conn peer s r).1 = .awaitComplete ∨
      ∃ code, f = .failure code := by
  rcases s with _ | _ | _ <;> rcases r with _ | _ | _ | (_ | tag | _ | _ | _) <;>
    simp [connectStep] at h ⊢
  all_goals first | (split at h <;> simp_all) | simp_all

/-- From `awaitComplete` every receive ends the client. -/
theorem connectStep_awaitComplete_done (sign : Sign) (totp : Totp) (conn : TcpStream)
    (peer : PeerCandidate) (r : Recv) :
    ∃ res, (connectStep sign totp conn peer .awaitComplete r).1 = .done res := by
  rcases r with _ | _ | _ | (_ | _ | _ | _ | _) <;> simp [connectStep]

/-- From `awaitResponse` a receive ends the client or moves it to `awaitComplete`. -/
theorem connectStep_awaitResponse_cases (sign : Sign) (totp : Totp) (conn : TcpStream)
    (peer : PeerCandidate) (r : Recv) :
    (∃ res, (connectStep sign totp conn peer .awaitResponse r).1 = .done res) ∨
      (connectStep sign totp conn peer .awaitResponse r).1 = .awaitComplete := by
  rcases r with _ | _ | _ | (_ | tag | _ | _ | _) <;> simp [connectStep]
  split <;> simp

theorem acceptStep_eq_awaitComplete {s : AcceptState} {r : Recv} {c : PeerCandidate}
    (h : (acceptStep sign totp manager conn s r).1 = .awaitComplete c) :
    s = .awaitRequest ∧ (∃ id, r = .frame (.request id (sign (totp c.auth) c.id.bytes)) ∧
      manager.getPeerCandidate id = some c) ∧
      (acceptStep sign totp manager conn s r).2 = [.response (sign (totp c.auth) manager.id.bytes)] := by
  rcases s with _ | _ | _ <;> rcases r with _ | _ | _ | (⟨id, tag⟩ | _ | _ | _ | _) <;>
    simp [acceptStep] at h ⊢
  rcases hc : manager.getPeerCandidate id with _ | peer <;> simp only [hc] at h ⊢
  · simp at h
  · by_cases ht : tag = sign (totp peer.auth) peer.id.bytes <;> simp [ht] at h ⊢
    subst h
    exact ⟨⟨id, ⟨rfl, rfl⟩, hc⟩, rfl⟩

theorem acceptStep_eq_ok {s : AcceptState} {r : Recv} {p : Peer}
    (h : (acceptStep sign totp manager conn s r).1 = .done (.ok p)) :
    s = .done (.ok p) ∨ ∃ c, s = .awaitComplete c ∧ r = .frame .completeRequest ∧
      p = Peer.new .server conn c.metadata ∧
      (acceptStep sign totp manager conn s r).2 = [.completeResponse] := by
  rcases s with _ | _ | _ <;> rcases r with _ | _ | _ | (⟨id, tag⟩ | _ | _ | _ | _) <;>
    simp [acceptStep] at h ⊢
  all_goals first | (split at h <;> (try split at h) <;> simp_all) | simp_all

theorem acceptStep_sent {s : AcceptState} {r : Recv} {f : Connection}
    (h : f ∈ (acceptStep sign totp manager conn s r).2) :
    (∃ c, (acceptStep sign totp manager conn s r).1 = .awaitComplete c ∧
        f = .response (sign (totp c.auth) manager.id.bytes)) ∨
      (∃ p, (acceptStep sign totp manager conn s r).1 = .done (.ok p) ∧ f = .completeResponse) ∨
      ∃ code, f = .failure code := by
  rcases s with _ | _ | _ <;> rcases r with _ | _ | _ | (⟨id, tag⟩ | _ | _ | _ | _) <;>
    simp [acceptStep] at h ⊢
  all_goals first | (split at h <;> (try split at h) <;> simp_all) | simp_all

theorem acceptStep_awaitComplete_done (sign : Sign) (totp : Totp) (manager : P2pManager)
    (conn : TcpStream) (c : PeerCandidate) (r : Recv) :
    ∃ res, (acceptStep sign totp manager conn (.awaitComplete c) r).1 = .done res := by
  rcases r with _ | _ | _ | (_ | _ | _ | _ | _) <;> simp [acceptStep]

theorem acceptStep_awaitRequest_cases (sign : Sign) (totp : Totp) (manager : P2pManager)
    (conn : TcpStream) (r : Recv) :
    (∃ res, (acceptStep sign totp manager conn .awaitRequest r).1 = .done res) ∨
      ∃ c, (acceptStep sign totp manager conn .awaitRequest r).1 = .awaitComplete c := by
  rcases r with _ | _ | _ | (⟨id, tag⟩ | _ | _ | _ | _) <;> simp [acceptStep]
  split
  · simp
  · split <;> simp

theorem getPeerCandidate_mem {m : P2pManager} {id : PeerId} {c : PeerCandidate}
    (h : m.getPeerCandidate id = some c) : id ∈ m.discoveredPeers ∨ id ∈ m.knownPeers := by
  unfold P2pManager.getPeerCandidate at h
  cases hd : m.discoveredPeers.lookup id with
  | some _ => exact .inl (AList.lookup_isSome.mp (by simp [hd]))
  | none => exact .inr (AList.lookup_isSome.mp (by simp_all))

theorem runRole_cons_fst {σ : Type} (step : σ → Recv → σ × List Connection) (s : σ) (r : Recv)
    (rs : List Recv) : (runRole step s (r :: rs)).1 = (runRole step (step s r).1 rs).1 := rfl

/-- A role that has ended by its second receive, in a state it then keeps: a
run that ends in `fin`, which neither the start nor a first receive reaches,
is decided by its first two receives. -/
theorem runRole_of_two {σ : Type} {step : σ → Recv → σ × List Connection} {s₀ fin : σ}
    {rs : List Recv} (h : (runRole step s₀ rs).1 = fin) (Ended : σ → Prop)
    (absorbing : ∀ u, Ended u → ∀ r, step u r = (u, []))
    (ended : ∀ r₁ r₂, Ended (step (step s₀ r₁).1 r₂).1) (h₀ : s₀ ≠ fin)
    (h₁ : ∀ r, (step s₀ r).1 ≠ fin) :
    ∃ r₁ r₂ rest, rs = r₁ :: r₂ :: rest ∧ (step (step s₀ r₁).1 r₂).1 = fin := by
  rcases rs with _ | ⟨r₁, _ | ⟨r₂, rest⟩⟩
  · exact absurd h h₀
  · exact absurd h (h₁ r₁)
  · rw [runRole_cons_fst, runRole_cons_fst, runRole_of_absorbing (absorbing _ (ended r₁ r₂))] at h
    exact ⟨r₁, r₂, rest, rfl, h⟩

theorem connectStep_ended (r₁ r₂ : Recv) : ∃ res,
    (connectStep sign totp conn peer (connectStep sign totp conn peer .awaitResponse r₁).1 r₂).1 =
      .done res := by
  rcases connectStep_awaitResponse_cases sign totp conn peer r₁ with ⟨res, h⟩ | h <;> rw [h]
  · exact ⟨res, rfl⟩
  · exact connectStep_awaitComplete_done sign totp conn peer r₂

theorem acceptStep_ended (r₁ r₂ : Recv) : ∃ res,
    (acceptStep sign totp manager conn (acceptStep sign totp manager conn .awaitRequest r₁).1 r₂).1 =
      .done res := by
  rcases acceptStep_awaitRequest_cases sign totp manager conn r₁ with ⟨res, h⟩ | ⟨c, h⟩ <;> rw [h]
  · exact ⟨res, rfl⟩
  · exact acceptStep_awaitComplete_done sign totp manager conn c r₂

theorem connectStep_awaitResponse_ne_ok (r : Recv) (p : Peer) :
    (connectStep sign totp conn peer .awaitResponse r).1 ≠ .done (.ok p) := fun h => by
  rcases connectStep_eq_ok h with h' | ⟨h', _⟩ <;> cases h'

theorem acceptStep_awaitRequest_ne_ok (r : Recv) (p : Peer) :
    (acceptStep sign totp manager conn .awaitRequest r).1 ≠ .done (.ok p) := fun h => by
  rcases acceptStep_eq_ok h with h' | ⟨_, h', _⟩ <;> cases h'

/-- A client run that returns a `Peer` is decided by its first two receives. -/
theorem connect_of_ok {rs : List Recv} {p : Peer}
    (h : (connect sign totp manager conn peer rs).1 = .done (.ok p)) :
    ∃ r₁ r₂ rest, rs = r₁ :: r₂ :: rest ∧
      (connectStep sign totp conn peer (connectStep sign totp conn peer .awaitResponse r₁).1 r₂).1 =
        .done (.ok p) :=
  runRole_of_two h (∃ res, · = .done res) (by rintro _ ⟨_, rfl⟩ _; rfl) connectStep_ended nofun
    (connectStep_awaitResponse_ne_ok · p)

/-- A server run that returns a `Peer` is decided by its first two receives. -/
theorem accept_of_ok {rs : List Recv} {p : Peer}
    (h : (accept sign totp manager conn rs).1 = .done (.ok p)) :
    ∃ r₁ r₂ rest, rs = r₁ :: r₂ :: rest ∧
      (acceptStep sign totp manager conn (acceptStep sign totp manager conn .awaitRequest r₁).1 r₂).1 =
        .done (.ok p) :=
  runRole_of_two h (∃ res, · = .done res) (by rintro _ ⟨_, rfl⟩ _; rfl) acceptStep_ended nofun
    (acceptStep_awaitRequest_ne_ok · p)

/-- Whatever the receive outcomes, a `Peer` the client returns is
`Peer::new(Client, conn, peer.metadata)`. -/
theorem connect_ok_eq {rs : List Recv} {p : Peer}
    (h : (connect sign totp manager conn peer rs).1 = .done (.ok p)) :
    p = Peer.new .client conn peer.metadata := by
  obtain ⟨r₁, _, _, -, h₂⟩ := connect_of_ok h
  rcases connectStep_eq_ok h₂ with h' | ⟨-, -, rfl⟩
  · exact absurd h' (connectStep_awaitResponse_ne_ok r₁ p)
  · rfl

/-- `accept` returns a `Peer` only after a `Request` whose tag verifies under
the key of the candidate the registries hold for the claimed id, followed by
`CompleteRequest`; `connect` only after a `Response` verifying under the
candidate's key and id, followed by `CompleteResponse`. Either `Peer` carries
the candidate's metadata. -/
theorem handshake_peer_authenticated (sign : Sign) (totp : Totp) (manager : P2pManager)
    (conn : TcpStream) :
    (∀ rs p, (accept sign totp manager conn rs).1 = .done (.ok p) →
      ∃ id tag c rest, rs = .frame (.request id tag) :: .frame .completeRequest :: rest ∧
        manager.getPeerCandidate id = some c ∧
        (id ∈ manager.discoveredPeers ∨ id ∈ manager.knownPeers) ∧
        verify sign (totp c.auth) c.id.bytes tag = true ∧ p.metadata = c.metadata) ∧
    ∀ cand rs p, (connect sign totp manager conn cand rs).1 = .done (.ok p) →
      ∃ tag rest, rs = .frame (.response tag) :: .frame .completeResponse :: rest ∧
        verify sign (totp cand.auth) cand.id.bytes tag = true ∧ p.metadata = cand.metadata := by
  constructor
  · intro rs p h
    obtain ⟨r₁, r₂, rest, rfl, h₂⟩ := accept_of_ok h
    rcases acceptStep_eq_ok h₂ with h' | ⟨c, h₁, rfl, rfl, -⟩
    · exact absurd h' (acceptStep_awaitRequest_ne_ok r₁ p)
    obtain ⟨-, ⟨id, rfl, hc⟩, -⟩ := acceptStep_eq_awaitComplete h₁
    exact ⟨id, _, c, rest, rfl, hc, getPeerCandidate_mem hc, by simp, rfl⟩
  · intro cand rs p h
    obtain ⟨r₁, r₂, rest, rfl, h₂⟩ := connect_of_ok h
    rcases connectStep_eq_ok h₂ with h' | ⟨h₁, rfl, rfl⟩
    · exact absurd h' (connectStep_awaitResponse_ne_ok r₁ p)
    obtain ⟨-, rfl, -⟩ := connectStep_eq_awaitComplete h₁
    exact ⟨_, rest, rfl, by simp, rfl⟩

/-- A plain concatenation as the tag and the secret as the TOTP code. -/
def demoSign : Sign := fun key msg => key ++ msg

/-- The TOTP code of the demo: the secret itself. -/
def demoTotp : Totp := fun auth => auth.secret

theorem handshake_peer_authenticated_demo :
    (∃ id tag c rest,
      [Recv.frame (.request ⟨[2]⟩ [104, 2]), .frame .completeRequest] =
        .frame (.request id tag) :: .frame .completeRequest :: rest ∧
      pairedA.getPeerCandidate id = some c ∧ (id ∈ pairedA.discoveredPeers ∨ id ∈ pairedA.knownPeers) ∧
      verify demoSign (demoTotp c.auth) c.id.bytes tag = true ∧ (peerB 4000) = c.metadata) ∧
    ∃ tag rest, [Recv.frame (.response [104, 2]), .frame .completeResponse] =
        .frame (.response tag) :: .frame .completeResponse :: rest ∧
      verify demoSign (demoTotp ⟨[104]⟩) (⟨[2]⟩ : PeerId).bytes tag = true ∧
      (peerB 4000) = (PeerCandidate.new (peerB 4000) ⟨[104]⟩).metadata :=
  ⟨(handshake_peer_authenticated demoSign demoTotp pairedA ⟨7⟩).1 _
      (Peer.new .server ⟨7⟩ (peerB 4000)) rfl,
    (handshake_peer_authenticated demoSign demoTotp pairedA ⟨7⟩).2
      (PeerCandidate.new (peerB 4000) ⟨[104]⟩) _ (Peer.new .client ⟨7⟩ (peerB 4000)) rfl⟩

/-- At the completion receive a `Failure(code)` is answered with `Msg`, not
`Failure(code)`, on both sides. -/
theorem completion_failure_reported_as_msg (sign : Sign) (totp : Totp) (manager : P2pManager)
    (conn : TcpStream) (peer : PeerCandidate) (code : UInt32) :
    (connect sign totp manager conn peer
        [.frame (.response (sign (totp peer.auth) peer.id.bytes)), .frame (.failure code)]).1 =
      .done (.error .msg) ∧
    (acceptStep sign totp manager conn (.awaitComplete peer) (.frame (.failure code))).1 =
      .done (.error .msg) := by
  simp [connect, runRole, connectStep, acceptStep]
end

end Flydrop.P2p
