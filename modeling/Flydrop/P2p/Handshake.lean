import Flydrop.P2p.Net
/-!
# Both ends of one handshake

`net::connect` on one node against `net::accept` on the other, over one TCP
connection: a FIFO of frames each way. A step is one receive by one side that
has not returned: it takes the next frame of its inbound FIFO, or times out
(at any moment), or sees the end of the stream once the other side has
returned an error and the frames it sent are drained. What the side sends in
reaction joins its outbound FIFO.

The HMAC is assumed injective in key and message (as a collision-resistant
MAC is treated), and each side derives its key with its own clock.

* `WireInv` holds in every reachable state: a side returns a `Peer` only if
  the server authenticated the client's request under the same key the
  client used, the server's id is the client's candidate's id, and the
  client's `Peer` needs the server's;
* `Wire.rank` falls at every step, so every run is finite;
* with matching keys and ids and no timeout, the only run is the five-state
  honest one, and it ends with both `Peer`s.
-/

namespace Flydrop.P2p

/-- The two parties of one handshake: the HMAC, each side's TOTP derivation,
the client's manager and its candidate for the server, the server's manager,
and the two ends of the stream. -/
structure Ends where
  sign : Sign
  clientTotp : Totp
  serverTotp : Totp
  client : P2pManager
  cand : PeerCandidate
  server : P2pManager
  clientConn : TcpStream
  serverConn : TcpStream

/-- A handshake in progress: both sides and the frames in flight each way. -/
structure Wire where
  client : ConnectState
  server : AcceptState
  toServer : List Connection
  toClient : List Connection

/-- The client has not returned. -/
def ConnectState.running : ConnectState → Bool
  | .done _ => false
  | _ => true

/-- The client returned an error, so its end of the stream is closed. -/
def ConnectState.failed : ConnectState → Bool
  | .done (.error _) => true
  | _ => false

/-- The server has not returned. -/
def AcceptState.running : AcceptState → Bool
  | .done _ => false
  | _ => true

/-- The server returned an error, so its end of the stream is closed. -/
def AcceptState.failed : AcceptState → Bool
  | .done (.error _) => true
  | _ => false

/-- The receive outcomes an inbound FIFO can give: its next frame; the
timeout, at any moment; the end of the stream once it is drained and the
sender has closed it. -/
inductive Delivers : List Connection → Bool → Recv → List Connection → Prop
  | frame (f : Connection) (rest : List Connection) (closed : Bool) :
      Delivers (f :: rest) closed (.frame f) rest
  | elapsed (q : List Connection) (closed : Bool) : Delivers q closed .elapsed q
  | closed : Delivers [] true .closed []

/-- One receive by one side, labelled with its outcome. -/
inductive WireStep (e : Ends) : Wire → Recv → Wire → Prop
  | client {w : Wire} {r : Recv} {q : List Connection} :
      w.client.running = true → Delivers w.toClient w.server.failed r q →
      WireStep e w r
        { w with
          client := (connectStep e.sign e.clientTotp e.clientConn e.cand w.client r).1
          toClient := q
          toServer := w.toServer ++ (connectStep e.sign e.clientTotp e.clientConn e.cand w.client r).2 }
  | server {w : Wire} {r : Recv} {q : List Connection} :
      w.server.running = true → Delivers w.toServer w.client.failed r q →
      WireStep e w r
        { w with
          server := (acceptStep e.sign e.serverTotp e.server e.serverConn w.server r).1
          toServer := q
          toClient := w.toClient ++ (acceptStep e.sign e.serverTotp e.server e.serverConn w.server r).2 }

/-- The client has sent its `Request`; the server waits for it. -/
def Ends.init (e : Ends) : Wire :=
  ⟨.awaitResponse, .awaitRequest, [connectRequest e.sign e.clientTotp e.client e.cand], []⟩

/-- The states some interleaving reaches. -/
def Reachable (e : Ends) : Wire → Prop :=
  Relation.ReflTransGen (fun w w' => ∃ r, WireStep e w r w') e.init

/-- The states some interleaving reaches without a receive timing out. -/
def ReachableWithoutTimeout (e : Ends) : Wire → Prop :=
  Relation.ReflTransGen (fun w w' => ∃ r, r ≠ .elapsed ∧ WireStep e w r w') e.init

/-! ## What the two sides agree on -/

/-- The server's candidate for the client's id, under which it checks the
client's tag: filed under that id, and keyed as the client keyed its request. -/
def Ends.ServerVerified (e : Ends) (c : PeerCandidate) : Prop :=
  e.server.getPeerCandidate e.client.id = some c ∧ c.id = e.client.id ∧
    e.serverTotp c.auth = e.clientTotp e.cand.auth

/-- Both sides derived the same key, and the server is the peer the client's
candidate names. -/
def Ends.Agree (e : Ends) : Prop :=
  ∃ c, e.ServerVerified c ∧ e.server.id = e.cand.id

/-- What every reachable state satisfies: what each frame in flight and each
side's progress certify. -/
structure WireInv (e : Ends) (w : Wire) : Prop where
  to_server : ∀ f ∈ w.toServer, f = connectRequest e.sign e.clientTotp e.client e.cand ∨
    (f = .completeRequest ∧ e.Agree) ∨ ∃ code, f = .failure code
  to_client : ∀ f ∈ w.toClient,
    (∃ c, e.ServerVerified c ∧ f = .response (e.sign (e.serverTotp c.auth) e.server.id.bytes)) ∨
    (f = .completeResponse ∧ e.Agree ∧ ∃ c, e.ServerVerified c ∧
      w.server = .done (.ok (Peer.new .server e.serverConn c.metadata))) ∨
    ∃ code, f = .failure code
  client_complete : w.client = .awaitComplete → e.Agree
  client_ok : ∀ p, w.client = .done (.ok p) →
    p = Peer.new .client e.clientConn e.cand.metadata ∧ e.Agree ∧
    ∃ c, e.ServerVerified c ∧ w.server = .done (.ok (Peer.new .server e.serverConn c.metadata))
  server_complete : ∀ c, w.server = .awaitComplete c → e.ServerVerified c
  server_ok : ∀ p, w.server = .done (.ok p) →
    e.Agree ∧ ∃ c, e.ServerVerified c ∧ p = Peer.new .server e.serverConn c.metadata

/-! ## Every reachable state -/

theorem PeerId.ext_bytes {a b : PeerId} (h : a.bytes = b.bytes) : a = b := by
  cases a; cases b; cases h; rfl

theorem Delivers.sub {q : List Connection} {closed : Bool} {r : Recv} {q' : List Connection}
    (h : Delivers q closed r q') : ∀ g ∈ q', g ∈ q := by
  cases h <;> simp_all

theorem Delivers.frame_mem {q : List Connection} {closed : Bool} {f : Connection} {q' : List Connection}
    (h : Delivers q closed (.frame f) q') : f ∈ q := by
  cases h; simp

section
variable {e : Ends} (hinj : ∀ k m k' m', e.sign k m = e.sign k' m' → k = k' ∧ m = m')
include hinj

/-- The `Response` the client accepts certifies the agreement. -/
theorem Ends.agree_of_response {c : PeerCandidate} (hc : e.ServerVerified c)
    (h : e.sign (e.serverTotp c.auth) e.server.id.bytes =
      e.sign (e.clientTotp e.cand.auth) e.cand.id.bytes) : e.Agree :=
  ⟨c, hc, PeerId.ext_bytes (hinj _ _ _ _ h).2⟩

/-- The `Request` the server accepts certifies its candidate. -/
theorem Ends.serverVerified_of_request {c : PeerCandidate}
    (hc : e.server.getPeerCandidate e.client.id = some c)
    (h : e.sign (e.clientTotp e.cand.auth) e.client.id.bytes =
      e.sign (e.serverTotp c.auth) c.id.bytes) : e.ServerVerified c :=
  ⟨hc, (PeerId.ext_bytes (hinj _ _ _ _ h).2).symm, (hinj _ _ _ _ h).1.symm⟩

theorem WireInv.client_step {w : Wire} {r : Recv} {q : List Connection} (hi : WireInv e w)
    (hrun : w.client.running = true) (hd : Delivers w.toClient w.server.failed r q) :
    WireInv e { w with
      client := (connectStep e.sign e.clientTotp e.clientConn e.cand w.client r).1
      toClient := q
      toServer := w.toServer ++ (connectStep e.sign e.clientTotp e.clientConn e.cand w.client r).2 } := by
  have hagree : (connectStep e.sign e.clientTotp e.clientConn e.cand w.client r).1 = .awaitComplete →
      e.Agree := by
    intro h
    obtain ⟨-, rfl, -⟩ := connectStep_eq_awaitComplete h
    rcases hi.to_client _ hd.frame_mem with ⟨c, hc, hf⟩ | ⟨hf, -⟩ | ⟨_, hf⟩ <;>
      simp only [Connection.response.injEq, reduceCtorEq] at hf
    exact Ends.agree_of_response hinj hc hf.symm
  refine ⟨?_, fun f hf => hi.to_client f (hd.sub f hf), hagree, ?_, hi.server_complete, hi.server_ok⟩
  · intro f hf
    rcases List.mem_append.mp hf with hf | hf
    · exact hi.to_server f hf
    · rcases connectStep_sent hf with ⟨rfl, h⟩ | h
      · exact .inr (.inl ⟨rfl, hagree h⟩)
      · exact .inr (.inr h)
  · intro p hp
    rcases connectStep_eq_ok hp with h | ⟨-, rfl, rfl⟩
    · simp [h, ConnectState.running] at hrun
    rcases hi.to_client _ hd.frame_mem with ⟨c, -, hf⟩ | ⟨-, hag, hsrv⟩ | ⟨_, hf⟩
    · cases hf
    · exact ⟨rfl, hag, hsrv⟩
    · cases hf

theorem WireInv.server_step {w : Wire} {r : Recv} {q : List Connection} (hi : WireInv e w)
    (hrun : w.server.running = true) (hd : Delivers w.toServer w.client.failed r q) :
    WireInv e { w with
      server := (acceptStep e.sign e.serverTotp e.server e.serverConn w.server r).1
      toServer := q
      toClient := w.toClient ++ (acceptStep e.sign e.serverTotp e.server e.serverConn w.server r).2 } := by
  have hnotok : ∀ p, w.server ≠ .done (.ok p) := by
    rintro p h; simp [h, AcceptState.running] at hrun
  have hverified : ∀ c, (acceptStep e.sign e.serverTotp e.server e.serverConn w.server r).1 =
      .awaitComplete c → e.ServerVerified c := by
    intro c h
    obtain ⟨-, ⟨id, rfl, hc⟩, -⟩ := acceptStep_eq_awaitComplete h
    rcases hi.to_server _ hd.frame_mem with hf | ⟨hf, -⟩ | ⟨_, hf⟩ <;>
      simp only [connectRequest, Connection.request.injEq, reduceCtorEq] at hf
    obtain ⟨rfl, hf⟩ := hf
    exact Ends.serverVerified_of_request hinj hc hf.symm
  have hok : ∀ p, (acceptStep e.sign e.serverTotp e.server e.serverConn w.server r).1 =
      .done (.ok p) → e.Agree ∧ ∃ c, e.ServerVerified c ∧ p = Peer.new .server e.serverConn c.metadata := by
    intro p h
    rcases acceptStep_eq_ok h with h | ⟨c, hc, rfl, rfl, -⟩
    · exact absurd h (hnotok p)
    rcases hi.to_server _ hd.frame_mem with hf | ⟨-, hag⟩ | ⟨_, hf⟩
    · cases hf
    · exact ⟨hag, c, hi.server_complete c hc, rfl⟩
    · cases hf
  refine ⟨fun f hf => hi.to_server f (hd.sub f hf), ?_, hi.client_complete, ?_, hverified, hok⟩
  · intro f hf
    rcases List.mem_append.mp hf with hf | hf
    · rcases hi.to_client f hf with h | ⟨-, -, c, -, h⟩ | h
      · exact .inl h
      · exact absurd h (hnotok _)
      · exact .inr (.inr h)
    · rcases acceptStep_sent hf with ⟨c, h, rfl⟩ | ⟨p, h, rfl⟩ | h
      · exact .inl ⟨c, hverified c h, rfl⟩
      · obtain ⟨hag, c, hc, rfl⟩ := hok p h
        exact .inr (.inl ⟨rfl, hag, c, hc, h⟩)
      · exact .inr (.inr h)
  · intro p hp
    obtain ⟨-, -, _, -, h⟩ := hi.client_ok p hp
    exact absurd h (hnotok _)

theorem WireInv.step {w w' : Wire} {r : Recv} (hi : WireInv e w) (h : WireStep e w r w') :
    WireInv e w' := by
  cases h with
  | client hrun hd => exact hi.client_step hinj hrun hd
  | server hrun hd => exact hi.server_step hinj hrun hd

omit hinj in
theorem wireInv_init : WireInv e e.init where
  to_server _ hf := .inl (List.mem_singleton.mp hf)
  to_client _ hf := absurd hf (List.not_mem_nil _)
  client_complete h := nomatch h
  client_ok _ h := nomatch h
  server_complete _ h := nomatch h
  server_ok _ h := nomatch h

theorem WireInv.reachable {w : Wire} (h : Reachable e w) : WireInv e w := by
  induction h with
  | refl => exact wireInv_init
  | tail _ hstep ih => obtain ⟨r, hstep⟩ := hstep; exact ih.step hinj hstep

end

/-! ## Every run is finite -/

/-- Receives the client has left. -/
def ConnectState.rank : ConnectState → Nat
  | .awaitResponse => 2
  | .awaitComplete => 1
  | .done _ => 0

/-- Receives the server has left. -/
def AcceptState.rank : AcceptState → Nat
  | .awaitRequest => 2
  | .awaitComplete _ => 1
  | .done _ => 0

/-- Receives both sides have left. -/
def Wire.rank (w : Wire) : Nat := w.client.rank + w.server.rank

theorem connectStep_rank_lt (sign : Sign) (totp : Totp) (conn : TcpStream) (peer : PeerCandidate)
    {s : ConnectState} (h : s.running = true) (r : Recv) :
    (connectStep sign totp conn peer s r).1.rank < s.rank := by
  cases s with
  | awaitResponse =>
    rcases connectStep_awaitResponse_cases sign totp conn peer r with ⟨_, h'⟩ | h' <;>
      simp [h', ConnectState.rank]
  | awaitComplete =>
    obtain ⟨_, h'⟩ := connectStep_awaitComplete_done sign totp conn peer r
    simp [h', ConnectState.rank]
  | done _ => cases h

theorem acceptStep_rank_lt (sign : Sign) (totp : Totp) (manager : P2pManager) (conn : TcpStream)
    {s : AcceptState} (h : s.running = true) (r : Recv) :
    (acceptStep sign totp manager conn s r).1.rank < s.rank := by
  cases s with
  | awaitRequest =>
    rcases acceptStep_awaitRequest_cases sign totp manager conn r with ⟨_, h'⟩ | ⟨_, h'⟩ <;>
      simp [h', AcceptState.rank]
  | awaitComplete c =>
    obtain ⟨_, h'⟩ := acceptStep_awaitComplete_done sign totp manager conn c r
    simp [h', AcceptState.rank]
  | done _ => cases h

theorem WireStep.rank_lt {e : Ends} {w w' : Wire} {r : Recv} (h : WireStep e w r w') :
    w'.rank < w.rank := by
  cases h with
  | client hrun _ =>
    have := connectStep_rank_lt e.sign e.clientTotp e.clientConn e.cand hrun r
    simp only [Wire.rank]; omega
  | server hrun _ =>
    have := acceptStep_rank_lt e.sign e.serverTotp e.server e.serverConn hrun r
    simp only [Wire.rank]; omega

/-! ## Runs with one successor at each state -/

section
variable {e : Ends} {f : Nat → Wire} {N : Nat} (h0 : f 0 = e.init)
  (hstep : ∀ n r w', r ≠ .elapsed → WireStep e (f n) r w' → n < N ∧ w' = f (n + 1))
include h0 hstep

/-- A sequence of states from `init` in which, without timeouts, each of the
first `N` states has exactly the next as successor: all of them are reached. -/
theorem Ends.path_reachable (hcan : ∀ n < N, ∃ r w', r ≠ .elapsed ∧ WireStep e (f n) r w')
    {n : Nat} (hn : n ≤ N) : ReachableWithoutTimeout e (f n) := by
  induction n with
  | zero => rw [h0]; exact .refl
  | succ n ih =>
    obtain ⟨r, w', hr, hs⟩ := hcan n (by omega)
    obtain ⟨-, rfl⟩ := hstep n r w' hr hs
    exact .tail (ih (by omega)) ⟨r, hr, hs⟩

/-- ... and nothing else is. -/
theorem Ends.reachable_on_path {w : Wire} (hw : ReachableWithoutTimeout e w) :
    ∃ n ≤ N, w = f n := by
  induction hw with
  | refl => exact ⟨0, Nat.zero_le _, h0.symm⟩
  | tail _ hs ih =>
    obtain ⟨n, -, rfl⟩ := ih
    obtain ⟨r, hr, hs⟩ := hs
    obtain ⟨hn, rfl⟩ := hstep n r _ hr hs
    exact ⟨n + 1, hn, rfl⟩

end

/-! ## The honest run -/

/-- The tag of the client's `Request`. -/
def Ends.requestTag (e : Ends) : List UInt8 :=
  e.sign (e.clientTotp e.cand.auth) e.client.id.bytes

/-- The tag of the server's `Response`, keyed by its candidate `c` for the client. -/
def Ends.responseTag (e : Ends) (c : PeerCandidate) : List UInt8 :=
  e.sign (e.serverTotp c.auth) e.server.id.bytes

/-- The `i`-th state of the handshake when the keys and ids match and no
receive times out, `c` being the server's candidate for the client. -/
def Ends.honest (e : Ends) (c : PeerCandidate) : Nat → Wire
  | 0 => e.init
  | 1 => ⟨.awaitResponse, .awaitComplete c, [],
      [.response (e.sign (e.serverTotp c.auth) e.server.id.bytes)]⟩
  | 2 => ⟨.awaitComplete, .awaitComplete c, [.completeRequest], []⟩
  | 3 => ⟨.awaitComplete, .done (.ok (Peer.new .server e.serverConn c.metadata)), [],
      [.completeResponse]⟩
  | _ => ⟨.done (.ok (Peer.new .client e.clientConn e.cand.metadata)),
      .done (.ok (Peer.new .server e.serverConn c.metadata)), [], []⟩

/-- With both tags verified, the honest run is the only one without timeouts:
each of its states has exactly the next one as successor, and the last has
none. -/
theorem Ends.honest_step_of_verify {e : Ends} {c : PeerCandidate}
    (hc : e.server.getPeerCandidate e.client.id = some c)
    (hv : verify e.sign (e.serverTotp c.auth) c.id.bytes e.requestTag = true)
    (hv' : verify e.sign (e.clientTotp e.cand.auth) e.cand.id.bytes (e.responseTag c) = true)
    {n : Nat} {r : Recv} {w' : Wire} (hr : r ≠ .elapsed) (h : WireStep e (e.honest c n) r w') :
    n < 4 ∧ w' = e.honest c (n + 1) := by
  simp only [Ends.requestTag, Ends.responseTag] at hv hv'
  rcases n with _ | _ | _ | _ | n <;> cases h <;> rename_i hd <;> cases hd <;>
    simp_all [Ends.honest, Ends.init, connectStep, acceptStep, connectRequest,
      ConnectState.running, AcceptState.running, ConnectState.failed, AcceptState.failed]

theorem Ends.honest_can_step {e : Ends} {c : PeerCandidate} {n : Nat} (hn : n < 4) :
    ∃ r w', r ≠ .elapsed ∧ WireStep e (e.honest c n) r w' := by
  rcases n with _ | _ | _ | _ | n
  · exact ⟨_, _, by simp, .server rfl (.frame _ [] false)⟩
  · exact ⟨_, _, by simp, .client rfl (.frame _ [] false)⟩
  · exact ⟨_, _, by simp, .server rfl (.frame _ [] false)⟩
  · exact ⟨_, _, by simp, .client rfl (.frame _ [] false)⟩
  · omega

section
variable {e : Ends} {c : PeerCandidate} (hc : e.server.getPeerCandidate e.client.id = some c)
  (hcid : c.id = e.client.id) (hkey : e.serverTotp c.auth = e.clientTotp e.cand.auth)
  (hsid : e.server.id = e.cand.id)
include hc hcid hkey hsid

/-- With matching keys and ids both tags verify, so the honest run is the only
one without timeouts. -/
theorem Ends.honest_step {n : Nat} {r : Recv} {w' : Wire} (hr : r ≠ .elapsed)
    (h : WireStep e (e.honest c n) r w') : n < 4 ∧ w' = e.honest c (n + 1) :=
  Ends.honest_step_of_verify hc (by simp [verify, Ends.requestTag, hcid, hkey])
    (by simp [verify, Ends.responseTag, hkey, hsid]) hr h

theorem Ends.honest_reachable {n : Nat} (hn : n ≤ 4) :
    ReachableWithoutTimeout e (e.honest c n) :=
  Ends.path_reachable rfl (fun _ _ _ hr h => e.honest_step hc hcid hkey hsid hr h)
    (fun _ hn => e.honest_can_step hn) hn

theorem Ends.honest_of_reachable {w : Wire} (h : ReachableWithoutTimeout e w) :
    ∃ n ≤ 4, w = e.honest c n :=
  Ends.reachable_on_path rfl (fun _ _ _ hr h => e.honest_step hc hcid hkey hsid hr h) h

end

/-- Two nodes that paired with the same secret, whose server is the peer the
client's candidate names, complete the handshake together under every
interleaving: a side returns a `Peer` only if both derived the same key and
the server is the client's candidate (the client only once the server has
returned its own), every run is finite, and a run without timeouts can only
stop with both sides holding their `Peer`, each with the other's metadata. -/
theorem handshake_agreement (e : Ends)
    (hinj : ∀ k m k' m', e.sign k m = e.sign k' m' → k = k' ∧ m = m') :
    (∀ w, Reachable e w →
      (∀ p, w.server = .done (.ok p) → e.Agree) ∧
      (∀ p, w.client = .done (.ok p) → e.Agree ∧ ∃ p', w.server = .done (.ok p'))) ∧
    (∀ w r w', WireStep e w r w' → w'.rank < w.rank) ∧
    ∀ c, e.server.getPeerCandidate e.client.id = some c → c.id = e.client.id →
      e.serverTotp c.auth = e.clientTotp e.cand.auth → e.server.id = e.cand.id →
      ∀ w, ReachableWithoutTimeout e w → (¬ ∃ r w', r ≠ .elapsed ∧ WireStep e w r w') →
        w.client = .done (.ok (Peer.new .client e.clientConn e.cand.metadata)) ∧
        w.server = .done (.ok (Peer.new .server e.serverConn c.metadata)) := by
  refine ⟨fun w hw => ?_, fun _ _ _ h => h.rank_lt, fun c hc hcid hkey hsid w hw hstuck => ?_⟩
  · have hi := WireInv.reachable hinj hw
    exact ⟨fun p hp => (hi.server_ok p hp).1, fun p hp =>
      let ⟨_, hag, _, _, hs⟩ := hi.client_ok p hp
      ⟨hag, _, hs⟩⟩
  · obtain ⟨n, hn, rfl⟩ := e.honest_of_reachable hc hcid hkey hsid hw
    rcases Nat.lt_or_ge n 4 with h | h
    · exact absurd (e.honest_can_step h) hstuck
    · obtain rfl : n = 4 := by omega
      exact ⟨rfl, rfl⟩

/-- A tag that spells out its key and message, hence injective. -/
def pairSign : Sign := fun key msg => (key.flatMap fun b => [1, b]) ++ 0 :: msg

theorem pairSign_injective :
    ∀ k m k' m', pairSign k m = pairSign k' m' → k = k' ∧ m = m'
  | [], _, [], _, h => by simpa [pairSign] using h
  | [], _, _ :: _, _, h => by simp [pairSign] at h
  | _ :: _, _, [], _, h => by simp [pairSign] at h
  | b :: k, m, b' :: k', m', h => by
    simp only [pairSign, List.flatMap_cons, List.cons_append, List.nil_append,
      List.cons.injEq, true_and] at h
    obtain ⟨rfl, h⟩ := h
    obtain ⟨rfl, rfl⟩ := pairSign_injective k m k' m' h
    exact ⟨rfl, rfl⟩

/-- Node `b` dialing node `a`, both paired under the secret "h". -/
def demoEnds : Ends where
  sign := pairSign
  clientTotp := demoTotp
  serverTotp := demoTotp
  client := P2pManager.new ⟨⟨[2]⟩, .mobile, "b", .v4 0xEFFF2A62 50692, .v4 0xC0A80002 0⟩
    (peerB 4000).addr 0
  cand := PeerCandidate.new pairedA.metadata ⟨[104]⟩
  server := pairedA
  clientConn := ⟨8⟩
  serverConn := ⟨7⟩

/-- `a`'s candidate for `b`. -/
def candB : PeerCandidate := PeerCandidate.new (peerB 4000) ⟨[104]⟩

theorem handshake_agreement_demo :
    (demoEnds.honest candB 4).client = .done (.ok (Peer.new .client ⟨8⟩ pairedA.metadata)) ∧
      (demoEnds.honest candB 4).server = .done (.ok (Peer.new .server ⟨7⟩ (peerB 4000))) :=
  (handshake_agreement demoEnds pairSign_injective).2.2 candB rfl rfl rfl rfl _
    (@Ends.honest_reachable demoEnds candB rfl rfl rfl rfl 4 le_rfl)
    fun ⟨_, _, hr, h⟩ => by
      have := @Ends.honest_step demoEnds candB rfl rfl rfl rfl 4 _ _ hr h
      omega

end Flydrop.P2p
