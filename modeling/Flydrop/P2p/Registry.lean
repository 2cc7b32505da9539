import Flydrop.P2p.Manager
/-!
# The registries over whole runs

Every run of the manager from `P2pManager::new`, each call atomic:

* `RegistryInv` holds in every state: a discovered id is also known, every
  candidate sits under its own id, a discovered candidate advertises one of its
  own addresses, and the application has been told of each discovered id once;
* `appChannel_apply`: a `PeerDiscovered` event is only sent for an id that is
  known and not connected at that moment;
* `discovered_lookup_apply`: a discovered entry, once written, is never changed,
  and `knownAuth_run` says which pairing's auth it was built with.
-/

namespace Flydrop.P2p

namespace P2pManager

/-- The shape the registries keep in every reachable state. -/
structure RegistryInv (m : P2pManager) : Prop where
  discovered_known : ∀ id, id ∈ m.discoveredPeers → id ∈ m.knownPeers
  known_id : ∀ id c, m.knownPeers.lookup id = some c → c.id = id
  discovered_id : ∀ id c, m.discoveredPeers.lookup id = some c →
    c.id = id ∧ c.metadata.id = id ∧ c.metadata.addr ∈ c.addrs
  announced_discovered : ∀ meta, .peerDiscovered meta ∈ m.appChannel → meta.id ∈ m.discoveredPeers
  announced_nodup : (m.appChannel.filterMap P2pEvent.discoveredId).Nodup

theorem registryInv_new (config : P2pConfig) (listenAddr : SocketAddr) (dedup : UInt32) :
    RegistryInv (new config listenAddr dedup) where
  discovered_known _ h := absurd h (AList.not_mem_empty _)
  known_id _ _ h := by simp [new] at h
  discovered_id _ _ h := by simp [new] at h
  announced_discovered _ h := by simp [new] at h
  announced_nodup := List.nodup_nil

/-- What a lookup after `DashMap::insert` finds: the inserted value, or what
was there before under another key. -/
theorem lookup_insert_cases {s : PeerMap} {id k : PeerId} {v c : PeerCandidate}
    (h : (s.insert k v).lookup id = some c) : (id = k ∧ c = v) ∨ (id ≠ k ∧ s.lookup id = some c) := by
  by_cases hid : id = k
  · subst hid
    exact .inl ⟨rfl, (Option.some.inj (by rw [← h, AList.lookup_insert])).symm⟩
  · exact .inr ⟨hid, by rwa [AList.lookup_insert_ne hid] at h⟩

/-- A call that leaves the registries alone and sends no `PeerDiscovered`. -/
theorem RegistryInv.of_frame {m m' : P2pManager} (hi : RegistryInv m)
    (hk : m'.knownPeers = m.knownPeers) (hd : m'.discoveredPeers = m.discoveredPeers)
    (ha : ∃ e, m'.appChannel = m.appChannel ++ e ∧ e.filterMap P2pEvent.discoveredId = []) :
    RegistryInv m' := by
  obtain ⟨e, he, hnone⟩ := ha
  have hmem : ∀ meta, .peerDiscovered meta ∉ e := fun meta hm => by
    simpa [P2pEvent.discoveredId] using List.filterMap_eq_nil_iff.mp hnone _ hm
  refine ⟨?_, ?_, ?_, ?_, ?_⟩
  · simpa [hk, hd] using hi.discovered_known
  · simpa [hk] using hi.known_id
  · simpa [hd] using hi.discovered_id
  · intro meta h
    rw [he, List.mem_append] at h
    exact hd ▸ h.elim (hi.announced_discovered meta) (absurd · (hmem meta))
  · simpa [he, hnone] using hi.announced_nodup

theorem RegistryInv.addKnownPeer {m : P2pManager} (hi : RegistryInv m) (peer : PeerCandidate) :
    RegistryInv (m.addKnownPeer peer) where
  discovered_known id h := AList.mem_insert _ |>.mpr (.inr (hi.discovered_known id h))
  known_id id c h := by
    rcases lookup_insert_cases h with ⟨rfl, rfl⟩ | ⟨-, h⟩
    · rfl
    · exact hi.known_id id c h
  discovered_id := hi.discovered_id
  announced_discovered := hi.announced_discovered
  announced_nodup := hi.announced_nodup

theorem RegistryInv.handlePeerDiscovered {m : P2pManager} (hi : RegistryInv m)
    (peer : PeerMetadata) : RegistryInv (m.handlePeerDiscovered peer) := by
  rcases handlePeerDiscovered_cases m peer with h | ⟨known, _, hdisc, _, h⟩
  · rwa [h]
  rw [h]
  have hnew : peer.id ∉ m.appChannel.filterMap P2pEvent.discoveredId := by
    simp only [List.mem_filterMap]
    rintro ⟨e, he, hid⟩
    cases e <;> simp only [P2pEvent.discoveredId, Option.some.injEq, reduceCtorEq] at hid
    exact hdisc (hid ▸ hi.announced_discovered _ he)
  refine ⟨?_, ?_, ?_, ?_, ?_⟩
  · intro id hid
    simp only [AList.mem_insert, AList.mem_erase] at hid ⊢
    by_cases h : id = peer.id
    · exact .inl h
    · exact .inr ⟨h, hi.discovered_known id (hid.resolve_left h)⟩
  · intro id c hc
    rcases lookup_insert_cases hc with ⟨rfl, rfl⟩ | ⟨h, hc⟩
    · rfl
    · exact hi.known_id id c (by rwa [AList.lookup_erase_ne h] at hc)
  · intro id c hc
    rcases lookup_insert_cases hc with ⟨rfl, rfl⟩ | ⟨-, hc⟩
    · simp [discoveredCandidate]
    · exact hi.discovered_id id c hc
  · intro meta hmeta
    simp only [List.mem_append, List.mem_singleton, P2pEvent.peerDiscovered.injEq] at hmeta
    rcases hmeta with hmeta | rfl
    · exact AList.mem_insert _ |>.mpr (.inr (hi.announced_discovered meta hmeta))
    · exact AList.mem_insert _ |>.mpr (.inl rfl)
  · simpa [List.filterMap_append, P2pEvent.discoveredId, List.nodup_append, hnew]
      using hi.announced_nodup

/-- One call keeps the registry invariant. -/
theorem RegistryInv.apply {m : P2pManager} (hi : RegistryInv m) (op : Op) :
    RegistryInv (m.apply op) := by
  cases op with
  | addKnownPeer peer => exact hi.addKnownPeer peer
  | handlePeerDiscovered peer => exact hi.handlePeerDiscovered peer
  | connectToPeer id dial handshake =>
    exact hi.of_frame (by simp [P2pManager.apply]) (by simp [P2pManager.apply])
      ⟨[], by simp [P2pManager.apply], rfl⟩
  | peerDisconnected id =>
    exact hi.of_frame rfl rfl ⟨_, rfl, rfl⟩
  | handleNewConnection peer =>
    exact hi.of_frame rfl rfl ⟨_, rfl, rfl⟩
  | requestPresence => exact hi.of_frame rfl rfl ⟨[], by simp [P2pManager.apply, requestPresence], rfl⟩
  | handlePresenceRequest =>
    exact hi.of_frame rfl rfl ⟨[], by simp [P2pManager.apply, handlePresenceRequest], rfl⟩
  | getDiscoveredPeers => exact hi
  | getPeerCandidate _ => exact hi

/-- Every run keeps the registry invariant. -/
theorem RegistryInv.run {m : P2pManager} (hi : RegistryInv m) (ops : List Op) :
    RegistryInv (m.run ops) := by
  induction ops using List.reverseRecOn with
  | nil => exact hi
  | append_singleton ops op ih => simpa using ih.apply op

/-- What one call sends to the application: a `PeerDiscovered` only for an id
that is known and not connected when the call starts. -/
theorem appChannel_apply (m : P2pManager) (op : Op) :
    ∃ sent, (m.apply op).appChannel = m.appChannel ++ sent ∧
      ∀ meta, .peerDiscovered meta ∈ sent → meta.id ∈ m.knownPeers ∧ meta.id ∉ m.connectedPeers := by
  cases op with
  | handlePeerDiscovered peer =>
    rcases handlePeerDiscovered_cases m peer with h | ⟨known, hconn, _, hk, h⟩
    · exact ⟨[], by simp [P2pManager.apply, h], by simp⟩
    · refine ⟨_, by rw [P2pManager.apply, h], ?_⟩
      simp only [List.mem_singleton, P2pEvent.peerDiscovered.injEq]
      rintro _ rfl
      exact ⟨AList.lookup_isSome.mp (by simp [hk]), hconn⟩
  | connectToPeer id dial handshake => exact ⟨[], by simp [P2pManager.apply], by simp⟩
  | peerDisconnected id => exact ⟨_, rfl, by simp⟩
  | handleNewConnection peer => exact ⟨_, rfl, by simp⟩
  | _ => exact ⟨[], by simp [P2pManager.apply, P2pManager.addKnownPeer, requestPresence,
      handlePresenceRequest], by simp⟩

/-! ## A discovered entry is written once -/

/-- One call either leaves the discovered entry for `id` alone, or is the
`handle_peer_discovered` that first writes it. -/
theorem discovered_lookup_apply (m : P2pManager) (op : Op) (id : PeerId) :
    (m.apply op).discoveredPeers.lookup id = m.discoveredPeers.lookup id ∨
      ∃ meta known, op = .handlePeerDiscovered meta ∧ meta.id = id ∧
        id ∉ m.connectedPeers ∧ id ∉ m.discoveredPeers ∧ m.knownPeers.lookup id = some known ∧
        (m.apply op).discoveredPeers.lookup id = some (discoveredCandidate meta known) := by
  cases op with
  | handlePeerDiscovered peer =>
    rcases handlePeerDiscovered_cases m peer with h | ⟨known, hconn, hdisc, hk, h⟩
    · exact .inl (by rw [P2pManager.apply, h])
    · by_cases hid : id = peer.id
      · subst hid
        exact .inr ⟨peer, known, rfl, rfl, hconn, hdisc, hk, by simp [P2pManager.apply, h]⟩
      · exact .inl (by simp [P2pManager.apply, h, AList.lookup_insert_ne hid])
  | connectToPeer id' dial handshake => exact .inl (by simp [P2pManager.apply])
  | _ => exact .inl rfl

theorem discovered_lookup_run {m : P2pManager} {id : PeerId} {c : PeerCandidate}
    (h : m.discoveredPeers.lookup id = some c) (ops : List Op) :
    (m.run ops).discoveredPeers.lookup id = some c := by
  induction ops using List.reverseRecOn with
  | nil => exact h
  | append_singleton ops op ih =>
    rw [run_append_singleton]
    rcases discovered_lookup_apply (m.run ops) op id with h' | ⟨_, _, _, _, _, hdisc, _⟩
    · rw [h', ih]
    · exact absurd (AList.lookup_isSome.mp (by simp [ih])) hdisc

/-! ## Known entries carry the auth of the last pairing -/

/-- The pairing a call records for `id`: `add_known_peer` replaces it. -/
def pairingStep (id : PeerId) (last : Option PairingAuthenticator) : Op → Option PairingAuthenticator
  | .addKnownPeer peer => if peer.id = id then some peer.auth else last
  | _ => last

/-- The auth of the last `add_known_peer` for `id` in a run. -/
def lastPairing (ops : List Op) (id : PeerId) : Option PairingAuthenticator :=
  ops.foldl (pairingStep id) none

theorem knownAuth_apply (m : P2pManager) (op : Op) (id : PeerId) :
    ((m.apply op).knownPeers.lookup id).map (·.auth) =
      pairingStep id ((m.knownPeers.lookup id).map (·.auth)) op := by
  cases op with
  | addKnownPeer peer =>
    by_cases hid : peer.id = id
    · subst hid
      simp [P2pManager.apply, P2pManager.addKnownPeer, pairingStep]
    · simp [P2pManager.apply, P2pManager.addKnownPeer, pairingStep, hid,
        AList.lookup_insert_ne (Ne.symm hid)]
  | handlePeerDiscovered peer =>
    rcases handlePeerDiscovered_cases m peer with h | ⟨known, _, _, hk, h⟩
    · rw [P2pManager.apply, h]; rfl
    · by_cases hid : id = peer.id
      · subst hid
        simp [P2pManager.apply, h, hk, pairingStep, discoveredCandidate]
      · simp [P2pManager.apply, h, pairingStep, AList.lookup_insert_ne hid,
          AList.lookup_erase_ne hid]
  | connectToPeer id' dial handshake => simp [P2pManager.apply, pairingStep]
  | _ => rfl

/-- From `P2pManager::new`, the known entry for `id` has the auth of the last
`add_known_peer` for `id`. -/
theorem knownAuth_run (config : P2pConfig) (listenAddr : SocketAddr) (dedup : UInt32)
    (ops : List Op) (id : PeerId) :
    (((new config listenAddr dedup).run ops).knownPeers.lookup id).map (·.auth) =
      lastPairing ops id := by
  induction ops using List.reverseRecOn with
  | nil => simp [new, lastPairing]
  | append_singleton ops op ih =>
    rw [run_append_singleton, knownAuth_apply, ih]
    simp [lastPairing]

/-! ## Runs from an empty manager -/

/-- From empty registries, after any sequence of atomic calls: discovered ids
are known, every candidate is stored under its own id, a discovered candidate
advertises one of its addresses, each id is announced as discovered at most
once, and only while it is known and not connected. -/
theorem run_registries_consistent (config : P2pConfig) (listenAddr : SocketAddr)
    (dedup : UInt32) (ops : List Op) :
    let m := (new config listenAddr dedup).run ops
    (∀ id, id ∈ m.discoveredPeers → id ∈ m.knownPeers) ∧
    (∀ id c, m.knownPeers.lookup id = some c → c.id = id) ∧
    (∀ id c, m.discoveredPeers.lookup id = some c →
      c.id = id ∧ c.metadata.id = id ∧ c.metadata.addr ∈ c.addrs) ∧
    (m.appChannel.filterMap P2pEvent.discoveredId).Nodup ∧
    ∀ pre op post, ops = pre ++ op :: post →
      let before := (new config listenAddr dedup).run pre
      ∀ meta, .peerDiscovered meta ∈ (before.apply op).appChannel.drop before.appChannel.length →
        meta.id ∈ before.knownPeers ∧ meta.id ∉ before.connectedPeers := by
  have hi := (registryInv_new config listenAddr dedup).run ops
  refine ⟨hi.discovered_known, hi.known_id, hi.discovered_id, hi.announced_nodup, ?_⟩
  intro pre op _ _ before meta hmeta
  obtain ⟨sent, hsent, hknown⟩ := appChannel_apply before op
  rw [hsent, List.drop_left] at hmeta
  exact hknown meta hmeta

/-- `c` is the candidate the first discovery of `id` in `ops` built: a
`handle_peer_discovered` for `id` that ran while `id` was known, not connected
and not yet discovered, with that response's metadata and address only, and the
auth of the last `add_known_peer` for `id` before it. -/
def BuiltAtFirstDiscovery (start : P2pManager) (ops : List Op) (id : PeerId)
    (c : PeerCandidate) : Prop :=
  ∃ pre meta post, ops = pre ++ .handlePeerDiscovered meta :: post ∧ meta.id = id ∧
    id ∈ (start.run pre).knownPeers ∧ id ∉ (start.run pre).connectedPeers ∧
    id ∉ (start.run pre).discoveredPeers ∧
    c = { id := id, metadata := meta, addrs := [meta.addr], auth := c.auth } ∧
    lastPairing pre id = some c.auth

/-- Once `id` is discovered its candidate never changes, and it is the one
built at the first discovery of `id`. -/
theorem discovered_candidate_fixed_at_first_discovery (config : P2pConfig)
    (listenAddr : SocketAddr) (dedup : UInt32) (id : PeerId) :
    (∀ pre post c, ((new config listenAddr dedup).run pre).discoveredPeers.lookup id = some c →
      ((new config listenAddr dedup).run (pre ++ post)).discoveredPeers.lookup id = some c) ∧
    ∀ ops c, ((new config listenAddr dedup).run ops).discoveredPeers.lookup id = some c →
      BuiltAtFirstDiscovery (new config listenAddr dedup) ops id c := by
  refine ⟨fun pre post c h => by rw [run, List.foldl_append]; exact discovered_lookup_run h post,
    fun ops => ?_⟩
  induction ops using List.reverseRecOn with
  | nil => simp [new]
  | append_singleton ops op ih =>
    intro c hc
    rw [run_append_singleton] at hc
    rcases discovered_lookup_apply _ op id with h | ⟨meta, known, rfl, rfl, hconn, hdisc, hk, h⟩
    · obtain ⟨pre, meta, post, rfl, hrest⟩ := ih c (h ▸ hc)
      exact ⟨pre, meta, post ++ [op], by simp, hrest⟩
    · have hauth := knownAuth_run config listenAddr dedup ops meta.id
      rw [hk] at hauth
      rw [h, Option.some.injEq] at hc
      subst hc
      exact ⟨ops, meta, [], rfl, rfl, AList.lookup_isSome.mp (by simp [hk]), hconn, hdisc,
        rfl, hauth.symm⟩

/-- Node `a` pairs with `b` (secret "h"), hears `b` on port 4000, then on port
4001 after a restart, then pairs `b` again (secret "w"). -/
def rediscoveryRun : List Op :=
  [.addKnownPeer (PeerCandidate.new (peerB 4000) ⟨[104]⟩), .handlePeerDiscovered (peerB 4000),
    .handlePeerDiscovered (peerB 4001), .addKnownPeer (PeerCandidate.new (peerB 4001) ⟨[119]⟩)]

theorem discovered_candidate_fixed_on_rediscovery :
    ((new demoConfig demoAddr 0).run rediscoveryRun).discoveredPeers.lookup ⟨[2]⟩ =
        some (discoveredCandidate (peerB 4000) (PeerCandidate.new (peerB 4000) ⟨[104]⟩)) ∧
      BuiltAtFirstDiscovery (new demoConfig demoAddr 0) rediscoveryRun ⟨[2]⟩
        (discoveredCandidate (peerB 4000) (PeerCandidate.new (peerB 4000) ⟨[104]⟩)) :=
  ⟨by decide, (discovered_candidate_fixed_at_first_discovery demoConfig demoAddr 0 ⟨[2]⟩).2
    rediscoveryRun _ (by decide)⟩

/-- After that run the discovered candidate for `b` still lists only port 4000
and still carries the first secret. -/
theorem discovered_candidate_not_refreshed :
    ∃ c, ((new demoConfig demoAddr 0).run rediscoveryRun).discoveredPeers.lookup ⟨[2]⟩ = some c ∧
      (peerB 4001).addr ∉ c.addrs ∧ c.auth ≠ ⟨[119]⟩ :=
  ⟨_, rfl, by decide, by decide⟩

end P2pManager

end Flydrop.P2p
