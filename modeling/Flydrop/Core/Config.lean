import Flydrop.Core.Node
/-!
# The configuration across failed commands

`handle_command` fails on a failed `connect_to_peer`, an unreadable QR payload,
a failing `PairingAuthenticator::new`, or a failing `store.set`. `Node.stored`
is the configuration the last successful `store.set` wrote, or the one
`store.get` read at init.

* `conf_step`: an input leaves `conf` and `stored` as they were, writes one
  configuration to both, or is a `Pair` that returned the store error and added
  its peer to `conf` alone;
* `confTracksStore_run`: over every run, `conf` is the configuration last
  written but for its known peers, which include those written, and every peer
  in `conf` that is not written is the peer of such a `Pair` of the run.
-/

namespace Flydrop.Core

open Flydrop.P2p

/-- A QR payload for `b` and a secret that parse, and a disk that refuses the
write. -/
def storeFails : CmdEnv :=
  ⟨fun _ => none, fun _ _ => .error .addr, fun _ => some ⟨"h", peerB 4000⟩, fun _ => some ⟨[104]⟩,
    fun _ => false⟩

namespace Node

/-! ## One input -/

/-- What one input does to `conf` and `stored`: nothing, a successful write of
one configuration to both, or a `Pair` that returned the store error, whose
peer is added to `conf` alone. -/
theorem conf_step (ctlUnknownErr : UInt32) (n : Node) (i : Input) :
    ((n.step ctlUnknownErr i).conf = n.conf ∧ (n.step ctlUnknownErr i).stored = n.stored) ∨
    (∃ new, (n.step ctlUnknownErr i).conf = new ∧ (n.step ctlUnknownErr i).stored = new) ∨
    ∃ env json payload, i = .command env (.pair json) ∧ env.parseQr json = some payload ∧
      (n.handleCommand env (.pair json)).1 = .error .store ∧
      (n.step ctlUnknownErr i).conf = { n.conf with knownPeers := insert payload.peer n.conf.knownPeers } ∧
      (n.step ctlUnknownErr i).stored = n.stored := by
  cases i with
  | command env req =>
    cases req with
    | setConfig new =>
      simp only [step, handleCommand]
      split
      · exact .inr (.inl ⟨_, rfl, rfl⟩)
      · exact .inl ⟨rfl, rfl⟩
    | pair json =>
      rcases hq : env.parseQr json with _ | payload
      · exact .inl (by simp [step, handleCommand, hq])
      rcases ha : env.newAuth payload.secret with _ | auth
      · exact .inl (by simp [step, handleCommand, hq, ha])
      by_cases hs : env.storeSet { n.conf with knownPeers := insert payload.peer n.conf.knownPeers }
      · exact .inr (.inl ⟨_, rfl, by simp [step, handleCommand, hq, ha, hs]⟩)
      · refine .inr (.inr ⟨env, json, payload, rfl, hq, ?_, ?_, ?_⟩) <;>
          simp [step, handleCommand, hq, ha, hs]
    | _ =>
      left
      simp only [step, handleCommand]
      repeat' split
      all_goals simp
  | internal e =>
    left
    cases e <;> simp only [step, handleEvent] <;> split <;> simp
  | p2p e => exact .inl (by cases e <;> simp [step, handleP2p])
  | uiClosed => exact .inl ⟨rfl, rfl⟩

/-! ## Over a run -/

/-- After `inputs` from `n₀`, `conf` (of `n`) is the configuration last written
(`stored`) in every field but `knownPeers`; its known peers include the written
ones, and each of the others is the peer of a `Pair` of the run that returned
the store error. -/
structure ConfTracksStore (n₀ : Node) (ctlUnknownErr : UInt32) (inputs : List Input) (n : Node) :
    Prop where
  written : { n.conf with knownPeers := n.stored.knownPeers } = n.stored
  written_peers : n.stored.knownPeers ⊆ n.conf.knownPeers
  unwritten_peers : ∀ peer ∈ n.conf.knownPeers, peer ∉ n.stored.knownPeers →
    ∃ pre env json post payload, inputs = pre ++ Input.command env (.pair json) :: post ∧
      env.parseQr json = some payload ∧ payload.peer = peer ∧
      ((n₀.run ctlUnknownErr pre).handleCommand env (.pair json)).1 = .error .store

theorem ConfTracksStore.step {n₀ : Node} {ctlUnknownErr : UInt32} {inputs : List Input}
    (h : ConfTracksStore n₀ ctlUnknownErr inputs (n₀.run ctlUnknownErr inputs)) (i : Input) :
    ConfTracksStore n₀ ctlUnknownErr (inputs ++ [i]) (n₀.run ctlUnknownErr (inputs ++ [i])) := by
  have older : ∀ peer ∈ (n₀.run ctlUnknownErr inputs).conf.knownPeers,
      peer ∉ (n₀.run ctlUnknownErr inputs).stored.knownPeers →
      ∃ pre env json post payload, inputs ++ [i] = pre ++ Input.command env (.pair json) :: post ∧
        env.parseQr json = some payload ∧ payload.peer = peer ∧
        ((n₀.run ctlUnknownErr pre).handleCommand env (.pair json)).1 = .error .store :=
    fun peer hc hs =>
      let ⟨pre, env, json, post, payload, hin, hq, hp, he⟩ := h.unwritten_peers peer hc hs
      ⟨pre, env, json, post ++ [i], payload, by rw [hin]; simp, hq, hp, he⟩
  rw [run_append_singleton]
  rcases conf_step ctlUnknownErr (n₀.run ctlUnknownErr inputs) i with
    ⟨hc, hs⟩ | ⟨new, hc, hs⟩ | ⟨env, json, payload, rfl, hq, he, hc, hs⟩
  · exact ⟨by rw [hc, hs]; exact h.written, by rw [hc, hs]; exact h.written_peers,
      by rw [hc, hs]; exact older⟩
  · exact ⟨by rw [hc, hs], by rw [hc, hs], fun _ hin hout => absurd (hc ▸ hin) (hs ▸ hout)⟩
  · refine ⟨by rw [hc, hs]; exact h.written,
      by rw [hc, hs]; exact h.written_peers.trans (Finset.subset_insert _ _), fun peer hin hout => ?_⟩
    rcases Finset.mem_insert.mp (hc ▸ hin) with rfl | hin
    · exact ⟨inputs, env, json, [], payload, rfl, hq, rfl, he⟩
    · exact older peer hin (hs ▸ hout)

/-- From a node whose `conf` is the one `store.get` read, every run keeps
`conf` equal to the configuration last written in every field but the known
peers; those include the written ones, and each of the others is the peer of a
`Pair` of the run that returned the store error. -/
theorem confTracksStore_run {n : Node} (h : n.conf = n.stored) (ctlUnknownErr : UInt32)
    (inputs : List Input) : ConfTracksStore n ctlUnknownErr inputs (n.run ctlUnknownErr inputs) := by
  induction inputs using List.reverseRecOn with
  | nil =>
    exact ⟨by rw [Node.run, List.foldl_nil, ← h], by rw [Node.run, List.foldl_nil, h],
      fun _ hc hs => absurd (h ▸ (hc : _ ∈ n.conf.knownPeers)) hs⟩
  | append_singleton inputs i ih => exact ih.step i

/-- `a`'s `Pair` with `b` whose write is refused: `b` is then in memory only,
put there by that `Pair`. -/
theorem confTracksStore_run_storeFails :
    peerB 4000 ∈ ((nodeA false).run 0 [.command storeFails (.pair [])]).conf.knownPeers ∧
      peerB 4000 ∉ ((nodeA false).run 0 [.command storeFails (.pair [])]).stored.knownPeers ∧
      ∃ pre env json post payload,
        [Input.command storeFails (.pair [])] = pre ++ Input.command env (.pair json) :: post ∧
        env.parseQr json = some payload ∧ payload.peer = peerB 4000 ∧
        (((nodeA false).run 0 pre).handleCommand env (.pair json)).1 = .error .store :=
  ⟨by decide, by decide, (confTracksStore_run rfl 0 [.command storeFails (.pair [])]).unwritten_peers
    (peerB 4000) (by decide) (by decide)⟩

end Node

/-- `Pair` fails at `store.set` and returns the error, yet `b` is now in the
in-memory `conf`, while the configuration last written does not list it. -/
theorem failed_pair_keeps_peer_in_conf :
    ((nodeA false).handleCommand storeFails (.pair [])).1 = .error .store ∧
      peerB 4000 ∉ (nodeA false).conf.knownPeers ∧
      peerB 4000 ∈ ((nodeA false).run 0 [.command storeFails (.pair [])]).conf.knownPeers ∧
      peerB 4000 ∉ ((nodeA false).run 0 [.command storeFails (.pair [])]).stored.knownPeers :=
  ⟨rfl, by decide, by decide, by decide⟩

end Flydrop.Core
