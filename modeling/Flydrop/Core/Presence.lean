import Flydrop.Core.Node
/-!
# The presence loops

The task `StartDiscovery` spawns, run against the commands that start and stop
discovery. A loop calls `request_presence` once, then repeats: sleep two
seconds, then `select!` between `token.cancelled()` and
`p2p.request_presence()`, breaking on the first and continuing on the second.
The loop awaits `request_presence` as a future that emits and is ready at its
first poll; `cancelled()` is ready once the token is cancelled. `select!`
without `biased` polls its branches in random order and takes a ready one, so
once the token is cancelled either branch can win, each time round.

A schedule interleaves the node's inputs with turns of the loops; a turn names
the loop and the branch `select!` tries first.

* `Presence.run_discoveryCt`: in every run, `discovery_ct` is `Some` exactly
  when a spawned loop whose token is not cancelled has not exited;
* `Presence.run_request_turns`: each turn on which `select!` polls
  `request_presence` first calls it again, whether the token is cancelled or not;
* `cancelled_loop_keeps_emitting`: so a cancelled loop can call
  `request_presence` any number of times, next to the loop a later
  `StartDiscovery` spawns.
-/

namespace Flydrop.Core

open Flydrop.P2p

/-- Where a spawned presence loop stands. -/
inductive LoopPc
  /-- Before the first `p2p.request_presence().await`. -/
  | start
  /-- In the loop: at `sleep` and the `select!` after it. -/
  | sleeping
  /-- After the `break`. -/
  | exited
  deriving DecidableEq, Repr

/-- The branch of `select!` polled first. -/
inductive Branch
  | cancelled
  | request
  deriving DecidableEq, Repr

/-- One turn of a loop whose token is cancelled or not: where it goes, and
whether it called `request_presence`. The `cancelled()` branch wins only when it
is ready and polled first. -/
def loopTurn (cancelled : Bool) (b : Branch) : LoopPc → LoopPc × Bool
  | .start => (.sleeping, true)
  | .sleeping => if cancelled ∧ b = .cancelled then (.exited, false) else (.sleeping, true)
  | .exited => (.exited, false)

/-- The node, the place of each loop it spawned (beside `presenceLoops`, in
spawn order), and every call of `request_presence` by a loop, with its token
and whether the token was cancelled by then (ghost state). -/
structure Presence where
  node : Node
  pcs : List LoopPc
  emitted : List (CancellationToken × Bool)

/-- What happens next: an input of the node's loop, or a turn of the `k`-th
presence loop. -/
inductive PresenceEvent
  | input (i : Input)
  | turn (k : Nat) (b : Branch)

/-- One event. An input may spawn a loop, which starts at `start`; a turn of a
loop that calls `request_presence` emits on the manager's discovery channel. -/
def Presence.step (ctlUnknownErr : UInt32) (w : Presence) : PresenceEvent → Presence
  | .input i =>
    let n := w.node.step ctlUnknownErr i
    { w with
      node := n
      pcs := w.pcs ++ List.replicate (n.presenceLoops.length - w.node.presenceLoops.length) .start }
  | .turn k b =>
    match w.node.presenceLoops[k]?, w.pcs[k]? with
    | some token, some pc =>
      let cancelled := decide (token ∈ w.node.cancelled)
      let t := loopTurn cancelled b pc
      { node := if t.2 then { w.node with p2p := w.node.p2p.requestPresence } else w.node
        pcs := w.pcs.set k t.1
        emitted := if t.2 then w.emitted ++ [(token, cancelled)] else w.emitted }
    | _, _ => w

/-- A schedule from the state `w`. -/
def Presence.run (ctlUnknownErr : UInt32) (w : Presence) (events : List PresenceEvent) : Presence :=
  events.foldl (Presence.step ctlUnknownErr) w

@[simp] theorem Presence.run_append_singleton (ctlUnknownErr : UInt32) (w : Presence)
    (events : List PresenceEvent) (e : PresenceEvent) :
    Presence.run ctlUnknownErr w (events ++ [e]) = (Presence.run ctlUnknownErr w events).step ctlUnknownErr e := by
  simp [Presence.run]

/-! ## What the node's inputs do to discovery -/

namespace Node

/-- Only `StartDiscovery` with no token spawns a loop, under a fresh token it
makes current; only `StopDiscovery` cancels, the current token, and clears
it. -/
theorem discovery_step (ctlUnknownErr : UInt32) (n : Node) (i : Input) :
    ((n.step ctlUnknownErr i).presenceLoops = n.presenceLoops ∧
      (n.step ctlUnknownErr i).cancelled = n.cancelled ∧
      (n.step ctlUnknownErr i).state.discoveryCt = n.state.discoveryCt ∧
      (n.step ctlUnknownErr i).nextToken = n.nextToken) ∨
    (n.state.discoveryCt = none ∧
      (n.step ctlUnknownErr i).presenceLoops = n.presenceLoops ++ [⟨n.nextToken⟩] ∧
      (n.step ctlUnknownErr i).cancelled = n.cancelled ∧
      (n.step ctlUnknownErr i).state.discoveryCt = some ⟨n.nextToken⟩ ∧
      (n.step ctlUnknownErr i).nextToken = n.nextToken + 1) ∨
    ((n.step ctlUnknownErr i).presenceLoops = n.presenceLoops ∧
      (n.step ctlUnknownErr i).cancelled = n.cancelled ++ n.state.discoveryCt.toList ∧
      (n.step ctlUnknownErr i).state.discoveryCt = none ∧
      (n.step ctlUnknownErr i).nextToken = n.nextToken) := by
  cases i with
  | command env req =>
    cases req with
    | startDiscovery =>
      simp only [step, handleCommand]
      split
      · next hct => exact .inr (.inl ⟨hct, rfl, rfl, rfl, rfl⟩)
      · exact .inl ⟨rfl, rfl, rfl, rfl⟩
    | stopDiscovery =>
      refine .inr (.inr ⟨rfl, ?_, rfl, rfl⟩)
      simp only [step, handleCommand]
      split <;> simp_all
    | _ =>
      left
      simp only [step, handleCommand]
      repeat' split
      all_goals simp
  | internal e =>
    left
    cases e <;> simp only [step, handleEvent] <;> split <;> simp
  | p2p e => exact .inl (by cases e <;> simp [step, handleP2p])
  | uiClosed => exact .inl ⟨rfl, rfl, rfl, rfl⟩

end Node

/-! ## The current token -/

/-- What every run keeps: one place per spawned loop; the current token is a
spawned, uncancelled one, and every spawned, uncancelled token is the current
one; a loop has exited only with its token cancelled; tokens are fresh, and
only spawned ones are cancelled. -/
structure Presence.Inv (w : Presence) : Prop where
  length : w.pcs.length = w.node.presenceLoops.length
  current : ∀ t, w.node.state.discoveryCt = some t → t ∈ w.node.presenceLoops ∧ t ∉ w.node.cancelled
  uncancelled : ∀ t ∈ w.node.presenceLoops, t ∉ w.node.cancelled → w.node.state.discoveryCt = some t
  exited : ∀ (k : Nat) t, w.node.presenceLoops[k]? = some t → w.pcs[k]? = some LoopPc.exited →
    t ∈ w.node.cancelled
  fresh : ∀ t ∈ w.node.presenceLoops, t.handle < w.node.nextToken
  cancelled_spawned : ∀ t ∈ w.node.cancelled, t ∈ w.node.presenceLoops

theorem Presence.Inv.input {w : Presence} (hi : w.Inv) (ctlUnknownErr : UInt32) (i : Input) :
    (w.step ctlUnknownErr (.input i)).Inv := by
  simp only [Presence.step]
  rcases Node.discovery_step ctlUnknownErr w.node i with
    ⟨hl, hc, hct, hn⟩ | ⟨hct₀, hl, hc, hct, hn⟩ | ⟨hl, hc, hct, hn⟩
  · refine ⟨?_, ?_, ?_, ?_, ?_, ?_⟩ <;>
      simp only [hl, hc, hct, hn, Nat.sub_self, List.replicate_zero, List.append_nil]
    exacts [hi.length, hi.current, hi.uncancelled, hi.exited, hi.fresh, hi.cancelled_spawned]
  · have hfresh : (⟨w.node.nextToken⟩ : CancellationToken) ∉ w.node.cancelled := fun h =>
      Nat.lt_irrefl _ (hi.fresh _ (hi.cancelled_spawned _ h))
    refine ⟨?_, ?_, ?_, ?_, ?_, ?_⟩ <;> simp only [hl, hc, hct, hn]
    · simp [hi.length]
    · rintro t ⟨⟩
      exact ⟨List.mem_append_right _ (List.mem_singleton_self _), hfresh⟩
    · intro t ht hnc
      rcases List.mem_append.mp ht with ht | ht
      · exact absurd (hi.uncancelled t ht hnc) (by simp [hct₀])
      · rw [List.mem_singleton.mp ht]
    · intro k t hk hpc
      by_cases hlt : k < w.node.presenceLoops.length
      · rw [List.getElem?_append_left hlt] at hk
        rw [List.getElem?_append_left (hi.length ▸ hlt)] at hpc
        exact hi.exited k t hk hpc
      · rw [List.getElem?_append_right (by rw [hi.length]; omega)] at hpc
        cases List.eq_of_mem_replicate (List.getElem?_mem hpc)
    · intro t ht
      rcases List.mem_append.mp ht with ht | ht
      · exact Nat.lt_succ_of_lt (hi.fresh t ht)
      · rw [List.mem_singleton.mp ht]; exact Nat.lt_succ_self _
    · exact fun t ht => List.mem_append_left _ (hi.cancelled_spawned t ht)
  · refine ⟨?_, ?_, ?_, ?_, ?_, ?_⟩ <;> simp only [hl, hc, hct, hn, Nat.sub_self, List.replicate_zero,
      List.append_nil]
    · exact hi.length
    · rintro t ⟨⟩
    · intro t ht hnc
      have hct' := hi.uncancelled t ht fun h => hnc (List.mem_append_left _ h)
      exact absurd (List.mem_append_right _ (by simp [hct'])) hnc
    · exact fun k t hk hpc => List.mem_append_left _ (hi.exited k t hk hpc)
    · exact hi.fresh
    · intro t ht
      rcases List.mem_append.mp ht with ht | ht
      · exact hi.cancelled_spawned t ht
      · exact (hi.current t (Option.mem_toList.mp ht)).1

/-- A turn ends a loop only when its token is cancelled. -/
theorem loopTurn_exited {cancelled : Bool} {b : Branch} {pc : LoopPc}
    (h : (loopTurn cancelled b pc).1 = .exited) : pc = .exited ∨ cancelled = true := by
  cases pc with
  | start => cases h
  | sleeping =>
    simp only [loopTurn] at h
    split at h
    · next hc => exact .inr hc.1
    · cases h
  | exited => exact .inl rfl

theorem Presence.Inv.turn {w : Presence} (hi : w.Inv) (ctlUnknownErr : UInt32) (k : Nat) (b : Branch) :
    (w.step ctlUnknownErr (.turn k b)).Inv := by
  simp only [Presence.step]
  rcases hk : w.node.presenceLoops[k]? with _ | token
  · exact hi
  rcases hpc : w.pcs[k]? with _ | pc
  · exact hi
  refine ⟨?_, ?_, ?_, ?_, ?_, ?_⟩ <;>
    simp only [apply_ite Node.presenceLoops, apply_ite Node.cancelled, apply_ite Node.state,
      apply_ite Node.nextToken, ite_self]
  · rw [List.length_set, hi.length]
  · exact hi.current
  · exact hi.uncancelled
  · intro j t hj hpcj
    by_cases hjk : j = k
    · subst hjk
      rw [hk] at hj
      cases hj
      rw [List.getElem?_set_self (by rw [hi.length]; exact (List.getElem?_eq_some_iff.mp hk).1)] at hpcj
      rcases loopTurn_exited (Option.some.inj hpcj) with rfl | hcan
      · exact hi.exited j token hk hpc
      · exact of_decide_eq_true hcan
    · rw [List.getElem?_set_ne (Ne.symm hjk)] at hpcj
      exact hi.exited j t hj hpcj
  · exact hi.fresh
  · exact hi.cancelled_spawned

theorem Presence.Inv.step {w : Presence} (hi : w.Inv) (ctlUnknownErr : UInt32) (e : PresenceEvent) :
    (w.step ctlUnknownErr e).Inv := by
  cases e with
  | input i => exact hi.input ctlUnknownErr i
  | turn k b => exact hi.turn ctlUnknownErr k b

theorem Presence.Inv.run {w : Presence} (hi : w.Inv) (ctlUnknownErr : UInt32)
    (events : List PresenceEvent) : (Presence.run ctlUnknownErr w events).Inv := by
  induction events using List.reverseRecOn with
  | nil => exact hi
  | append_singleton events e ih =>
    rw [Presence.run_append_singleton]; exact ih.step ctlUnknownErr e

/-- A node that has spawned no loop has nothing to keep. -/
theorem Presence.Inv.init {n : Node} (hl : n.presenceLoops = []) (hc : n.cancelled = [])
    (hct : n.state.discoveryCt = none) (emitted : List (CancellationToken × Bool)) :
    (Presence.mk n [] emitted).Inv :=
  ⟨by simp [hl], by simp [hct], by simp [hl], by simp, by simp [hl], by simp [hc]⟩

/-- `discovery_ct` is `Some` exactly when a spawned loop whose token is not
cancelled has not exited. -/
theorem Presence.Inv.discoveryCt_isSome {w : Presence} (hi : w.Inv) :
    w.node.state.discoveryCt.isSome ↔
      ∃ (k : Nat) (t : CancellationToken) (pc : LoopPc), w.node.presenceLoops[k]? = some t ∧
        t ∉ w.node.cancelled ∧ w.pcs[k]? = some pc ∧ pc ≠ .exited := by
  constructor
  · intro h
    obtain ⟨t, ht⟩ := Option.isSome_iff_exists.mp h
    obtain ⟨hmem, hnc⟩ := hi.current t ht
    obtain ⟨k, hk⟩ := List.mem_iff_getElem?.mp hmem
    have hlt : k < w.pcs.length := hi.length ▸ (List.getElem?_eq_some_iff.mp hk).1
    refine ⟨k, t, w.pcs[k], hk, hnc, List.getElem?_eq_getElem hlt, fun hex => hnc ?_⟩
    exact hi.exited k t hk (hex ▸ List.getElem?_eq_getElem hlt)
  · rintro ⟨k, t, -, hk, hnc, -, -⟩
    rw [hi.uncancelled t (List.getElem?_mem hk) hnc]; rfl

/-- From a node that has spawned no loop, on every schedule of inputs and loop
turns, `discovery_ct` is `Some` exactly when a spawned loop whose token is not
cancelled has not exited. -/
theorem Presence.run_discoveryCt (ctlUnknownErr : UInt32) {n : Node} (hl : n.presenceLoops = [])
    (hc : n.cancelled = []) (hct : n.state.discoveryCt = none) (events : List PresenceEvent) :
    let w := Presence.run ctlUnknownErr ⟨n, [], []⟩ events
    w.node.state.discoveryCt.isSome ↔
      ∃ (k : Nat) (t : CancellationToken) (pc : LoopPc), w.node.presenceLoops[k]? = some t ∧
        t ∉ w.node.cancelled ∧ w.pcs[k]? = some pc ∧ pc ≠ .exited :=
  ((Presence.Inv.init hl hc hct []).run ctlUnknownErr events).discoveryCt_isSome

theorem run_discoveryCt_started :
    ∃ (k : Nat) (t : CancellationToken) (pc : LoopPc),
      (Presence.run 0 ⟨nodeA false, [], []⟩ [.input (.command quietEnv .startDiscovery)]).node.presenceLoops[k]? =
        some t ∧
      t ∉ (Presence.run 0 ⟨nodeA false, [], []⟩ [.input (.command quietEnv .startDiscovery)]).node.cancelled ∧
      (Presence.run 0 ⟨nodeA false, [], []⟩ [.input (.command quietEnv .startDiscovery)]).pcs[k]? = some pc ∧
      pc ≠ .exited :=
  (Presence.run_discoveryCt 0 rfl rfl rfl [.input (.command quietEnv .startDiscovery)]).mp rfl

/-! ## A cancelled loop -/

@[simp] theorem Presence.run_append (ctlUnknownErr : UInt32) (w : Presence)
    (events events' : List PresenceEvent) :
    Presence.run ctlUnknownErr w (events ++ events') =
      Presence.run ctlUnknownErr (Presence.run ctlUnknownErr w events) events' :=
  List.foldl_append _ _ _ _

theorem set_eq_self_of_getElem? {α : Type} {l : List α} {k : Nat} {a : α} (h : l[k]? = some a) :
    l.set k a = l :=
  List.ext_getElem? fun j => by
    rw [List.getElem?_set]; split
    · next hj => subst hj; simp [h, (List.getElem?_eq_some_iff.mp h).1]
    · rfl

/-- While loop `k` sleeps, every turn on which `select!` polls
`request_presence` first calls it once more, under the loop's token, and
changes nothing else but the discovery channel. -/
theorem Presence.run_request_turns (ctlUnknownErr : UInt32) {w : Presence} {k : Nat}
    {t : CancellationToken} (hk : w.node.presenceLoops[k]? = some t)
    (hpc : w.pcs[k]? = some .sleeping) (n : Nat) :
    Presence.run ctlUnknownErr w (List.replicate n (.turn k .request)) =
      { w with
        node := { w.node with p2p := P2pManager.requestPresence^[n] w.node.p2p }
        emitted := w.emitted ++ List.replicate n (t, decide (t ∈ w.node.cancelled)) } := by
  induction n with
  | zero => simp [Presence.run]
  | succ n ih =>
    rw [List.replicate_succ', Presence.run_append_singleton, ih]
    simp [Presence.step, hk, hpc, loopTurn, Function.iterate_succ_apply', set_eq_self_of_getElem? hpc,
      List.replicate_succ']

/-- `StartDiscovery` and the loop's first request; `StopDiscovery`; `n` turns on
which `select!` polls `request_presence` first; `StartDiscovery` again, and a
turn of each loop. -/
def stopStartSchedule (n : Nat) : List PresenceEvent :=
  [.input (.command quietEnv .startDiscovery), .turn 0 .request,
    .input (.command quietEnv .stopDiscovery)] ++ List.replicate n (.turn 0 .request) ++
  [.input (.command quietEnv .startDiscovery), .turn 1 .request, .turn 0 .request]

/-- For every `n`, the loop of the cancelled token `0` calls `request_presence`
`n + 1` times after `StopDiscovery` and has not exited, and once `StartDiscovery`
has spawned the loop of token `1`, both loops call it. -/
theorem cancelled_loop_keeps_emitting (n : Nat) :
    (Presence.run 0 ⟨nodeA false, [], []⟩ (stopStartSchedule n)).emitted =
      [(⟨0⟩, false)] ++ List.replicate n (⟨0⟩, true) ++ [(⟨1⟩, false), (⟨0⟩, true)] ∧
    (Presence.run 0 ⟨nodeA false, [], []⟩ (stopStartSchedule n)).pcs = [.sleeping, .sleeping] ∧
    (Presence.run 0 ⟨nodeA false, [], []⟩ (stopStartSchedule n)).node.cancelled = [⟨0⟩] ∧
    (Presence.run 0 ⟨nodeA false, [], []⟩ (stopStartSchedule n)).node.state.discoveryCt = some ⟨1⟩ := by
  rw [stopStartSchedule, Presence.run_append, Presence.run_append,
    Presence.run_request_turns 0 (k := 0) (t := ⟨0⟩) (w := Presence.run 0 ⟨nodeA false, [], []⟩
      [.input (.command quietEnv .startDiscovery), .turn 0 .request,
        .input (.command quietEnv .stopDiscovery)]) rfl rfl n]
  simp [Presence.run, Presence.step, Node.step, Node.handleCommand, nodeA, loopTurn, State.default]

end Flydrop.Core
