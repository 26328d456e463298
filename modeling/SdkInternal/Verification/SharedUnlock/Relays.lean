import SdkInternal.Model.SharedUnlock.Network
import SdkInternal.Verification.SharedUnlock.Sending
import Mathlib.Algebra.Order.BigOperators.Group.Finset
import Mathlib.Data.Fintype.Prod

/-! # Relays die out

A peer that sends anything while it handles a sync has either heard from the sender for the
first time or recorded a later state, provided that its driver succeeds. Both can happen a
bounded number of times, so that without further device events and timer ticks only finitely
many messages are ever delivered. -/

namespace SdkInternal.SharedUnlock

open Ipc Shared TimestampedLockState List Function Finset

variable {κ : Type} {n : ℕ}

/-! ## How much is left to happen -/

def place (rank : ℕ ×ₗ Bool) : ℕ := 2 * (ofLex rank).1 + (ofLex rank).2.toNat

theorem place_strictMono : StrictMono place := by
  intro a b hlt
  have hle : ∀ x : Bool, x.toNat ≤ 1 := by decide
  have ha := hle (ofLex a).2
  unfold place
  rcases Prod.Lex.lt_iff.mp hlt with hfirst | ⟨hfirst, hsecond⟩
  · omega
  · have hbool : ∀ x y : Bool, x < y → x.toNat < y.toNat := by decide
    have := hbool _ _ hsecond
    omega

theorem place_lt (recorded : Option (TimestampedLockState κ)) :
    place (recordedRank recorded) < 2 ^ 65 := by
  have hdate := (recorded.getD default).changedAt.toNat_lt
  have hle : ∀ x : Bool, x.toNat ≤ 1 := by decide
  have hlocked := hle (recorded.getD default).lockState.isLocked
  have hplace : place (recordedRank recorded) =
      2 * (recorded.getD default).changedAt.toNat +
        (recorded.getD default).lockState.isLocked.toNat := rfl
  omega

instance : Finite UserId :=
  Finite.of_injective (fun userId : UserId => userId.uuid.toFin) fun a b h => by
    cases a
    cases b
    exact congrArg UserId.mk (BitVec.toFin_inj.mp h)

noncomputable instance : Fintype UserId := Fintype.ofFinite UserId

variable {source : Source} {sync : SharedUnlockSync κ}

namespace Peer

def unmet (K : Finset Endpoint) (p : Peer κ) : Finset Endpoint :=
  K.filter fun e => p.activePeers.lookup e = none

/-- How often the peer can still hear from someone for the first time, and how far its
records can still rise. -/
noncomputable def room (K : Finset Endpoint) (p : Peer κ) : ℕ :=
  (p.unmet K).card + ∑ u : UserId, (2 ^ 65 - place (recordedRank (p.states.lookup u)))

variable {K : Finset Endpoint} {p p' : Peer κ} {env : Surroundings}

section

variable (hstates : ∀ u, recordedRank (p.states.lookup u) ≤ recordedRank (p'.states.lookup u))

include hstates

theorem room_le (hunmet : p'.unmet K ⊆ p.unmet K) : p'.room K ≤ p.room K := by
  refine Nat.add_le_add (card_le_card hunmet) (sum_le_sum fun u _ => ?_)
  exact Nat.sub_le_sub_left (place_strictMono.monotone (hstates u)) _

theorem room_lt_of_unmet (hunmet : p'.unmet K ⊂ p.unmet K) : p'.room K < p.room K := by
  refine Nat.add_lt_add_of_lt_of_le (card_lt_card hunmet) (sum_le_sum fun u _ => ?_)
  exact Nat.sub_le_sub_left (place_strictMono.monotone (hstates u)) _

theorem room_lt_of_rank (hunmet : p'.unmet K ⊆ p.unmet K) {u : UserId}
    (hrank : recordedRank (p.states.lookup u) < recordedRank (p'.states.lookup u)) :
    p'.room K < p.room K := by
  refine Nat.add_lt_add_of_le_of_lt (card_le_card hunmet)
    (sum_lt_sum (fun u _ => ?_) ⟨u, mem_univ u, ?_⟩)
  · exact Nat.sub_le_sub_left (place_strictMono.monotone (hstates u)) _
  · have hlt := place_strictMono hrank
    have hbound := place_lt (p'.states.lookup u)
    omega

end

/-! ## Handling one sync -/

theorem unmet_noteSource (env : Surroundings) (p : Peer κ) (source : Source) (userId : UserId) :
    (p.noteSource env source userId).2.unmet K = (p.unmet K).erase source.toEndpoint := by
  ext e
  have hactive := (noteSource_snd env p source userId).1
  simp only [unmet, Finset.mem_filter, Finset.mem_erase, hactive]
  by_cases he : e = source.toEndpoint
  · subst he
    have hlookup : (p.upsert env.instant (SyncTarget.fromSource source)).2.activePeers.lookup
        source.toEndpoint = some ⟨env.instant, (SyncTarget.fromSource source).origin⟩ :=
      AList.lookup_insert p.activePeers
    simp [hlookup]
  · have hlookup : (p.upsert env.instant (SyncTarget.fromSource source)).2.activePeers.lookup e =
        p.activePeers.lookup e := AList.lookup_insert_ne he
    simp [hlookup, he]

theorem rank_le_restoredState (p : Peer κ) (userId : UserId) :
    recordedRank (p.states.lookup userId) ≤ recordedRank (p.restoredState userId).1 := by
  unfold restoredState
  split
  case h_1 recorded hlookup => rw [hlookup]
  case h_2 hlookup =>
    have hrestored : (restoreState p.states userId (p.lastManualLock.lookup userId)).1 =
        persistedState (p.lastManualLock.lookup userId) := by
      cases h : p.lastManualLock.lookup userId with
      | none => rfl
      | some changedAt => simp [restoreState, hlookup, persistedState]
    rw [hlookup, hrestored, recordedRank_persistedState]
    exact Prod.Lex.toLex_mono ⟨Nat.zero_le _, le_rfl⟩

theorem effects_restoredState (p : Peer κ) (userId : UserId) :
    (p.restoredState userId).2.effects = p.effects := by
  unfold restoredState
  split <;> rfl

variable [DecidableEq κ]

theorem rank_le_adoptRemoteState (p : Peer κ) (userId : UserId)
    (remote : TimestampedLockState κ) (hok : env.driverOk = true) :
    remote.rank ≤ recordedRank ((p.adoptRemoteState env userId remote).2.states.lookup userId) := by
  have hrecorded : ∀ states : States κ,
      remote.rank ≤ recordedRank ((recordRemoteState states userId remote).lookup userId) := by
    intro states
    rw [lookup_recordRemoteState, Latest.rank_offer recordedRank]
    exact le_max_right _ _
  unfold adoptRemoteState
  dsimp only
  split <;> exact hrecorded _

/-- A state that is relayed is recorded if the driver succeeds, and is later than what was
recorded before. -/
theorem applyRemoteState_quiet_or_rises (p : Peer κ) (userId : UserId)
    (remote : TimestampedLockState κ) (hok : env.driverOk = true) :
    (p.applyRemoteState env userId remote).2.effects = p.effects ∨
      recordedRank (p.states.lookup userId) <
        recordedRank ((p.applyRemoteState env userId remote).2.states.lookup userId) := by
  unfold applyRemoteState
  dsimp only
  split
  case isTrue hsup =>
    refine .inr (lt_of_le_of_lt (rank_le_restoredState p userId) ?_)
    exact lt_of_lt_of_le ((supersedes_iff _ _).mp hsup)
      (rank_le_adoptRemoteState _ userId remote hok)
  case isFalse => exact .inl (effects_restoredState p userId)

theorem handleSync_of_known (sync : SharedUnlockSync κ)
    (hknown : (p.noteSource env source sync.userId).1 = false) :
    ∃ done, (∀ e message, Effect.sent e message ∉ done) ∧
      (p.handleSync env source sync).2.effects =
        ((p.noteSource env source sync.userId).2.applyRemoteState env sync.userId
          sync.state).2.effects ++ done ∧
      (p.handleSync env source sync).2.states =
        ((p.noteSource env source sync.userId).2.applyRemoteState env sync.userId
          sync.state).2.states := by
  unfold handleSync
  dsimp only
  rw [hknown]
  split
  case h_1 p' hresult =>
    rw [hresult]
    exact ⟨[], by simp, (append_nil _).symm, rfl⟩
  case h_2 p' hresult =>
    rw [hresult]
    exact ⟨_, by simp, rfl, rfl⟩

theorem room_handleSync (env : Surroundings) (K : Finset Endpoint) (p : Peer κ)
    (source : Source) (sync : SharedUnlockSync κ) :
    (p.handleSync env source sync).2.unmet K ⊆ p.unmet K ∧
      ∀ u, recordedRank (p.states.lookup u) ≤
        recordedRank ((p.handleSync env source sync).2.states.lookup u) := by
  have hacts := acts_handleSync env p source sync
  refine ⟨?_, ?_⟩
  · rw [unmet, hacts.activePeers, ← unmet, unmet_noteSource]
    exact erase_subset _ _
  · rw [← (noteSource_snd env p source sync.userId).2.2]
    exact hacts.states

theorem room_handleSync_lt (hok : env.driverOk = true) (hsource : source.toEndpoint ∈ K)
    (hempty : p.effects = []) {e : Endpoint} {message : SharedUnlockSync κ}
    (hsent : Effect.sent e message ∈ (p.handleSync env source sync).2.effects) :
    (p.handleSync env source sync).2.room K < p.room K := by
  obtain ⟨hunmet, hstates⟩ := room_handleSync env K p source sync
  have hfirst := noteSource_fst env p source sync.userId
  cases hcontact : (p.noteSource env source sync.userId).1 with
  | true =>
    refine room_lt_of_unmet hstates ?_
    have hacts := acts_handleSync env p source sync
    rw [unmet, hacts.activePeers, ← unmet, unmet_noteSource]
    refine erase_ssubset (mem_filter.mpr ⟨hsource, ?_⟩)
    rw [hcontact] at hfirst
    exact Option.isNone_iff_eq_none.mp hfirst.symm
  | false =>
    obtain ⟨done, hdone, heffects, hsame⟩ := handleSync_of_known sync hcontact
    obtain ⟨noted, hnoted, hunsent⟩ := effects_noteSource env p source sync.userId
    have hstatesNoted := (noteSource_snd env p source sync.userId).2.2
    rcases applyRemoteState_quiet_or_rises (p.noteSource env source sync.userId).2 sync.userId
      sync.state hok with hquiet | hrises
    · rw [heffects, hquiet, hnoted, hempty] at hsent
      exact absurd hsent (by simp [hunsent, hdone])
    · rw [hstatesNoted, ← hsame] at hrises
      exact room_lt_of_rank hstates hunmet hrises

end Peer

/-! ## Networks -/

namespace Network

variable [DecidableEq κ] {topology : Topology n} {net net' : Network κ n} {index : ℕ}
  {env : Surroundings} {K : Finset Endpoint}

/-- Every source that appears, or can appear, in a message is in `K`. -/
structure Sourced (topology : Topology n) (K : Finset Endpoint) (net : Network κ n) : Prop where
  topology : ∀ i j, (topology.source i j).toEndpoint ∈ K
  inFlight : ∀ flight ∈ net.inFlight, flight.source.toEndpoint ∈ K

omit [DecidableEq κ] in
theorem exists_sourced (topology : Topology n) (net : Network κ n) :
    ∃ K, Sourced topology K net := by
  refine ⟨(univ.image fun ij : Fin n × Fin n => (topology.source ij.1 ij.2).toEndpoint) ∪
    (net.inFlight.map fun flight => flight.source.toEndpoint).toFinset, ?_, ?_⟩
  · intro i j
    exact mem_union_left _ (mem_image.mpr ⟨(i, j), mem_univ _, rfl⟩)
  · intro flight hflight
    refine mem_union_right _ (mem_toFinset.mpr ?_)
    exact mem_map.mpr ⟨flight, hflight, rfl⟩

omit [DecidableEq κ] in
theorem mem_departures {sender : Fin n} {done : List (Effect κ)} {flight : Flight κ n}
    (h : flight ∈ topology.departures sender done) :
    flight.source = topology.source sender flight.receiver ∧
      ∃ e message, Effect.sent e message ∈ done := by
  obtain ⟨effect, heffect, hflight⟩ := mem_filterMap.mp h
  cases effect with
  | sent e message =>
    obtain ⟨receiver, -, rfl⟩ := Option.map_eq_some_iff.mp hflight
    exact ⟨rfl, e, message, heffect⟩
  | _ => cases hflight

theorem deliver_eq_some (h : net.deliver topology index env = some net') :
    ∃ flight ∈ net.inFlight, ∃ handled : Peer κ,
      handled = (({ net.peers flight.receiver with effects := [] } : Peer κ).receiveMessage env
        flight.source flight.sync).2 ∧
      index < net.inFlight.length ∧
      net'.peers = update net.peers flight.receiver { handled with effects := [] } ∧
      net'.inFlight = net.inFlight.eraseIdx index ++
        topology.departures flight.receiver handled.effects := by
  unfold deliver at h
  split at h
  case h_1 => cases h
  case h_2 flight hflight =>
    cases h
    obtain ⟨hindex, rfl⟩ := List.getElem?_eq_some_iff.mp hflight
    exact ⟨_, getElem_mem hindex, _, rfl, hindex, rfl, rfl⟩

theorem Sourced.deliver (h : Sourced topology K net)
    (hdeliver : net.deliver topology index env = some net') : Sourced topology K net' := by
  obtain ⟨delivered, -, handled, -, -, -, hinFlight⟩ := deliver_eq_some hdeliver
  refine ⟨h.topology, fun flight hflight => ?_⟩
  rw [hinFlight] at hflight
  rcases mem_append.mp hflight with hold | hnew
  · exact h.inFlight flight (mem_of_mem_eraseIdx hold)
  · rw [(mem_departures hnew).1]
    exact h.topology _ _

theorem room_receiveMessage {p : Peer κ} (hok : env.driverOk = true)
    (hsource : source.toEndpoint ∈ K) (hempty : p.effects = []) :
    (p.receiveMessage env source sync).2.room K ≤ p.room K ∧
      ∀ e message, Effect.sent e message ∈ (p.receiveMessage env source sync).2.effects →
        (p.receiveMessage env source sync).2.room K < p.room K := by
  unfold Peer.receiveMessage
  split
  · obtain ⟨hunmet, hstates⟩ := Peer.room_handleSync env K p source sync
    refine ⟨Peer.room_le hstates hunmet, fun e message hsent => ?_⟩
    exact Peer.room_handleSync_lt hok hsource hempty hsent
  · refine ⟨le_rfl, fun e message hsent => ?_⟩
    rw [hempty] at hsent
    cases hsent

/-- What is left to happen, and how many messages are in flight. -/
noncomputable def measure (K : Finset Endpoint) (net : Network κ n) : ℕ ×ₗ ℕ :=
  toLex (∑ i, (net.peers i).room K, net.inFlight.length)

theorem measure_deliver_lt (h : Sourced topology K net) (hok : env.driverOk = true)
    (hdeliver : net.deliver topology index env = some net') :
    net'.measure K < net.measure K := by
  obtain ⟨flight, hflight, handled, hhandled, hindex, hpeers, hinFlight⟩ := deliver_eq_some hdeliver
  obtain ⟨hle, hlt⟩ : handled.room K ≤ (net.peers flight.receiver).room K ∧
      ∀ e message, Effect.sent e message ∈ handled.effects →
        handled.room K < (net.peers flight.receiver).room K := by
    rw [hhandled]
    exact room_receiveMessage (p := { net.peers flight.receiver with effects := [] }) hok
      (h.inFlight flight hflight) rfl
  have hself : (net'.peers flight.receiver).room K = handled.room K := by
    rw [hpeers, update_self]
    rfl
  have hother : ∀ i, i ≠ flight.receiver → net'.peers i = net.peers i := fun i hi => by
    rw [hpeers, update_of_ne hi]
  have hrooms : ∀ i ∈ Finset.univ, (net'.peers i).room K ≤ (net.peers i).room K := by
    intro i _
    by_cases hi : i = flight.receiver
    · rw [hi, hself]
      exact hle
    · rw [hother i hi]
  rw [measure, measure, Prod.Lex.toLex_lt_toLex]
  by_cases hsent : ∃ e message, Effect.sent e message ∈ handled.effects
  · obtain ⟨e, message, hsent⟩ := hsent
    refine .inl (Finset.sum_lt_sum hrooms ⟨flight.receiver, Finset.mem_univ _, ?_⟩)
    rw [hself]
    exact hlt e message hsent
  · -- nothing is sent, so there is one message less in flight
    have hnone : topology.departures flight.receiver handled.effects = [] := by
      refine eq_nil_iff_forall_not_mem.mpr fun departure hdeparture => ?_
      exact hsent (mem_departures hdeparture).2
    have hlength : net'.inFlight.length < net.inFlight.length := by
      rw [hinFlight, hnone, append_nil, length_eraseIdx_of_lt hindex]
      omega
    rcases (Finset.sum_le_sum hrooms).lt_or_eq with hsum | hsum
    · exact .inl hsum
    · exact .inr ⟨hsum, hlength⟩

/-- If only finitely many calls of the driver fail, every run of deliveries comes to an end:
there is no sequence of networks each of which is obtained from the one before by a
delivery. -/
theorem deliveries_end (topology : Topology n) (net : ℕ → Network κ n) (index : ℕ → ℕ)
    (env : ℕ → Surroundings) (start : ℕ) (hok : ∀ k, start ≤ k → (env k).driverOk = true) :
    ∃ k, (net k).deliver topology (index k) (env k) ≠ some (net (k + 1)) := by
  by_contra hends
  have hrun : ∀ k, (net k).deliver topology (index k) (env k) = some (net (k + 1)) := fun k =>
    not_not.mp (not_exists.mp hends k)
  obtain ⟨K, hsourced⟩ := exists_sourced topology (net 0)
  have hsourced : ∀ k, Sourced topology K (net k) := by
    intro k
    induction k with
    | zero => exact hsourced
    | succ k ih => exact ih.deliver (hrun k)
  obtain ⟨k, hk⟩ := WellFounded.not_rel_apply_succ (r := (· < ·))
    fun k => (net (start + k)).measure K
  exact hk (measure_deliver_lt (hsourced _) (hok _ (Nat.le_add_right _ _)) (hrun _))

def pairTopology : Topology 2 where
  route := fun _ e => if e = .desktopMain then some 0 else some 1
  source := fun i _ => if i = 0 then .desktopMain else .browserBackground .own

def pairPeer (neighbour : Endpoint) : Peer ℕ :=
  { Peer.create ⟨5000, 2000, 30000⟩ ∅ fun _ => .locked with
    activePeers := AList.insert neighbour ⟨0, none⟩ ∅
    destinations := AList.insert ⟨1⟩ [.browser, .desktop] ∅ }

/-- An unlock is on its way, to the desktop app in even rounds and to the browser in odd
ones. -/
def pairNetwork (round : ℕ) : Network ℕ 2 where
  peers := fun i => pairPeer (if i = 0 then .browserBackground .own else .desktopMain)
  inFlight :=
    [if round % 2 = 0 then ⟨0, .browserBackground .own, ⟨⟨1⟩, ⟨.unlocked 7, 10⟩⟩⟩
      else ⟨1, .desktopMain, ⟨⟨1⟩, ⟨.unlocked 7, 10⟩⟩⟩]

def pairSurroundings (driverOk : Bool) : Surroundings where
  vaultUrl := fun _ => none
  listUsers := [⟨1⟩]
  discoverLeader := fun _ => none
  driverOk := driverOk
  instant := 0
  nowMillis := 0

/-- With drivers that succeed, the two do not pass the unlock on forever. -/
theorem deliveries_end_pairNetwork :
    ∃ k, (pairNetwork k).deliver pairTopology 0 (pairSurroundings true) ≠
      some (pairNetwork (k + 1)) :=
  deliveries_end pairTopology pairNetwork (fun _ => 0) (fun _ => pairSurroundings true) 0
    fun _ _ => rfl

theorem pairNetwork_congr {round round' : ℕ} (h : round % 2 = round' % 2) :
    pairNetwork round = pairNetwork round' := by
  rw [pairNetwork, pairNetwork, h]

/-- A peer whose driver fails is left as it was, with the unlock sent back. -/
theorem deliver_pairNetwork (round : ℕ) (hround : round < 2) :
    (pairNetwork round).deliver pairTopology 0 (pairSurroundings false) =
      some (pairNetwork (round + 1)) := by
  have hunchanged : ∀ i : Fin 2, update (pairNetwork round).peers i (pairPeer
      (if i = 0 then .browserBackground .own else .desktopMain)) = (pairNetwork round).peers :=
    fun i => update_eq_self i _
  match round, hround with
  | 0, _ => exact congrArg (fun peers => some (Network.mk peers _)) (hunchanged 0)
  | 1, _ => exact congrArg (fun peers => some (Network.mk peers _)) (hunchanged 1)

/-- With drivers that fail, the two pass the unlock on to each other forever. -/
theorem failing_drivers_relay_forever :
    ∃ nets : ℕ → Network ℕ 2, nets 0 = pairNetwork 0 ∧
      ∀ k, (nets k).deliver pairTopology 0 (pairSurroundings false) = some (nets (k + 1)) := by
  refine ⟨pairNetwork, rfl, ?_⟩
  intro k
  rw [pairNetwork_congr (show k % 2 = k % 2 % 2 by omega),
    pairNetwork_congr (show (k + 1) % 2 = (k % 2 + 1) % 2 by omega)]
  exact deliver_pairNetwork (k % 2) (Nat.mod_lt k (by decide))

end Network

end SdkInternal.SharedUnlock
