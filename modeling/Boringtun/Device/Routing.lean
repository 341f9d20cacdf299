import Boringtun.Device.Device
import Boringtun.Noise.HandshakeRun

set_option autoImplicit false

/- How `register_udp_handler` finds the peer of an initiation, against what that peer's tunnel
   then does with it: the device opens `encrypted_static` under its own key pair to read the
   sender's key, and the tunnel filed under that key opens it again under the key pair it holds.
   They agree because every configuring call keeps each filed peer's tunnel on the device's
   current key pair and on the key it is filed under. -/
namespace Boringtun

open Noise Device

namespace Device

variable {P : Primitives} {N : IpNetworks}

def peerKey (p : Peer P N) : Bytes32 := p.tunnel.handshake.params.peerStaticPublic

def Holds (p : Peer P N) (privateKey publicKey : Bytes32) : Prop :=
  p.tunnel.handshake.params.staticPrivate = privateKey ∧ p.tunnel.handshake.params.staticPublic = publicKey

structure Keyed (d : Device P N) : Prop where
  pair : ∀ {privateKey publicKey}, d.keyPair = some (privateKey, publicKey) → publicKey = P.publicKey privateKey
  inArena : ∀ {key r}, d.peers.lookup key = some r → r < d.arena.length
  filed : ∀ {key r p}, d.peers.lookup key = some r → d.peer r = some p → peerKey p = key
  held : ∀ {privateKey publicKey key r p}, d.keyPair = some (privateKey, publicKey) → d.peers.lookup key = some r →
    d.peer r = some p → Holds p privateKey publicKey

theorem keyed_new (seed mask : IndexLfsr.Seed) : Keyed (Device.new P N seed mask) where
  pair known := by simp [Device.new] at known
  inArena filed := by simp [Device.new] at filed
  filed filed := by simp [Device.new] at filed
  held _ filed := by simp [Device.new] at filed

theorem Keyed.of_tables {d d' : Device P N} (keyed : Keyed d) (pair : d'.keyPair = d.keyPair)
    (arena : d'.arena = d.arena) (fewer : ∀ {key r}, d'.peers.lookup key = some r → d.peers.lookup key = some r) :
    Keyed d' where
  pair known := keyed.pair (pair ▸ known)
  inArena filed := arena ▸ keyed.inArena (fewer filed)
  filed filed stored := keyed.filed (fewer filed) (by rwa [peer, arena] at stored)
  held known filed stored := keyed.held (pair ▸ known) (fewer filed) (by rwa [peer, arena] at stored)

theorem keyed_remove_peer {d : Device P N} (keyed : Keyed d) (pubKey : Bytes32) : Keyed (d.removePeer pubKey) :=
  keyed.of_tables (key_pair_remove_peer d pubKey) (arena_remove_peer d pubKey) remove_peer_lookup

theorem keyed_clear_peers {d : Device P N} (keyed : Keyed d) : Keyed d.clearPeers :=
  keyed.of_tables rfl rfl fun filed => by simp [clearPeers] at filed

/-! `update_peer`: the new peer is filed at the end of the arena. -/

theorem lookup_add_peer (d : Device P N) (pubKey : Bytes32) (index : UInt32) (p : Peer P N)
    (peersByIp : AllowedIps N PeerRef) (key : Bytes32) :
    (d.addPeer pubKey index p peersByIp).peers.lookup key =
      if key = pubKey then some d.arena.length else d.peers.lookup key := by
  by_cases same : key = pubKey
  · subst same
    simp [addPeer]
  · simp [addPeer, same, AList.lookup_insert_ne same]

theorem filed_add_peer {d : Device P N} (keyed : Keyed d) {pubKey key : Bytes32} {index : UInt32} {p p' : Peer P N}
    {peersByIp : AllowedIps N PeerRef} {r : PeerRef} (filed : (d.addPeer pubKey index p peersByIp).peers.lookup key = some r)
    (stored : (d.addPeer pubKey index p peersByIp).peer r = some p') :
    (key = pubKey ∧ p' = p) ∨ (d.peers.lookup key = some r ∧ d.peer r = some p') := by
  rw [lookup_add_peer] at filed
  rw [peer_add_peer] at stored
  by_cases same : key = pubKey
  · rw [if_pos same] at filed
    cases filed
    rw [if_pos rfl] at stored
    cases stored
    exact .inl ⟨same, rfl⟩
  · rw [if_neg same] at filed
    -- an old entry points into the old arena, below the new position
    have before : r ≠ d.arena.length := Nat.ne_of_lt (keyed.inArena filed)
    rw [if_neg before] at stored
    exact .inr ⟨filed, stored⟩

theorem keyed_add_peer {d : Device P N} (keyed : Keyed d) {privateKey publicKey pubKey : Bytes32} {index : UInt32}
    {p : Peer P N} {peersByIp : AllowedIps N PeerRef} (known : d.keyPair = some (privateKey, publicKey))
    (own : peerKey p = pubKey) (holds : Holds p privateKey publicKey) : Keyed (d.addPeer pubKey index p peersByIp) where
  pair known' := keyed.pair known'
  inArena := by
    intro key r filed
    rw [lookup_add_peer] at filed
    have grown : (d.addPeer pubKey index p peersByIp).arena.length = d.arena.length + 1 := by simp [addPeer]
    rw [grown]
    split at filed
    · cases filed
      exact Nat.lt_succ_self _
    · exact Nat.lt_succ_of_lt (keyed.inArena filed)
  filed filed stored := by
    rcases filed_add_peer keyed filed stored with ⟨rfl, rfl⟩ | ⟨filed, stored⟩
    · exact own
    · exact keyed.filed filed stored
  held known' filed stored := by
    rcases filed_add_peer keyed filed stored with ⟨-, rfl⟩ | ⟨filed, stored⟩
    · change d.keyPair = _ at known'
      rw [known] at known'
      cases known'
      exact holds
    · exact keyed.held known' filed stored

/-! `set_key`: the loop body on one position. -/

section SetPeerKey

variable {privateKey publicKey : Bytes32} {rateLimiter : RateLimiter} {entropy : Entropy}
  {arena arena' : List (Peer P N)} {r : PeerRef}

theorem set_peer_key_holds (rekeyed : setPeerKey privateKey publicKey rateLimiter entropy arena r = .ok arena')
    {p : Peer P N} (stored : arena'[r]? = some p) : Holds p privateKey publicKey := by
  rcases set_peer_key_cases rekeyed with ⟨vacant, rfl⟩ | ⟨q, tunnel, found, changed, rfl⟩
  · rw [vacant] at stored
    cases stored
  · obtain ⟨params, handshake, priv, pub, -⟩ := Tunn.set_static_private_handshake changed
    have bound : r < arena.length := (List.getElem?_eq_some_iff.mp found).1
    rw [List.getElem?_set_self bound] at stored
    cases stored
    simp only [Holds, handshake]
    exact ⟨priv, pub⟩

theorem set_peer_key_ne (rekeyed : setPeerKey privateKey publicKey rateLimiter entropy arena r = .ok arena')
    {r' : PeerRef} (other : r' ≠ r) : arena'[r']? = arena[r']? := by
  rcases set_peer_key_cases rekeyed with ⟨-, rfl⟩ | ⟨q, tunnel, -, -, rfl⟩
  · rfl
  · exact List.getElem?_set_ne (Ne.symm other)

theorem set_peer_key_peer_key (rekeyed : setPeerKey privateKey publicKey rateLimiter entropy arena r = .ok arena')
    (r' : PeerRef) : (arena'[r']?).map peerKey = (arena[r']?).map peerKey := by
  by_cases here : r' = r
  · subst here
    rcases set_peer_key_cases rekeyed with ⟨-, rfl⟩ | ⟨q, tunnel, found, changed, rfl⟩
    · rfl
    · obtain ⟨params, handshake, -, -, kept⟩ := Tunn.set_static_private_handshake changed
      have bound : r' < arena.length := (List.getElem?_eq_some_iff.mp found).1
      rw [List.getElem?_set_self bound, found]
      simp [peerKey, handshake, kept]
  · rw [set_peer_key_ne rekeyed here]

end SetPeerKey

theorem keyed_set_key {d d' : Device P N} (keyed : Keyed d) {privateKey : Bytes32} {entropy : Entropy}
    (rekeyed : d.setKey privateKey entropy = .ok d') : Keyed d' := by
  rcases set_key_cases rekeyed with rfl | ⟨arena, folded, rfl⟩
  · exact keyed
  -- the loop keeps every peer's own key and leaves the peer of each entry of `peers` on the new
  -- pair; a later entry at the same position rekeys it to the same pair
  obtain ⟨kept, rekeyedAll⟩ := Loop.foldlM_ok_forall
    (fun arena : List (Peer P N) => ∀ r, (arena[r]?).map peerKey = (d.arena[r]?).map peerKey)
    (fun arena e => ∀ p, arena[e.2]? = some p → Holds p privateKey (P.publicKey privateKey)) _ _
    (fun _ _ _ same step => ⟨fun r => (set_peer_key_peer_key step r).trans (same r), fun _ => set_peer_key_holds step⟩)
    (fun _ x _ y _ step held p stored => by
      by_cases here : y.2 = x.2
      · exact set_peer_key_holds step (here ▸ stored)
      · exact held p (by rwa [set_peer_key_ne step here] at stored))
    d.arena (fun _ => rfl) folded
  refine ⟨fun known => ?_, fun {key r} filed => ?_, fun {key r p} filed stored => ?_,
    fun {privateKey' publicKey' key r p} known filed stored => ?_⟩
  · simp only [Option.some.injEq, Prod.mk.injEq] at known
    rw [← known.1, ← known.2]
  · -- the loop keeps a peer wherever there was one
    have old := kept r
    rw [List.getElem?_eq_getElem (keyed.inArena filed)] at old
    by_contra beyond
    rw [List.getElem?_eq_none (Nat.le_of_not_lt beyond : arena.length ≤ r)] at old
    cases old
  · have old := kept r
    change arena[r]? = some p at stored
    rw [stored] at old
    cases found : d.arena[r]? with
    | none =>
        rw [found] at old
        cases old
    | some q =>
        rw [found, Option.map_some, Option.map_some, Option.some.injEq] at old
        rw [old]
        exact keyed.filed filed found
  · simp only [Option.some.injEq, Prod.mk.injEq] at known
    rw [← known.1, ← known.2]
    exact rekeyedAll ⟨key, r⟩ (AList.mem_lookup_iff.mp filed) _ stored

/-! Runs of configuring calls. -/

theorem keyed_step {d d' : Device P N} (keyed : Keyed d) (step : Step d d') : Keyed d' := by
  cases step with
  | updatePeer _ pubKey remove replaceIps endpoint allowedIps keepalive presharedKey entropy updated =>
      rcases update_peer_cases updated with ⟨-, rfl⟩ | ⟨-, -, g, index, -, ⟨-, rfl⟩ | added⟩
      · exact keyed_remove_peer keyed pubKey
      · exact keyed.of_tables rfl rfl id
      · obtain ⟨privateKey, publicKey, p, peersByIp, known, created, -, rfl⟩ := added
        -- the new tunnel is made from the device's private key, for the peer's key
        obtain ⟨tunnel, -⟩ := Peer.new_inversion created
        have pub : publicKey = P.publicKey privateKey := keyed.pair known
        have indexed : Keyed ({ d with nextIndex := g } : Device P N) := keyed.of_tables rfl rfl id
        refine keyed_add_peer indexed known ?_ ?_
        · simp [peerKey, tunnel, Tunn.new, Handshake.new, NoiseParams.new]
        · simp [Holds, tunnel, Tunn.new, Handshake.new, NoiseParams.new, pub]
  | removePeer pubKey => exact keyed_remove_peer keyed pubKey
  | clearPeers => exact keyed_clear_peers keyed
  | setKey _ privateKey entropy rekeyed => exact keyed_set_key keyed rekeyed

theorem reachable_keyed {d : Device P N} (reachable : Reachable d) : Keyed d := by
  obtain ⟨seed, mask, run⟩ := reachable
  induction run with
  | refl => exact keyed_new seed mask
  | tail _ step keyed => exact keyed_step keyed step

-- `register_udp_handler` finds the peer of an initiation with `parse_handshake_anon` under the
-- device's key pair; the tunnel of the peer it finds then passes the same static-key step and
-- opens the same key, and an initiation the lookup refuses is refused by every filed tunnel with
-- the same error.
theorem anon_lookup_agrees {d : Device P N} (reachable : Reachable d) {privateKey publicKey : Bytes32}
    (keyed : d.keyPair = some (privateKey, publicKey)) (packet : HandshakeInit) :
    (∀ hh r p, parseHandshakeAnon P privateKey publicKey packet = .ok (.ok hh) →
        d.peers.lookup hh.peerStaticPublic = some r → d.peer r = some p →
        ∃ hash chainingKey, Handshake.openStatic p.tunnel.handshake.params packet =
            .ok (.ok (hash, chainingKey, hh.peerStaticPublic.toList)) ∧
          ∀ dst ephemeralPrivate, p.tunnel.handshake.receiveHandshakeInitialization packet dst ephemeralPrivate =
            p.tunnel.handshake.receiveAfterStatic packet dst ephemeralPrivate hash chainingKey) ∧
      ∀ e, parseHandshakeAnon P privateKey publicKey packet = .ok (.error e) →
        ∀ key r p, d.peers.lookup key = some r → d.peer r = some p →
          Handshake.openStatic p.tunnel.handshake.params packet = .ok (.error e) ∧
          ∀ dst ephemeralPrivate, p.tunnel.handshake.receiveHandshakeInitialization packet dst ephemeralPrivate =
            .ok (p.tunnel.handshake, .error e) := by
  have invariant := reachable_keyed reachable
  -- every filed tunnel opens under the device's key pair
  have sameKeys : ∀ {key r p}, d.peers.lookup key = some r → d.peer r = some p →
      parseHandshakeAnon P privateKey publicKey packet =
        parseHandshakeAnon P p.tunnel.handshake.params.staticPrivate p.tunnel.handshake.params.staticPublic packet := by
    intro key r p filed stored
    obtain ⟨priv, pub⟩ := invariant.held keyed filed stored
    rw [priv, pub]
  refine ⟨fun hh r p parsed filed stored => ?_, fun e parsed key r p filed stored => ?_⟩
  · rw [sameKeys filed stored] at parsed
    obtain ⟨hash, chainingKey, opened⟩ :=
      (Handshake.parse_anon_open_static _ packet).1 hh parsed (invariant.filed filed stored)
    refine ⟨hash, chainingKey, opened, fun dst ephemeralPrivate => ?_⟩
    rw [Handshake.receive_initiation_static, opened]
  · rw [sameKeys filed stored] at parsed
    have opened := (Handshake.parse_anon_open_static _ packet).2 e parsed
    refine ⟨opened, fun dst ephemeralPrivate => ?_⟩
    rw [Handshake.receive_initiation_static, opened]

-- A device keyed with the key of ones, then given the peer of key twos; its lookup finds the peer
-- of an initiation sealed for twos, and that peer's tunnel gets past the static-key step too.
def plainEntropy : Entropy := ⟨⟨0, 0⟩, 0, Vector.replicate 32 0, Vector.replicate 16 0⟩

def plainKeyed : Device Primitives.plain IpNetworks.prefixMap :=
  { Device.new Primitives.plain IpNetworks.prefixMap ⟨1, IndexLfsr.in_range_one⟩ ⟨1, IndexLfsr.in_range_one⟩ with
    keyPair := some (Vector.replicate 32 1, Vector.replicate 32 1)
    rateLimiter := some (RateLimiter.new Primitives.plain (Vector.replicate 32 1) handshakeRateLimit
      (Vector.replicate 32 0) (Vector.replicate 16 0) 0) }

def plainPeered : Device Primitives.plain IpNetworks.prefixMap :=
  match plainKeyed.updatePeer (Vector.replicate 32 2) false false none [] none none plainEntropy with
  | .ok d => d
  | .error _ => plainKeyed

def plainSealedInit : HandshakeInit :=
  { senderIdx := 7
    unencryptedEphemeral := Vector.replicate 32 3
    encryptedStatic := List.replicate 48 2
    encryptedTimestamp := List.replicate 28 0 }

theorem plain_anon_lookup_agrees :
    Reachable plainPeered ∧ plainPeered.keyPair = some (Vector.replicate 32 1, Vector.replicate 32 1) ∧
      parseHandshakeAnon Primitives.plain (Vector.replicate 32 1) (Vector.replicate 32 1) plainSealedInit =
        .ok (.ok ⟨7, Vector.replicate 32 2⟩) ∧
      plainPeered.peers.lookup (Vector.replicate 32 2) = some 0 ∧
      ∃ p, plainPeered.peer 0 = some p ∧ ∃ hash chainingKey,
        Handshake.openStatic p.tunnel.handshake.params plainSealedInit =
          .ok (.ok (hash, chainingKey, (Vector.replicate 32 2 : Bytes32).toList)) ∧
        ∀ dst ephemeralPrivate, p.tunnel.handshake.receiveHandshakeInitialization plainSealedInit dst ephemeralPrivate =
          p.tunnel.handshake.receiveAfterStatic plainSealedInit dst ephemeralPrivate hash chainingKey := by
  have reachable : Reachable plainPeered :=
    ⟨⟨1, IndexLfsr.in_range_one⟩, ⟨1, IndexLfsr.in_range_one⟩,
      .tail (.single (Step.setKey _ _ (Vector.replicate 32 1) plainEntropy rfl))
        (Step.updatePeer _ _ (Vector.replicate 32 2) false false none [] none none plainEntropy rfl)⟩
  have parsed : parseHandshakeAnon Primitives.plain (Vector.replicate 32 1) (Vector.replicate 32 1) plainSealedInit =
      .ok (.ok ⟨7, Vector.replicate 32 2⟩) := rfl
  obtain ⟨p, stored⟩ : ∃ p, plainPeered.peer 0 = some p := ⟨_, rfl⟩
  exact ⟨reachable, rfl, parsed, rfl, p, stored,
    (anon_lookup_agrees reachable rfl plainSealedInit).1 _ 0 p parsed rfl stored⟩

end Device

end Boringtun
