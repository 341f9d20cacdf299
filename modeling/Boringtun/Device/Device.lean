import Boringtun.Device.IndexLfsr
import Boringtun.Device.Peer
import Boringtun.Lib.Loop

set_option autoImplicit false

/- The peer tables of `Device` in `device/mod.rs`. A peer is an `Arc<Mutex<Peer>>` shared by
   three tables: `peers` by public key, `peers_by_idx` by the index it was given and
   `peers_by_ip` by the networks it may send from. The model keeps every peer ever made in an
   arena and puts its position, a `PeerRef`, in the tables, so that `Arc::ptr_eq` is equality of
   positions. A listening socket is kept as the port it is bound to; the event queue, the
   interface and the threads are left out, and the clock and `OsRng` readings a new tunnel or
   rate limiter takes are arguments. The IP networks and their table are the parameter `N`. -/
namespace Boringtun.Device

open Noise

def handshakeRateLimit : UInt64 := 100

abbrev PeerRef := ℕ

-- What a new tunnel or rate limiter reads from the clock and from `OsRng`.
structure Entropy where
  stamper : TimeStamper
  now : Instant
  nonceKey : Bytes32
  secretKey : Bytes16

end Boringtun.Device

namespace Boringtun

open Noise Device

structure Device (P : Primitives) (N : IpNetworks) where
  keyPair : Option (Bytes32 × Bytes32)
  listenPort : UInt16
  -- the port each listening socket is bound to, while it is open
  udp4 : Option UInt16
  udp6 : Option UInt16
  fwmark : Option UInt32
  nextIndex : IndexLfsr
  peers : AList (fun _ : Bytes32 => PeerRef)
  peersByIp : AllowedIps N PeerRef
  peersByIdx : AList (fun _ : UInt32 => PeerRef)
  rateLimiter : Option RateLimiter
  arena : List (Peer P N)

namespace Device

variable {P : Primitives} {N : IpNetworks}

-- The pure part of `Device::new`: no key, no peers, and a generator from two random seeds.
def new (P : Primitives) (N : IpNetworks) (seed mask : IndexLfsr.Seed) : Device P N :=
  { keyPair := none
    listenPort := 0
    udp4 := none
    udp6 := none
    fwmark := none
    nextIndex := IndexLfsr.default seed mask
    peers := ∅
    peersByIp := AllowedIps.new
    peersByIdx := ∅
    rateLimiter := none
    arena := [] }

def peer (d : Device P N) (r : PeerRef) : Option (Peer P N) := d.arena[r]?

def takeNextIndex (d : Device P N) : Except String (Device P N × UInt32) := do
  let (g, index) ← d.nextIndex.next
  return ({ d with nextIndex := g }, index)

def removePeer (d : Device P N) (pubKey : Bytes32) : Device P N :=
  match d.peers.lookup pubKey with
  | none => d
  | some r =>
      -- Found a peer to remove, now purge all references to it
      let peersByIdx :=
        match d.peer r with
        | some p => d.peersByIdx.erase p.index
        | none => d.peersByIdx
      { d with
        peers := d.peers.erase pubKey
        peersByIdx
        peersByIp := d.peersByIp.remove (· == r) }

def addPeer (d : Device P N) (pubKey : Bytes32) (index : UInt32) (p : Peer P N) (peersByIp : AllowedIps N PeerRef) :
    Device P N :=
  { d with
    arena := d.arena ++ [p]
    peers := d.peers.insert pubKey d.arena.length
    peersByIdx := d.peersByIdx.insert index d.arena.length
    peersByIp }

-- `_replace_ips` is not read: the source ignores it.
def updatePeer (d : Device P N) (pubKey : Bytes32) (remove _replaceIps : Bool) (endpoint : Option SocketAddr)
    (allowedIps : List AllowedIP) (keepalive : Option UInt16) (presharedKey : Option Bytes32) (entropy : Entropy) :
    Except String (Device P N) := do
  if remove then
    return d.removePeer pubKey
  if pubKey ∈ d.peers then
    throw "Modifying existing peers is not yet supported. Remove and add again instead."
  let (d, nextIndex) ← d.takeNextIndex
  match d.keyPair with
  -- "Private key must be set first"
  | none => return d
  | some (privateKey, _) =>
      let tunn := Tunn.new P privateKey pubKey presharedKey keepalive nextIndex none entropy.stamper entropy.now
        entropy.nonceKey entropy.secretKey
      let peer ← Peer.new tunn nextIndex endpoint allowedIps presharedKey
      let peersByIp ← d.peersByIp.insertAll allowedIps d.arena.length
      return d.addPeer pubKey nextIndex peer peersByIp

-- The body of the loop over `peers.values_mut()` in `set_key`, for the peer at `r`.
def setPeerKey (privateKey publicKey : Bytes32) (rateLimiter : RateLimiter) (entropy : Entropy)
    (arena : List (Peer P N)) (r : PeerRef) : Except String (List (Peer P N)) :=
  match arena[r]? with
  | none => return arena
  | some p => do
      let tunnel ← p.tunnel.setStaticPrivate privateKey publicKey (some rateLimiter) entropy.nonceKey
        entropy.secretKey entropy.now
      return arena.set r { p with tunnel }

def setKey (d : Device P N) (privateKey : Bytes32) (entropy : Entropy) : Except String (Device P N) := do
  let publicKey := P.publicKey privateKey
  let keyPair := some (privateKey, publicKey)
  -- If the public keys are the same, then the private keys are the same.
  if some publicKey = d.keyPair.map (·.2) then return d
  let rateLimiter := RateLimiter.new P publicKey handshakeRateLimit entropy.nonceKey entropy.secretKey entropy.now
  let arena ← d.peers.entries.foldlM (fun arena e => setPeerKey privateKey publicKey rateLimiter entropy arena e.2)
    d.arena
  return { d with keyPair, rateLimiter := some rateLimiter, arena }

def clearPeers (d : Device P N) : Device P N :=
  { d with peers := ∅, peersByIdx := ∅, peersByIp := d.peersByIp.clear }

/-! How `register_udp_handler` finds the peer of a verified packet: by the static key an
    initiation was sealed with, and by the high 24 bits of the receiver index otherwise. -/

def peerByIdx (d : Device P N) (receiverIdx : UInt32) : Option PeerRef := d.peersByIdx.lookup (receiverIdx >>> 8)

def peerOf (d : Device P N) (privateKey publicKey : Bytes32) : Packet → Except String (Option PeerRef)
  | .handshakeInit p => do
      match ← parseHandshakeAnon P privateKey publicKey p with
      | .error _ => return none
      | .ok hh => return d.peers.lookup hh.peerStaticPublic
  | .handshakeResponse p => return d.peerByIdx p.receiverIdx
  | .packetCookieReply p => return d.peerByIdx p.receiverIdx
  | .packetData p => return d.peerByIdx p.receiverIdx

/-! The calls a configuring client makes, as a transition relation: every call that does not
    panic is a step. -/

inductive Step : Device P N → Device P N → Prop
  | updatePeer (d d' : Device P N) (pubKey : Bytes32) (remove replaceIps : Bool) (endpoint : Option SocketAddr)
      (allowedIps : List AllowedIP) (keepalive : Option UInt16) (presharedKey : Option Bytes32) (entropy : Entropy)
      (updated : d.updatePeer pubKey remove replaceIps endpoint allowedIps keepalive presharedKey entropy = .ok d') :
      Step d d'
  | removePeer (d : Device P N) (pubKey : Bytes32) : Step d (d.removePeer pubKey)
  | clearPeers (d : Device P N) : Step d d.clearPeers
  | setKey (d d' : Device P N) (privateKey : Bytes32) (entropy : Entropy) (keyed : d.setKey privateKey entropy = .ok d') :
      Step d d'

def Reachable (d : Device P N) : Prop := ∃ seed mask, Relation.ReflTransGen Step (Device.new P N seed mask) d

/-! What each call does to the tables. -/

theorem take_next_index_inversion {d d' : Device P N} {index : UInt32} (taken : d.takeNextIndex = .ok (d', index)) :
    ∃ g, d.nextIndex.next = .ok (g, index) ∧ d' = { d with nextIndex := g } := by
  simp only [takeNextIndex, bind, Except.bind, pure, Except.pure] at taken
  split at taken
  · cases taken
  · rename_i result stepped
    cases taken
    exact ⟨_, stepped, rfl⟩

theorem update_peer_cases {d d' : Device P N} {pubKey : Bytes32} {remove replaceIps : Bool}
    {endpoint : Option SocketAddr} {allowedIps : List AllowedIP} {keepalive : Option UInt16}
    {presharedKey : Option Bytes32} {entropy : Entropy}
    (updated : d.updatePeer pubKey remove replaceIps endpoint allowedIps keepalive presharedKey entropy = .ok d') :
    (remove = true ∧ d' = d.removePeer pubKey) ∨
    (remove = false ∧ pubKey ∉ d.peers ∧ ∃ g index, d.nextIndex.next = .ok (g, index) ∧
      ((d.keyPair = none ∧ d' = { d with nextIndex := g }) ∨
       ∃ privateKey publicKey p peersByIp, d.keyPair = some (privateKey, publicKey) ∧
         Peer.new (Tunn.new P privateKey pubKey presharedKey keepalive index none entropy.stamper entropy.now
           entropy.nonceKey entropy.secretKey) index endpoint allowedIps presharedKey = .ok p ∧
         d.peersByIp.insertAll allowedIps d.arena.length = .ok peersByIp ∧
         d' = ({ d with nextIndex := g } : Device P N).addPeer pubKey index p peersByIp)) := by
  cases remove with
  | true =>
      left
      simp only [updatePeer, if_true, pure, Except.pure] at updated
      cases updated
      exact ⟨rfl, rfl⟩
  | false =>
      right
      simp only [updatePeer, Bool.false_eq_true, if_false] at updated
      by_cases present : pubKey ∈ d.peers
      · simp [present, throw, throwThe, MonadExceptOf.throw, Except.bind, bind] at updated
      refine ⟨rfl, present, ?_⟩
      simp only [present, if_false, bind, Except.bind] at updated
      cases taken : d.takeNextIndex with
      | error e => simp [taken] at updated
      | ok result =>
          obtain ⟨d1, index⟩ := result
          obtain ⟨g, stepped, rfl⟩ := take_next_index_inversion taken
          refine ⟨g, index, stepped, ?_⟩
          simp only [taken] at updated
          cases keys : d.keyPair with
          | none =>
              simp only [keys, pure, Except.pure, Except.ok.injEq] at updated
              exact .inl ⟨rfl, updated.symm⟩
          | some pair =>
              obtain ⟨privateKey, publicKey⟩ := pair
              simp only [keys] at updated
              cases created : Peer.new (N := N) (Tunn.new P privateKey pubKey presharedKey keepalive index none entropy.stamper
                  entropy.now entropy.nonceKey entropy.secretKey) index endpoint allowedIps presharedKey with
              | error e => simp [created] at updated
              | ok p =>
                  simp only [created] at updated
                  cases inserted : d.peersByIp.insertAll allowedIps d.arena.length with
                  | error e => simp [inserted] at updated
                  | ok peersByIp =>
                      simp only [inserted, pure, Except.pure, Except.ok.injEq] at updated
                      exact .inr ⟨privateKey, publicKey, p, peersByIp, rfl, created, rfl, updated.symm⟩

@[simp] theorem remove_peer_absent {d : Device P N} {pubKey : Bytes32} (absent : d.peers.lookup pubKey = none) :
    d.removePeer pubKey = d := by
  simp [removePeer, absent]

theorem remove_peer_present {d : Device P N} {pubKey : Bytes32} {r : PeerRef} {p : Peer P N}
    (present : d.peers.lookup pubKey = some r) (stored : d.peer r = some p) :
    d.removePeer pubKey =
      { d with
        peers := d.peers.erase pubKey
        peersByIdx := d.peersByIdx.erase p.index
        peersByIp := d.peersByIp.remove (· == r) } := by
  simp [removePeer, present, stored]

theorem set_peer_key_cases {privateKey publicKey : Bytes32} {rateLimiter : RateLimiter} {entropy : Entropy}
    {arena arena' : List (Peer P N)} {r : PeerRef}
    (rekeyed : setPeerKey privateKey publicKey rateLimiter entropy arena r = .ok arena') :
    (arena[r]? = none ∧ arena' = arena) ∨
      ∃ p tunnel, arena[r]? = some p ∧
        p.tunnel.setStaticPrivate privateKey publicKey (some rateLimiter) entropy.nonceKey entropy.secretKey
          entropy.now = .ok tunnel ∧ arena' = arena.set r { p with tunnel } := by
  unfold setPeerKey at rekeyed
  split at rekeyed
  · rename_i vacant
    cases rekeyed
    exact .inl ⟨vacant, rfl⟩
  · rename_i p stored
    obtain ⟨tunnel, changed, rekeyed⟩ := Loop.bind_eq_ok.mp rekeyed
    cases rekeyed
    exact .inr ⟨p, tunnel, stored, changed, rfl⟩

theorem set_peer_key_routes {privateKey publicKey : Bytes32} {rateLimiter : RateLimiter} {entropy : Entropy}
    {arena arena' : List (Peer P N)} {r : PeerRef}
    (rekeyed : setPeerKey privateKey publicKey rateLimiter entropy arena r = .ok arena') :
    arena'.map Peer.routes = arena.map Peer.routes := by
  rcases set_peer_key_cases rekeyed with ⟨-, rfl⟩ | ⟨p, tunnel, stored, changed, rfl⟩
  · rfl
  · have same : Peer.routes { p with tunnel } = Peer.routes p := by
      simp [Peer.routes, Tunn.set_static_private_next_index changed]
    rw [List.map_set, same]
    apply List.ext_getElem?
    intro i
    by_cases here : i = r
    · subst here
      obtain ⟨bound, atR⟩ := List.getElem?_eq_some_iff.mp stored
      simp [bound, atR]
    · simp [List.getElem?_set_ne (Ne.symm here)]

theorem set_key_cases {d d' : Device P N} {privateKey : Bytes32} {entropy : Entropy}
    (keyed : d.setKey privateKey entropy = .ok d') :
    d' = d ∨
      ∃ arena, d.peers.entries.foldlM
          (fun arena e => setPeerKey privateKey (P.publicKey privateKey)
            (RateLimiter.new P (P.publicKey privateKey) handshakeRateLimit entropy.nonceKey entropy.secretKey
              entropy.now) entropy arena e.2) d.arena = .ok arena ∧
        d' = { d with
          keyPair := some (privateKey, P.publicKey privateKey)
          rateLimiter := some (RateLimiter.new P (P.publicKey privateKey) handshakeRateLimit entropy.nonceKey
            entropy.secretKey entropy.now)
          arena } := by
  simp only [setKey] at keyed
  split at keyed
  · cases keyed
    exact .inl rfl
  · obtain ⟨arena, folded, keyed⟩ := Loop.bind_eq_ok.mp keyed
    cases keyed
    exact .inr ⟨arena, folded, rfl⟩

theorem set_key_tables {d d' : Device P N} {privateKey : Bytes32} {entropy : Entropy}
    (keyed : d.setKey privateKey entropy = .ok d') :
    d'.peers = d.peers ∧ d'.peersByIdx = d.peersByIdx ∧ d'.peersByIp = d.peersByIp ∧ d'.nextIndex = d.nextIndex ∧
      d'.arena.map Peer.routes = d.arena.map Peer.routes := by
  rcases set_key_cases keyed with rfl | ⟨arena, folded, rfl⟩
  · exact ⟨rfl, rfl, rfl, rfl, rfl⟩
  -- every peer the loop rekeys keeps what it is routed by
  · refine ⟨rfl, rfl, rfl, rfl, ?_⟩
    exact Loop.foldlM_ok_invariant (fun arena => arena.map Peer.routes = d.arena.map Peer.routes) _ _
      (fun _ _ _ _ same rekeyed => (set_peer_key_routes rekeyed).trans same) d.arena rfl folded

theorem remove_peer_lookup {d : Device P N} {pubKey key : Bytes32} {r : PeerRef}
    (filed : (d.removePeer pubKey).peers.lookup key = some r) : d.peers.lookup key = some r := by
  unfold removePeer at filed
  split at filed
  · exact filed
  · by_cases same : key = pubKey
    · subst same
      simp at filed
    · simpa [AList.lookup_erase_ne same] using filed

@[simp] theorem arena_remove_peer (d : Device P N) (pubKey : Bytes32) : (d.removePeer pubKey).arena = d.arena := by
  unfold removePeer
  split <;> rfl

@[simp] theorem key_pair_remove_peer (d : Device P N) (pubKey : Bytes32) :
    (d.removePeer pubKey).keyPair = d.keyPair := by
  unfold removePeer
  split <;> rfl

@[simp] theorem peer_add_peer (d : Device P N) (pubKey : Bytes32) (index : UInt32) (p : Peer P N)
    (peersByIp : AllowedIps N PeerRef) (r : PeerRef) :
    (d.addPeer pubKey index p peersByIp).peer r = if r = d.arena.length then some p else d.peer r := by
  simp only [peer, addPeer]
  by_cases last : r = d.arena.length
  · subst last
    simp
  · rw [if_neg last, List.getElem?_append]
    split
    · rfl
    · rename_i outside
      have beyond : d.arena.length < r := Nat.lt_of_le_of_ne (Nat.le_of_not_lt outside) (Ne.symm last)
      simp [List.getElem?_eq_none (Nat.le_of_lt beyond), Nat.sub_ne_zero_of_lt beyond]

end Device

end Boringtun
