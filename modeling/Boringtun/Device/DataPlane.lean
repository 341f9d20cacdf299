import Boringtun.Device.Handlers
import Boringtun.Noise.Outcomes

set_option autoImplicit false

/- What the handlers of `device/mod.rs` keep and what they write. They never change the key pair,
   the tables or a peer's index, allowed IPs and preshared key: only tunnels and endpoints move.
   Every packet they write to the interface is data that opened under a session of the peer it was
   routed to, from a source that peer's allowed IPs hold. -/
namespace Boringtun.Device

open Noise

variable {P : Primitives} {N : IpNetworks}

namespace Output

def interfaceWrite : Output → Option Bytes
  | .write4 packet => some packet
  | .write6 packet => some packet
  | _ => none

end Output

namespace Peer

-- All of a peer that the data plane leaves: everything but its tunnel and endpoint.
structure SameConfig (p p' : Peer P N) : Prop where
  index : p'.index = p.index
  allowedIps : p'.allowedIps = p.allowedIps
  presharedKey : p'.presharedKey = p.presharedKey

theorem same_config_refl (p : Peer P N) : p.SameConfig p := ⟨rfl, rfl, rfl⟩

theorem SameConfig.trans {p p' p'' : Peer P N} (first : p.SameConfig p') (second : p'.SameConfig p'') :
    p.SameConfig p'' :=
  ⟨second.index.trans first.index, second.allowedIps.trans first.allowedIps, second.presharedKey.trans first.presharedKey⟩

theorem same_config_tunnel (p : Peer P N) (tunnel : Tunn P) : p.SameConfig { p with tunnel } := ⟨rfl, rfl, rfl⟩

theorem same_config_set_endpoint (p : Peer P N) (addr : SocketAddr) : p.SameConfig (p.setEndpoint addr).1 := by
  unfold setEndpoint
  split <;> exact ⟨rfl, rfl, rfl⟩

end Peer

/-! The write and the flush after a tunnel call. -/

theorem flush_peer_ok {p p' : Peer P N} {dst : Bytes} {ephemeralPrivate : Bytes32} {now : Instant} {packets : List Bytes}
    (flushed : flushPeer p dst ephemeralPrivate now = .ok (p', packets)) :
    ∃ tunnel, flushQueue p.tunnel dst ephemeralPrivate now = .ok (some (tunnel, packets)) ∧ p' = { p with tunnel } := by
  unfold flushPeer at flushed
  split at flushed
  · cases flushed
  · rename_i tunnel packets' queued
    cases flushed
    exact ⟨tunnel, queued, rfl⟩
  · rename_i ranOut
    exact absurd ranOut (flush_ends p.tunnel dst ephemeralPrivate now le_rfl)

theorem answer_peer {p p' : Peer P N} {reply : Bytes → Output} {result : TunnResult} {dst : Bytes}
    {ephemeralPrivate : Bytes32} {now : Instant} {outputs : List Output}
    (answered : answer p reply result dst ephemeralPrivate now = .ok (p', outputs)) : ∃ tunnel, p' = { p with tunnel } := by
  unfold answer at answered
  split at answered
  · obtain ⟨⟨p1, packets⟩, flushed, returned⟩ := Loop.bind_eq_ok.mp answered
    cases returned
    obtain ⟨tunnel, -, rfl⟩ := flush_peer_ok flushed
    exact ⟨tunnel, rfl⟩
  · cases answered
    exact ⟨p.tunnel, rfl⟩

section Writes

variable {reply : Bytes → Output} (quiet : ∀ packet, (reply packet).interfaceWrite = none)

include quiet in
theorem deliver_writes {p : Peer P N} {result : TunnResult} {o : Output} {flush : Bool}
    (delivered : deliver p reply result = (some o, flush)) {packet : Bytes} (written : o.interfaceWrite = some packet) :
    ∃ src, result.tunnelWrite = some (packet, src) ∧ p.isAllowedIp src = true := by
  cases result with
  | done => cases delivered
  | err e => cases delivered
  | writeToNetwork m =>
      cases delivered
      rw [quiet] at written
      cases written
  | writeToTunnelV4 m addr =>
      simp only [deliver] at delivered
      split at delivered
      · rename_i allowed
        cases delivered
        cases written
        exact ⟨_, rfl, allowed⟩
      · cases delivered
  | writeToTunnelV6 m addr =>
      simp only [deliver] at delivered
      split at delivered
      · rename_i allowed
        cases delivered
        cases written
        exact ⟨_, rfl, allowed⟩
      · cases delivered

-- The flushed packets go out through `reply`, so only the tunnel's own result reaches the
-- interface, and only from an allowed source.
include quiet in
theorem answer_writes {p p' : Peer P N} {result : TunnResult} {dst : Bytes} {ephemeralPrivate : Bytes32} {now : Instant}
    {outputs : List Output} (answered : answer p reply result dst ephemeralPrivate now = .ok (p', outputs))
    {o : Output} (mem : o ∈ outputs) {packet : Bytes} (written : o.interfaceWrite = some packet) :
    ∃ src, result.tunnelWrite = some (packet, src) ∧ p.isAllowedIp src = true := by
  unfold answer at answered
  split at answered
  · rename_i write delivered
    obtain ⟨⟨p1, packets⟩, -, returned⟩ := Loop.bind_eq_ok.mp answered
    cases returned
    rcases List.mem_append.mp mem with written' | flushed
    · exact deliver_writes quiet (by rw [Option.mem_toList.mp written'] at delivered; exact delivered) written
    · obtain ⟨flushedPacket, -, rfl⟩ := List.mem_map.mp flushed
      rw [quiet] at written
      cases written
  · rename_i write delivered
    cases answered
    exact deliver_writes quiet (by rw [Option.mem_toList.mp mem] at delivered; exact delivered) written

end Writes

/-! What the data plane keeps of a device. -/

structure Keeps (d d' : Device P N) : Prop where
  keyPair : d'.keyPair = d.keyPair
  peers : d'.peers = d.peers
  peersByIdx : d'.peersByIdx = d.peersByIdx
  peersByIp : d'.peersByIp = d.peersByIp
  nextIndex : d'.nextIndex = d.nextIndex
  udp4 : d'.udp4 = d.udp4
  udp6 : d'.udp6 = d.udp6
  length : d'.arena.length = d.arena.length
  config : ∀ {r p'}, d'.peer r = some p' → ∃ p, d.peer r = some p ∧ p.SameConfig p'

theorem keeps_refl (d : Device P N) : Keeps d d :=
  ⟨rfl, rfl, rfl, rfl, rfl, rfl, rfl, rfl, fun {_ p'} found => ⟨p', found, Peer.same_config_refl p'⟩⟩

theorem Keeps.trans {d d' d'' : Device P N} (first : Keeps d d') (second : Keeps d' d'') : Keeps d d'' where
  keyPair := second.keyPair.trans first.keyPair
  peers := second.peers.trans first.peers
  peersByIdx := second.peersByIdx.trans first.peersByIdx
  peersByIp := second.peersByIp.trans first.peersByIp
  nextIndex := second.nextIndex.trans first.nextIndex
  udp4 := second.udp4.trans first.udp4
  udp6 := second.udp6.trans first.udp6
  length := second.length.trans first.length
  config := fun found'' => by
    obtain ⟨p', found', same'⟩ := second.config found''
    obtain ⟨p, found, same⟩ := first.config found'
    exact ⟨p, found, same.trans same'⟩

theorem peer_set_peer_self {d : Device P N} {r : PeerRef} (bound : r < d.arena.length) (p : Peer P N) :
    (d.setPeer r p).peer r = some p :=
  List.getElem?_set_self bound

theorem peer_set_peer_ne (d : Device P N) {r r' : PeerRef} (p : Peer P N) (other : r ≠ r') :
    (d.setPeer r p).peer r' = d.peer r' :=
  List.getElem?_set_ne other

theorem keeps_set_peer {d : Device P N} {r : PeerRef} {p p' : Peer P N} (found : d.peer r = some p) (same : p.SameConfig p') :
    Keeps d (d.setPeer r p') where
  keyPair := rfl
  peers := rfl
  peersByIdx := rfl
  peersByIp := rfl
  nextIndex := rfl
  udp4 := rfl
  udp6 := rfl
  length := List.length_set
  config := by
    intro r' p'' found''
    by_cases here : r = r'
    · subst here
      rw [peer_set_peer_self (List.getElem?_eq_some_iff.mp found).1] at found''
      cases found''
      exact ⟨p, found, same⟩
    · rw [peer_set_peer_ne d p' here] at found''
      exact ⟨p'', found'', Peer.same_config_refl p''⟩

def Settled (d d' : Device P N) : Prop := ∀ {r p'}, d'.peer r = some p' → ∃ p, d.peer r = some p ∧ p'.endpoint = p.endpoint

theorem settled_refl (d : Device P N) : Settled d d := fun {_ p'} found => ⟨p', found, rfl⟩

theorem Settled.trans {d d' d'' : Device P N} (first : Settled d d') (second : Settled d' d'') : Settled d d'' :=
  fun found'' => by
    obtain ⟨p', found', same'⟩ := second found''
    obtain ⟨p, found, same⟩ := first found'
    exact ⟨p, found, same'.trans same⟩

theorem settled_set_peer {d : Device P N} {r : PeerRef} {p : Peer P N} (found : d.peer r = some p) (tunnel : Tunn P) :
    Settled d (d.setPeer r { p with tunnel }) := by
  intro r' p' found'
  by_cases here : r = r'
  · subst here
    rw [peer_set_peer_self (List.getElem?_eq_some_iff.mp found).1] at found'
    cases found'
    exact ⟨p, found, rfl⟩
  · rw [peer_set_peer_ne d _ here] at found'
    exact ⟨p', found', rfl⟩

theorem keeps_rate_limiter (d : Device P N) (rateLimiter : Option RateLimiter) : Keeps d { d with rateLimiter } :=
  ⟨rfl, rfl, rfl, rfl, rfl, rfl, rfl, rfl, fun {_ p'} found => ⟨p', found, Peer.same_config_refl p'⟩⟩

/-! `register_udp_handler` -/

section Udp

variable {privateKey publicKey : Bytes32} {dst : Bytes} {ephemeralPrivate : Bytes32} {now : Instant}

theorem udp_turn_cases {d d' : Device P N} {rateLimiter rateLimiter' : RateLimiter} {packet : Bytes} {addr : SocketAddr}
    {outputs : List Output} {counted : Bool}
    (turned : udpTurn privateKey publicKey dst ephemeralPrivate now (d, rateLimiter) (packet, addr) =
      .ok ((d', rateLimiter'), outputs, counted)) :
    (d' = d ∧ (∀ o ∈ outputs, o.interfaceWrite = none) ∧ counted = false ∧
      rateLimiter' = (rateLimiter.verifyPacket P (some addr.ip) packet dst now).1) ∨
      ∃ parsed r p t result, rateLimiter.verifyPacket P (some addr.ip) packet dst now = (rateLimiter', .ok parsed) ∧
        d.peerOf privateKey publicKey parsed = .ok (some r) ∧ d.peer r = some p ∧
        p.tunnel.handleVerifiedPacket parsed dst ephemeralPrivate now = .ok (t, result) ∧
        ((∃ e, result = .err e ∧ d' = d.setPeer r { p with tunnel := t } ∧ outputs = [] ∧ counted = false) ∨
          ((∀ e, result ≠ .err e) ∧ ∃ p1, answer { p with tunnel := t } (.sendTo addr) result dst ephemeralPrivate now =
            .ok (p1, outputs) ∧ d' = d.setPeer r (p1.setEndpoint addr).1 ∧ counted = true)) := by
  dsimp only [udpTurn] at turned
  split at turned
  · rename_i verified
    cases turned
    exact .inl ⟨rfl, by simp [Output.interfaceWrite], rfl, by rw [verified]⟩
  · rename_i verified
    cases turned
    exact .inl ⟨rfl, by simp, rfl, by rw [verified]⟩
  · rename_i rl parsed verified
    obtain ⟨found, looked, turned⟩ := Loop.bind_eq_ok.mp turned
    split at turned
    · cases turned
      exact .inl ⟨rfl, by simp, rfl, by rw [verified]⟩
    · rename_i r
      split at turned
      · cases turned
        exact .inl ⟨rfl, by simp, rfl, by rw [verified]⟩
      · rename_i p peer
        obtain ⟨⟨t, result⟩, handled, turned⟩ := Loop.bind_eq_ok.mp turned
        split at turned
        · rename_i e isErr
          cases turned
          exact .inr ⟨parsed, r, p, t, result, verified, looked, peer, handled, .inl ⟨e, isErr, rfl, rfl, rfl⟩⟩
        · rename_i notErr
          obtain ⟨⟨p1, outputs'⟩, answered, returned⟩ := Loop.bind_eq_ok.mp turned
          cases returned
          exact .inr ⟨parsed, r, p, t, result, verified, looked, peer, handled, .inr ⟨notErr, p1, answered, rfl, rfl⟩⟩

theorem udp_turn_limiter {d d' : Device P N} {rateLimiter rateLimiter' : RateLimiter} {packet : Bytes} {addr : SocketAddr}
    {outputs : List Output} {counted : Bool}
    (turned : udpTurn privateKey publicKey dst ephemeralPrivate now (d, rateLimiter) (packet, addr) =
      .ok ((d', rateLimiter'), outputs, counted)) :
    rateLimiter' = (rateLimiter.verifyPacket P (some addr.ip) packet dst now).1 := by
  rcases udp_turn_cases turned with ⟨-, -, -, limited⟩ | ⟨parsed, r, p, t, result, verified, -⟩
  · exact limited
  · rw [verified]

theorem udp_turn_keeps {d d' : Device P N} {rateLimiter rateLimiter' : RateLimiter} {packet : Bytes} {addr : SocketAddr}
    {outputs : List Output} {counted : Bool}
    (turned : udpTurn privateKey publicKey dst ephemeralPrivate now (d, rateLimiter) (packet, addr) =
      .ok ((d', rateLimiter'), outputs, counted)) : Keeps d d' := by
  rcases udp_turn_cases turned with ⟨rfl, -, -, -⟩ | ⟨parsed, r, p, t, result, -, -, peer, -, taken⟩
  · exact keeps_refl _
  rcases taken with ⟨e, -, rfl, -, -⟩ | ⟨-, p1, answered, rfl, -⟩
  · exact keeps_set_peer peer (Peer.same_config_tunnel p t)
  · obtain ⟨tunnel, rfl⟩ := answer_peer answered
    exact keeps_set_peer peer ((Peer.same_config_tunnel p t).trans
      ((Peer.same_config_tunnel _ tunnel).trans (Peer.same_config_set_endpoint _ addr)))

theorem udp_turn_writes {d d' : Device P N} {rateLimiter rateLimiter' : RateLimiter} {packet : Bytes} {addr : SocketAddr}
    {outputs : List Output} {counted : Bool}
    (turned : udpTurn privateKey publicKey dst ephemeralPrivate now (d, rateLimiter) (packet, addr) =
      .ok ((d', rateLimiter'), outputs, counted)) {o : Output} (mem : o ∈ outputs) {written : Bytes}
    (toIface : o.interfaceWrite = some written) :
    ∃ r p src, d.peer r = some p ∧ p.tunnel.Opened dst written src ∧ p.isAllowedIp src = true := by
  rcases udp_turn_cases turned with ⟨-, quiet, -, -⟩ | ⟨parsed, r, p, t, result, -, -, peer, handled, taken⟩
  · rw [quiet o mem] at toIface
    cases toIface
  rcases taken with ⟨e, -, -, rfl, -⟩ | ⟨-, p1, answered, -, -⟩
  · cases mem
  · obtain ⟨src, toTunnel, allowed⟩ := answer_writes (fun _ => rfl) answered mem toIface
    exact ⟨r, p, src, peer, Tunn.handle_verified_packet_tunnel_write handled toTunnel, allowed⟩

def WrittenBy (d : Device P N) (dst written : Bytes) : Prop :=
  ∃ di r p src, Keeps d di ∧ di.peer r = some p ∧ p.tunnel.Opened dst written src ∧ p.isAllowedIp src = true

theorem written_by_mono {d di : Device P N} (kept : Keeps d di) {dst written : Bytes} (writtenBy : WrittenBy di dst written) :
    WrittenBy d dst written := by
  obtain ⟨dj, r, p, src, kept', peer, opened, allowed⟩ := writtenBy
  exact ⟨dj, r, p, src, kept.trans kept', peer, opened, allowed⟩

theorem udp_handler_effect {d d' : Device P N} {datagrams unread : List (Bytes × SocketAddr)} {outputs : List Output}
    (handled : d.udpHandler dst ephemeralPrivate now datagrams = .ok (d', outputs, unread)) :
    Keeps d d' ∧ ∀ o ∈ outputs, ∀ written, o.interfaceWrite = some written → WrittenBy d dst written := by
  unfold udpHandler at handled
  split at handled
  · cases handled
  · rename_i privateKey publicKey keys
    split at handled
    · cases handled
    · rename_i rateLimiter limiter
      obtain ⟨⟨⟨d1, rateLimiter1⟩, outputs1, unread1⟩, looped, returned⟩ := Loop.bind_eq_ok.mp handled
      cases returned
      obtain ⟨kept, gave⟩ := Loop.collect_counted_outputs (fun s s' => Keeps s.1 s'.1)
        (fun s o => ∀ written, o.interfaceWrite = some written → WrittenBy s.1 dst written)
        (fun s => keeps_refl s.1) Keeps.trans
        (fun _ _ _ _ _ _ turned => udp_turn_keeps turned)
        (fun _ _ _ _ _ _ turned o mem written toIface => by
          obtain ⟨r, p, src, peer, opened, allowed⟩ := udp_turn_writes turned mem toIface
          exact ⟨_, r, p, src, keeps_refl _, peer, opened, allowed⟩)
        looped
      refine ⟨kept.trans (keeps_rate_limiter _ _), fun o mem written toIface => ?_⟩
      obtain ⟨s, reached, writtenBy⟩ := gave o mem
      exact written_by_mono reached (writtenBy written toIface)

theorem set_endpoint_endpoint (p : Peer P N) (addr : SocketAddr) : (p.setEndpoint addr).1.endpoint = ⟨some addr⟩ := by
  unfold Peer.setEndpoint
  split
  · rfl
  · rename_i same
    rw [not_not] at same
    exact congrArg Endpoint.mk same

-- The datagram `packet` from `addr` passed the limiter, the tables of `d` routed its message to
-- `r`, and the tunnel of `p` took it without error.
def Took (d : Device P N) (rateLimiter : RateLimiter) (privateKey publicKey : Bytes32) (dst : Bytes)
    (ephemeralPrivate : Bytes32) (now : Instant) (packet : Bytes) (addr : SocketAddr) (r : PeerRef) (p : Peer P N) : Prop :=
  ∃ parsed rateLimiter' t result, rateLimiter.verifyPacket P (some addr.ip) packet dst now = (rateLimiter', .ok parsed) ∧
    d.peerOf privateKey publicKey parsed = .ok (some r) ∧
    p.tunnel.handleVerifiedPacket parsed dst ephemeralPrivate now = .ok (t, result) ∧ ∀ e, result ≠ .err e

theorem udp_turn_roams {d d' : Device P N} {rateLimiter rateLimiter' : RateLimiter} {packet : Bytes} {addr : SocketAddr}
    {outputs : List Output} {counted : Bool}
    (turned : udpTurn privateKey publicKey dst ephemeralPrivate now (d, rateLimiter) (packet, addr) =
      .ok ((d', rateLimiter'), outputs, counted)) {r : PeerRef} {p' : Peer P N} (found' : d'.peer r = some p') :
    ∃ p, d.peer r = some p ∧ (p'.endpoint = p.endpoint ∨
      p'.endpoint = ⟨some addr⟩ ∧ Took d rateLimiter privateKey publicKey dst ephemeralPrivate now packet addr r p) := by
  rcases udp_turn_cases turned with ⟨rfl, -, -, -⟩ | ⟨parsed, r0, p, t, result, verified, looked, peer, handled, taken⟩
  · exact ⟨p', found', .inl rfl⟩
  have bound := (List.getElem?_eq_some_iff.mp peer).1
  by_cases here : r0 = r
  · subst here
    rcases taken with ⟨e, -, rfl, -, -⟩ | ⟨notErr, p1, answered, rfl, -⟩
    · rw [peer_set_peer_self bound] at found'
      cases found'
      exact ⟨p, peer, .inl rfl⟩
    · rw [peer_set_peer_self bound] at found'
      cases found'
      refine ⟨p, peer, .inr ⟨set_endpoint_endpoint p1 addr, parsed, rateLimiter', t, result, verified, looked, handled,
        notErr⟩⟩
  · rcases taken with ⟨e, -, rfl, -, -⟩ | ⟨-, p1, -, rfl, -⟩ <;>
      · rw [peer_set_peer_ne d _ here] at found'
        exact ⟨p', found', .inl rfl⟩

end Udp

/-! `register_conn_handler` -/

section Conn

variable {r : PeerRef} {peerAddr : IpAddr} {dst : Bytes} {ephemeralPrivate : Bytes32} {now : Instant}

theorem conn_turn_cases {d d' : Device P N} {datagram : Bytes} {outputs : List Output}
    (turned : connTurn d r peerAddr dst ephemeralPrivate now datagram = .ok (d', outputs)) :
    (d' = d ∧ outputs = []) ∨ ∃ p t result p1, d.peer r = some p ∧
      p.tunnel.decapsulate (some peerAddr) datagram dst ephemeralPrivate now = .ok (t, result) ∧
      answer { p with tunnel := t } .send result dst ephemeralPrivate now = .ok (p1, outputs) ∧ d' = d.setPeer r p1 := by
  unfold connTurn at turned
  split at turned
  · cases turned
    exact .inl ⟨rfl, rfl⟩
  · rename_i p peer
    obtain ⟨⟨t, result⟩, decapsulated, turned⟩ := Loop.bind_eq_ok.mp turned
    obtain ⟨⟨p1, outputs'⟩, answered, returned⟩ := Loop.bind_eq_ok.mp turned
    cases returned
    exact .inr ⟨p, t, result, p1, peer, decapsulated, answered, rfl⟩

theorem conn_turn_keeps {d d' : Device P N} {datagram : Bytes} {outputs : List Output}
    (turned : connTurn d r peerAddr dst ephemeralPrivate now datagram = .ok (d', outputs)) : Keeps d d' := by
  rcases conn_turn_cases turned with ⟨rfl, -⟩ | ⟨p, t, result, p1, peer, -, answered, rfl⟩
  · exact keeps_refl _
  · obtain ⟨tunnel, rfl⟩ := answer_peer answered
    exact keeps_set_peer peer ((Peer.same_config_tunnel p t).trans (Peer.same_config_tunnel _ tunnel))

theorem conn_turn_writes {d d' : Device P N} {datagram : Bytes} {outputs : List Output}
    (turned : connTurn d r peerAddr dst ephemeralPrivate now datagram = .ok (d', outputs)) {o : Output} (mem : o ∈ outputs)
    {written : Bytes} (toIface : o.interfaceWrite = some written) : WrittenBy d dst written := by
  rcases conn_turn_cases turned with ⟨-, rfl⟩ | ⟨p, t, result, p1, peer, decapsulated, answered, -⟩
  · cases mem
  · obtain ⟨src, toTunnel, allowed⟩ := answer_writes (fun _ => rfl) answered mem toIface
    exact ⟨d, r, p, src, keeps_refl d, peer, Tunn.decapsulate_tunnel_write decapsulated toTunnel, allowed⟩

theorem conn_counted {d d' : Device P N} {datagram : Bytes} {outputs : List Output} {counted : Bool}
    (turned : ((fun (d, outputs) => (d, outputs, true)) <$> connTurn d r peerAddr dst ephemeralPrivate now datagram :
      Except String (Device P N × List Output × Bool)) = .ok (d', outputs, counted)) :
    connTurn d r peerAddr dst ephemeralPrivate now datagram = .ok (d', outputs) := by
  obtain ⟨⟨d1, outputs1⟩, turned', returned⟩ := Loop.map_eq_ok.mp turned
  cases returned
  exact turned'

theorem conn_handler_effect {d d' : Device P N} {datagrams unread : List Bytes} {outputs : List Output}
    (handled : d.connHandler r peerAddr dst ephemeralPrivate now datagrams = .ok (d', outputs, unread)) :
    Keeps d d' ∧ ∀ o ∈ outputs, ∀ written, o.interfaceWrite = some written → WrittenBy d dst written := by
  obtain ⟨kept, gave⟩ := Loop.collect_counted_outputs Keeps
    (fun s o => ∀ written, o.interfaceWrite = some written → WrittenBy s dst written) keeps_refl Keeps.trans
    (fun _ _ _ _ _ _ turned => conn_turn_keeps (conn_counted turned))
    (fun _ _ _ _ _ _ turned o mem written toIface => conn_turn_writes (conn_counted turned) mem toIface) handled
  refine ⟨kept, fun o mem written toIface => ?_⟩
  obtain ⟨s, reached, writtenBy⟩ := gave o mem
  exact written_by_mono reached (writtenBy written toIface)

end Conn

/-! `register_iface_handler` -/

section Iface

variable {dst : Bytes} {ephemeralPrivate : Bytes32} {now : Instant}

theorem iface_turn_cases {d d' : Device P N} {src : Bytes} {outputs : List Output}
    (turned : ifaceTurn d dst ephemeralPrivate now src = .ok (d', outputs)) :
    (d' = d ∧ outputs = []) ∨ ∃ dstAddr r p t result, dstAddress src = some dstAddr ∧ d.peersByIp.find dstAddr = some r ∧
      d.peer r = some p ∧ p.tunnel.encapsulate src dst ephemeralPrivate now = .ok (t, result) ∧
      d' = d.setPeer r { p with tunnel := t } ∧
      (outputs = [] ∨ ∃ sealed addr, result = .writeToNetwork sealed ∧ p.endpoint.addr = some addr ∧
        outputs = [.sendTo addr sealed]) := by
  unfold ifaceTurn at turned
  split at turned
  · cases turned
    exact .inl ⟨rfl, rfl⟩
  · rename_i dstAddr routed
    split at turned
    · cases turned
      exact .inl ⟨rfl, rfl⟩
    · rename_i r found
      split at turned
      · cases turned
        exact .inl ⟨rfl, rfl⟩
      · rename_i p peer
        obtain ⟨⟨t, result⟩, encapsulated, turned⟩ := Loop.bind_eq_ok.mp turned
        refine .inr ⟨dstAddr, r, p, t, result, routed, found, peer, encapsulated, ?_⟩
        dsimp only at turned
        split at turned
        · cases turned
          exact ⟨rfl, .inl rfl⟩
        · cases turned
          exact ⟨rfl, .inl rfl⟩
        · rename_i sealed
          split at turned
          · rename_i addr endpoint
            cases turned
            exact ⟨rfl, .inr ⟨sealed, addr, rfl, endpoint, rfl⟩⟩
          · cases turned
            exact ⟨rfl, .inl rfl⟩
        · cases turned

-- The `panic!` on an unexpected result is never reached: a turn fails only where `encapsulate`
-- fails.
theorem iface_turn_error {d : Device P N} {src : Bytes} {msg : String}
    (failed : ifaceTurn d dst ephemeralPrivate now src = .error msg) :
    ∃ r p, d.peer r = some p ∧ p.tunnel.encapsulate src dst ephemeralPrivate now = .error msg := by
  unfold ifaceTurn at failed
  split at failed
  · cases failed
  · split at failed
    · cases failed
    · rename_i r found
      split at failed
      · cases failed
      · rename_i p peer
        rcases Loop.bind_eq_error.mp failed with encapsulated | ⟨⟨t, result⟩, encapsulated, failed⟩
        · exact ⟨r, p, peer, encapsulated⟩
        · -- the remaining results are written to the network or dropped; a write to the tunnel
          -- is the one `encapsulate` never gives
          dsimp only at failed
          split at failed
          · cases failed
          · cases failed
          · split at failed <;> cases failed
          · rename_i notDone notErr notNetwork
            have none := Tunn.encapsulate_tunnel_write encapsulated
            cases result with
            | done => exact absurd rfl notDone
            | err e => exact absurd rfl (notErr e)
            | writeToNetwork sealed => exact absurd rfl (notNetwork sealed)
            | writeToTunnelV4 => cases none
            | writeToTunnelV6 => cases none

theorem iface_turn_keeps {d d' : Device P N} {src : Bytes} {outputs : List Output}
    (turned : ifaceTurn d dst ephemeralPrivate now src = .ok (d', outputs)) : Keeps d d' ∧ Settled d d' := by
  rcases iface_turn_cases turned with ⟨rfl, -⟩ | ⟨-, r, p, t, -, -, -, peer, -, rfl, -⟩
  · exact ⟨keeps_refl _, settled_refl _⟩
  · exact ⟨keeps_set_peer peer (Peer.same_config_tunnel p t), settled_set_peer peer t⟩

def SentFor (d : Device P N) (dst : Bytes) (ephemeralPrivate : Bytes32) (now : Instant) (src : Bytes) : Output → Prop
  | .sendTo addr sealed => ∃ dstAddr r p t, dstAddress src = some dstAddr ∧ d.peersByIp.find dstAddr = some r ∧
      d.peer r = some p ∧ p.endpoint.addr = some addr ∧
      p.tunnel.encapsulate src dst ephemeralPrivate now = .ok (t, .writeToNetwork sealed)
  | _ => False

theorem iface_turn_sends {d d' : Device P N} {src : Bytes} {outputs : List Output}
    (turned : ifaceTurn d dst ephemeralPrivate now src = .ok (d', outputs)) :
    ∀ o ∈ outputs, SentFor d dst ephemeralPrivate now src o := by
  rcases iface_turn_cases turned with ⟨-, rfl⟩ | ⟨dstAddr, r, p, t, result, routed, found, peer, encapsulated, -, sent⟩
  · intro o mem
    cases mem
  rcases sent with rfl | ⟨sealed, addr, rfl, endpoint, rfl⟩
  · intro o mem
    cases mem
  · intro o mem
    rw [List.mem_singleton.mp mem]
    exact ⟨dstAddr, r, p, t, routed, found, peer, endpoint, encapsulated⟩

theorem sent_for_mono {d di : Device P N} (kept : Keeps d di) (settled : Settled d di) {dst : Bytes}
    {ephemeralPrivate : Bytes32} {now : Instant} {src : Bytes} {o : Output} (sent : SentFor di dst ephemeralPrivate now src o) :
    ∃ r p, d.peer r = some p ∧ ∃ dstAddr addr sealed, dstAddress src = some dstAddr ∧ d.peersByIp.find dstAddr = some r ∧
      p.endpoint.addr = some addr ∧ o = .sendTo addr sealed ∧ ∃ pi t, di.peer r = some pi ∧
        pi.tunnel.encapsulate src dst ephemeralPrivate now = .ok (t, .writeToNetwork sealed) := by
  cases o with
  | sendTo addr sealed =>
      obtain ⟨dstAddr, r, pi, t, routed, found, peer, endpoint, encapsulated⟩ := sent
      obtain ⟨p, found', same⟩ := settled peer
      exact ⟨r, p, found', dstAddr, addr, sealed, routed, kept.peersByIp ▸ found, same ▸ endpoint, rfl, pi, t, peer,
        encapsulated⟩
  | _ => exact sent.elim

theorem iface_handler_cases (d : Device P N) (packets : List Bytes) :
    (d.udp4.isSome ∧ d.udp6.isSome ∧ d.ifaceHandler dst ephemeralPrivate now packets =
      Loop.collect (fun d src => ifaceTurn d dst ephemeralPrivate now src) d (packets.take maxItr)) ∨
    ((d.udp4 = none ∨ d.udp6 = none) ∧ d.ifaceHandler dst ephemeralPrivate now packets = .error "Not connected") := by
  unfold ifaceHandler
  split
  · rename_i open4 open6
    exact .inl ⟨by simp [open4], by simp [open6], rfl⟩
  · rename_i closed
    refine .inr ⟨?_, rfl⟩
    cases open4 : d.udp4 <;> cases open6 : d.udp6
    all_goals first | exact .inl rfl | exact .inr rfl | exact absurd open6 (closed _ _ open4)

theorem iface_handler_looped {d : Device P N} {packets : List Bytes} {result : Device P N × List Output}
    (handled : d.ifaceHandler dst ephemeralPrivate now packets = .ok result) :
    Loop.collect (fun d src => ifaceTurn d dst ephemeralPrivate now src) d (packets.take maxItr) = .ok result := by
  rcases iface_handler_cases d packets with ⟨-, -, looped⟩ | ⟨-, panicked⟩
  · rwa [looped] at handled
  · rw [panicked] at handled
    cases handled

theorem iface_handler_effect {d d' : Device P N} {packets : List Bytes} {outputs : List Output}
    (handled : d.ifaceHandler dst ephemeralPrivate now packets = .ok (d', outputs)) :
    Keeps d d' ∧ Settled d d' ∧ ∀ o ∈ outputs, ∃ src ∈ packets.take maxItr, ∃ di, Keeps d di ∧ Settled d di ∧
      SentFor di dst ephemeralPrivate now src o := by
  obtain ⟨⟨kept, settled⟩, gave⟩ := Loop.collect_outputs (fun s s' => Keeps s s' ∧ Settled s s')
    (fun s o => ∃ src ∈ packets.take maxItr, SentFor s dst ephemeralPrivate now src o)
    (fun s => ⟨keeps_refl s, settled_refl s⟩) (fun first second => ⟨first.1.trans second.1, Settled.trans first.2 second.2⟩)
    (fun _ _ _ _ _ turned => iface_turn_keeps turned)
    (fun _ src _ _ mem turned o given => ⟨src, mem, iface_turn_sends turned o given⟩) (iface_handler_looped handled)
  refine ⟨kept, settled, fun o mem => ?_⟩
  obtain ⟨s, ⟨kept', settled'⟩, src, read, sent⟩ := gave o mem
  exact ⟨src, read, s, kept', settled', sent⟩

end Iface

/-! `register_timers` -/

section Timers

variable {dst : Bytes} {ephemeralPrivate : Bytes32} {now : Instant}

theorem timers_turn_cases {d d' : Device P N} {r : PeerRef} {outputs : List Output}
    (turned : timersTurn d dst ephemeralPrivate now r = .ok (d', outputs)) :
    (d' = d ∧ outputs = []) ∨ ∃ p addr t result, d.peer r = some p ∧ p.endpoint.addr = some addr ∧
      p.tunnel.updateTimers dst ephemeralPrivate now = .ok (t, result) ∧ d' = d.setPeer r { p with tunnel := t } ∧
      (outputs = [] ∨ ∃ packet, result = .writeToNetwork packet ∧ outputs = [.sendTo addr packet]) := by
  unfold timersTurn at turned
  split at turned
  · cases turned
    exact .inl ⟨rfl, rfl⟩
  · rename_i p peer
    split at turned
    · cases turned
      exact .inl ⟨rfl, rfl⟩
    · rename_i addr endpoint
      obtain ⟨⟨t, result⟩, updated, turned⟩ := Loop.bind_eq_ok.mp turned
      refine .inr ⟨p, addr, t, result, peer, endpoint, updated, ?_⟩
      dsimp only at turned
      split at turned
      · cases turned
        exact ⟨rfl, .inl rfl⟩
      · cases turned
        exact ⟨rfl, .inl rfl⟩
      · rename_i packet
        cases turned
        exact ⟨rfl, .inr ⟨packet, rfl, rfl⟩⟩
      · cases turned

-- The `panic!` on an unexpected result is never reached: a turn fails only where `update_timers`
-- fails.
theorem timers_turn_error {d : Device P N} {r : PeerRef} {msg : String}
    (failed : timersTurn d dst ephemeralPrivate now r = .error msg) :
    ∃ p, d.peer r = some p ∧ p.tunnel.updateTimers dst ephemeralPrivate now = .error msg := by
  unfold timersTurn at failed
  split at failed
  · cases failed
  · rename_i p peer
    split at failed
    · cases failed
    · rcases Loop.bind_eq_error.mp failed with updated | ⟨⟨t, result⟩, updated, failed⟩
      · exact ⟨p, peer, updated⟩
      · dsimp only at failed
        split at failed
        · cases failed
        · cases failed
        · cases failed
        · rename_i notDone notErr notNetwork
          have none := Tunn.update_timers_tunnel_write updated
          cases result with
          | done => exact absurd rfl notDone
          | err e => exact absurd rfl (notErr e)
          | writeToNetwork packet => exact absurd rfl (notNetwork packet)
          | writeToTunnelV4 => cases none
          | writeToTunnelV6 => cases none

def Timely (d : Device P N) (now : Instant) : Prop := ∀ {r p}, d.peer r = some p → p.tunnel.timers.Before now

theorem timely_set_peer {d : Device P N} {now : Instant} (timely : Timely d now) (r : PeerRef) {p : Peer P N}
    (before : p.tunnel.timers.Before now) : Timely (d.setPeer r p) now := by
  intro r' p' found
  by_cases here : r = r'
  · subst here
    have bound : r < d.arena.length := by
      have := List.getElem?_eq_some_iff.mp found
      simpa [setPeer] using this.1
    rw [peer_set_peer_self bound] at found
    cases found
    exact before
  · rw [peer_set_peer_ne d p here] at found
    exact timely found

theorem timers_turn_ok {d : Device P N} (timely : Timely d now) (roomy : dataOverheadSz ≤ dst.length) (r : PeerRef) :
    ∃ d' outputs, timersTurn d dst ephemeralPrivate now r = .ok (d', outputs) ∧ Timely d' now := by
  cases turned : timersTurn d dst ephemeralPrivate now r with
  | error msg =>
      obtain ⟨p, peer, updated⟩ := timers_turn_error turned
      obtain ⟨t, result, updated'⟩ := Tunn.update_timers_ok (timely peer) le_rfl roomy
      rw [updated] at updated'
      cases updated'
  | ok result =>
      obtain ⟨d', outputs⟩ := result
      refine ⟨d', outputs, rfl, ?_⟩
      rcases timers_turn_cases turned with ⟨rfl, -⟩ | ⟨p, addr, t, res, peer, -, updated, rfl, -⟩
      · exact timely
      · exact timely_set_peer timely r ((Tunn.update_timers_effect le_rfl updated).1.before (timely peer))

theorem timers_turn_keeps {d d' : Device P N} {r : PeerRef} {outputs : List Output}
    (turned : timersTurn d dst ephemeralPrivate now r = .ok (d', outputs)) :
    Keeps d d' ∧ ∀ o ∈ outputs, o.interfaceWrite = none := by
  rcases timers_turn_cases turned with ⟨rfl, rfl⟩ | ⟨p, addr, t, result, peer, -, -, rfl, sent⟩
  · exact ⟨keeps_refl _, fun _ absent => absurd absent List.not_mem_nil⟩
  refine ⟨keeps_set_peer peer (Peer.same_config_tunnel p t), ?_⟩
  rcases sent with rfl | ⟨packet, -, rfl⟩
  · exact fun _ absent => absurd absent List.not_mem_nil
  · intro o mem
    rw [List.mem_singleton.mp mem]
    rfl

theorem timers_handler_cases (d : Device P N) :
    d.timersHandler dst ephemeralPrivate now = .ok (d, []) ∨
      d.timersHandler dst ephemeralPrivate now =
        Loop.collect (fun d e => timersTurn d dst ephemeralPrivate now e.2) d d.peers.entries := by
  unfold timersHandler
  split
  · exact .inr rfl
  · exact .inl rfl

end Timers

end Boringtun.Device
