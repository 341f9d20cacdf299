import Boringtun.Device.Device
import Boringtun.Device.Flush

set_option autoImplicit false

/- The event handlers of `device/mod.rs` that move packets: `register_udp_handler` on the listening
   sockets, `register_conn_handler` on a peer's connected socket, `register_iface_handler` on the
   interface, and the two periodic events of `register_timers`. What a socket or the interface has
   ready is a list, and what a handler sends or writes is returned as a list of outputs. A connected
   socket is connected to the endpoint it was made for and `set_endpoint` closes it when the
   endpoint moves, so what the interface handler sends on it is sent to the endpoint's address. The
   event queue and the threads are left out. -/
namespace Boringtun.Device

open Noise

def maxItr : ℕ := 100

inductive Output where
  -- `send_to(packet, &addr)` on a listening socket
  | sendTo (addr : SocketAddr) (packet : Bytes)
  -- `send(packet)` on the peer's connected socket
  | send (packet : Bytes)
  | write4 (packet : Bytes)
  | write6 (packet : Bytes)
deriving DecidableEq, Repr

variable {P : Primitives} {N : IpNetworks}

namespace Peer

-- `set_endpoint`: whether the address changed. Shutting the old connected socket down is the
-- socket layer's.
def setEndpoint (p : Peer P N) (addr : SocketAddr) : Peer P N × Bool :=
  if p.endpoint.addr ≠ some addr then ({ p with endpoint := ⟨some addr⟩ }, true) else (p, false)

end Peer

def setPeer (d : Device P N) (r : PeerRef) (p : Peer P N) : Device P N := { d with arena := d.arena.set r p }

-- The match on a tunnel's result in the UDP and the connected handlers: what is written, and
-- whether the queue is flushed after it. A packet for the interface is kept only when its source
-- is one of the peer's allowed IPs.
def deliver (p : Peer P N) (reply : Bytes → Output) : TunnResult → Option Output × Bool
  | .done => (none, false)
  | .err _ => (none, false)
  | .writeToNetwork packet => (some (reply packet), true)
  | .writeToTunnelV4 packet addr => (if p.isAllowedIp (.v4 addr) then some (.write4 packet) else none, false)
  | .writeToTunnelV6 packet addr => (if p.isAllowedIp (.v6 addr) then some (.write6 packet) else none, false)

-- `if flush { while let Some(packet) = .. }`, whose turns never run out (`flush_ends`).
def flushPeer (p : Peer P N) (dst : Bytes) (ephemeralPrivate : Bytes32) (now : Instant) :
    Except String (Peer P N × List Bytes) :=
  match flushQueue p.tunnel dst ephemeralPrivate now with
  | .error msg => .error msg
  | .ok (some (tunnel, packets)) => .ok ({ p with tunnel }, packets)
  | .ok none => .ok (p, [])

def answer (p : Peer P N) (reply : Bytes → Output) (result : TunnResult) (dst : Bytes) (ephemeralPrivate : Bytes32)
    (now : Instant) : Except String (Peer P N × List Output) :=
  match deliver p reply result with
  | (write, true) => do
      let (p, packets) ← flushPeer p dst ephemeralPrivate now
      return (p, write.toList ++ packets.map reply)
  | (write, false) => .ok (p, write.toList)

/-! `register_udp_handler`: handshakes and data from any address. -/

-- One turn of its loop, on the datagram `packet` from `addr`: the device and the rate limiter after
-- it, the outputs, and whether the turn reached the end of the body, where `iter` counts it; every
-- `continue` skips the count.
def udpTurn (privateKey publicKey : Bytes32) (dst : Bytes) (ephemeralPrivate : Bytes32) (now : Instant) :
    Device P N × RateLimiter → Bytes × SocketAddr → Except String ((Device P N × RateLimiter) × List Output × Bool)
  | (d, rateLimiter), (packet, addr) =>
      match rateLimiter.verifyPacket P (some addr.ip) packet dst now with
      | (rateLimiter, .error (.writeToNetwork cookie)) => .ok ((d, rateLimiter), [.sendTo addr cookie], false)
      | (rateLimiter, .error _) => .ok ((d, rateLimiter), [], false)
      | (rateLimiter, .ok parsed) => do
          match ← d.peerOf privateKey publicKey parsed with
          | none => return ((d, rateLimiter), [], false)
          | some r =>
              match d.peer r with
              | none => return ((d, rateLimiter), [], false)
              | some p =>
                  let (tunnel, result) ← p.tunnel.handleVerifiedPacket parsed dst ephemeralPrivate now
                  match result with
                  | .err _ => return ((d.setPeer r { p with tunnel }, rateLimiter), [], false)
                  | result =>
                      let (p, outputs) ← answer { p with tunnel } (.sendTo addr) result dst ephemeralPrivate now
                      let (p, _) := p.setEndpoint addr
                      return ((d.setPeer r p, rateLimiter), outputs, true)

-- `while let Ok((packet_len, addr)) = udp.recv_from(..)` over the datagrams the socket has ready;
-- the ones left unread are returned.
def udpHandler (d : Device P N) (dst : Bytes) (ephemeralPrivate : Bytes32) (now : Instant)
    (datagrams : List (Bytes × SocketAddr)) : Except String (Device P N × List Output × List (Bytes × SocketAddr)) :=
  match d.keyPair with
  | none => .error "Key not set"
  | some (privateKey, publicKey) =>
      match d.rateLimiter with
      | none => .error "called Option::unwrap() on a None value"
      | some rateLimiter => do
          let ((d, rateLimiter), outputs, unread) ←
            Loop.collectCounted (udpTurn privateKey publicKey dst ephemeralPrivate now) maxItr (d, rateLimiter) datagrams
          return ({ d with rateLimiter := some rateLimiter }, outputs, unread)

/-! `register_conn_handler`: datagrams on the socket connected to one peer's endpoint. The handler
    keeps the peer it was registered with, whatever the tables say later. -/

def connTurn (d : Device P N) (r : PeerRef) (peerAddr : IpAddr) (dst : Bytes) (ephemeralPrivate : Bytes32)
    (now : Instant) (datagram : Bytes) : Except String (Device P N × List Output) :=
  match d.peer r with
  | none => .ok (d, [])
  | some p => do
      let (tunnel, result) ← p.tunnel.decapsulate (some peerAddr) datagram dst ephemeralPrivate now
      let (p, outputs) ← answer { p with tunnel } .send result dst ephemeralPrivate now
      return (d.setPeer r p, outputs)

def connHandler (d : Device P N) (r : PeerRef) (peerAddr : IpAddr) (dst : Bytes) (ephemeralPrivate : Bytes32)
    (now : Instant) (datagrams : List Bytes) : Except String (Device P N × List Output × List Bytes) :=
  Loop.collectCounted (fun d datagram =>
    (fun (d, outputs) => (d, outputs, true)) <$> connTurn d r peerAddr dst ephemeralPrivate now datagram) maxItr d datagrams

/-! `register_iface_handler`: packets read from the interface go to the peer whose allowed IPs
    hold their destination. -/

def ifaceTurn (d : Device P N) (dst : Bytes) (ephemeralPrivate : Bytes32) (now : Instant) (src : Bytes) :
    Except String (Device P N × List Output) :=
  match dstAddress src with
  | none => .ok (d, [])
  | some dstAddr =>
      match d.peersByIp.find dstAddr with
      | none => .ok (d, [])
      | some r =>
          match d.peer r with
          | none => .ok (d, [])
          | some p => do
              let (tunnel, result) ← p.tunnel.encapsulate src dst ephemeralPrivate now
              let d := d.setPeer r { p with tunnel }
              match result with
              | .done => return (d, [])
              | .err _ => return (d, [])
              | .writeToNetwork packet =>
                  match p.endpoint.addr with
                  | some addr => return (d, [.sendTo addr packet])
                  -- "No endpoint"
                  | none => return (d, [])
              | _ => throw "Unexpected result from encapsulate"

-- `for _ in 0..MAX_ITR`: every read counts, and a read that would block ends the loop. Both
-- listening sockets are taken before it.
def ifaceHandler (d : Device P N) (dst : Bytes) (ephemeralPrivate : Bytes32) (now : Instant) (packets : List Bytes) :
    Except String (Device P N × List Output) :=
  match d.udp4, d.udp6 with
  | some _, some _ => Loop.collect (fun d src => ifaceTurn d dst ephemeralPrivate now src) d (packets.take maxItr)
  | _, _ => throw "Not connected"

/-! `register_timers`: the rate limiter's reset, and the timers of every peer. -/

def resetRateLimiter (d : Device P N) (now : Instant) : Device P N :=
  { d with rateLimiter := d.rateLimiter.map (·.resetCount now) }

def timersTurn (d : Device P N) (dst : Bytes) (ephemeralPrivate : Bytes32) (now : Instant) (r : PeerRef) :
    Except String (Device P N × List Output) :=
  match d.peer r with
  | none => .ok (d, [])
  | some p =>
      match p.endpoint.addr with
      | none => .ok (d, [])
      | some endpointAddr => do
          let (tunnel, result) ← p.tunnel.updateTimers dst ephemeralPrivate now
          let d := d.setPeer r { p with tunnel }
          match result with
          | .done => return (d, [])
          -- `ConnectionExpired` also closes the connected socket, which is the socket layer's
          | .err _ => return (d, [])
          | .writeToNetwork packet => return (d, [.sendTo endpointAddr packet])
          | _ => throw "Unexpected result from update_timers"

-- Go over each peer and invoke the timer function, in the order of the table, once both listening
-- sockets are open.
def timersHandler (d : Device P N) (dst : Bytes) (ephemeralPrivate : Bytes32) (now : Instant) :
    Except String (Device P N × List Output) :=
  match d.udp4, d.udp6 with
  | some _, some _ => Loop.collect (fun d e => timersTurn d dst ephemeralPrivate now e.2) d d.peers.entries
  | _, _ => .ok (d, [])

-- The data plane: every handler call that does not panic, each with the clock reading and the
-- ephemeral key it takes.
inductive Handled : Device P N → List Output → Device P N → Prop
  | udp (d d' : Device P N) (dst : Bytes) (ephemeralPrivate : Bytes32) (now : Instant)
      (datagrams unread : List (Bytes × SocketAddr)) (outputs : List Output)
      (handled : d.udpHandler dst ephemeralPrivate now datagrams = .ok (d', outputs, unread)) : Handled d outputs d'
  | conn (d d' : Device P N) (r : PeerRef) (peerAddr : IpAddr) (dst : Bytes) (ephemeralPrivate : Bytes32) (now : Instant)
      (datagrams unread : List Bytes) (outputs : List Output)
      (handled : d.connHandler r peerAddr dst ephemeralPrivate now datagrams = .ok (d', outputs, unread)) :
      Handled d outputs d'
  | iface (d d' : Device P N) (dst : Bytes) (ephemeralPrivate : Bytes32) (now : Instant) (packets : List Bytes)
      (outputs : List Output) (handled : d.ifaceHandler dst ephemeralPrivate now packets = .ok (d', outputs)) :
      Handled d outputs d'
  | timers (d d' : Device P N) (dst : Bytes) (ephemeralPrivate : Bytes32) (now : Instant) (outputs : List Output)
      (handled : d.timersHandler dst ephemeralPrivate now = .ok (d', outputs)) : Handled d outputs d'
  | resetRateLimiter (d : Device P N) (now : Instant) : Handled d [] (d.resetRateLimiter now)

end Boringtun.Device
