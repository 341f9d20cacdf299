import Boringtun.Noise.TunnRun

set_option autoImplicit false

/- Which results each tunnel call can hand back. A packet for the interface comes only out of a
   data message that opened under one of the tunnel's sessions; `encapsulate`, the queue flush and
   `update_timers` never give one, which is what the device's interface and timer handlers rely on
   when they `panic!` on any result they do not expect. -/
namespace Boringtun.Noise

namespace TunnResult

def tunnelWrite : TunnResult → Option (Bytes × IpAddr)
  | .writeToTunnelV4 packet addr => some (packet, .v4 addr)
  | .writeToTunnelV6 packet addr => some (packet, .v6 addr)
  | _ => none

end TunnResult

namespace Tunn

variable {P : Primitives}

def Opened (t : Tunn P) (dst packet : Bytes) (src : IpAddr) : Prop :=
  ∃ (m : PacketData) (session session' : Session) (plain : Bytes) (computedLen : ℕ),
    t.session m.receiverIdx.toNat = some session ∧ session.receivePacketData P m dst = .ok (session', .ok plain) ∧
    ipHeader plain = some (computedLen, src) ∧ computedLen ≤ plain.length ∧ packet = plain.take computedLen

theorem opened_of_sessions {t t' : Tunn P} (sessions : t'.sessions = t.sessions) {dst packet : Bytes} {src : IpAddr}
    (opened : t.Opened dst packet src) : t'.Opened dst packet src := by
  obtain ⟨m, session, session', plain, computedLen, current, rest⟩ := opened
  exact ⟨m, session, session', plain, computedLen, (session_congr t t' sessions _).trans current, rest⟩

/-! Sending: no call on the way out ever writes to the interface. -/

theorem format_handshake_initiation_tunnel_write (t : Tunn P) (dst : Bytes) (forceResend : Bool)
    (ephemeralPrivate : Bytes32) (now : Instant) :
    (t.formatHandshakeInitiation dst forceResend ephemeralPrivate now).2.tunnelWrite = none := by
  unfold formatHandshakeInitiation
  split
  · rfl
  · dsimp only
    split <;> rfl

theorem encapsulate_tunnel_write {t t' : Tunn P} {src dst : Bytes} {ephemeralPrivate : Bytes32} {now : Instant}
    {r : TunnResult} (encapsulated : t.encapsulate src dst ephemeralPrivate now = .ok (t', r)) : r.tunnelWrite = none := by
  rcases encapsulate_cases encapsulated with ⟨-, -, -, -, -, rfl, -⟩ | ⟨-, -, rfl⟩
  · rfl
  · exact format_handshake_initiation_tunnel_write ..

theorem send_queued_packet_tunnel_write {t t' : Tunn P} {dst : Bytes} {ephemeralPrivate : Bytes32} {now : Instant}
    {r : TunnResult} (sent : t.sendQueuedPacket dst ephemeralPrivate now = .ok (t', r)) : r.tunnelWrite = none := by
  rcases send_queued_packet_cases sent with ⟨-, -, rfl⟩ | ⟨packet, t2, r2, -, encapsulated, ⟨-, rfl, -⟩ | ⟨-, rfl, -⟩⟩
  · rfl
  · exact encapsulate_tunnel_write encapsulated
  · rfl

theorem fire_timers_tunnel_write {t t' : Tunn P} {handshakeInitiationRequired keepaliveRequired : Bool} {dst : Bytes}
    {ephemeralPrivate : Bytes32} {now : Instant} {r : TunnResult}
    (fired : t.fireTimers handshakeInitiationRequired keepaliveRequired dst ephemeralPrivate now = .ok (t', r)) :
    r.tunnelWrite = none := by
  unfold fireTimers at fired
  split at fired
  · have result := congrArg Prod.snd (Except.ok.inj fired)
    dsimp only at result
    rw [← result]
    exact format_handshake_initiation_tunnel_write ..
  · split at fired
    · exact encapsulate_tunnel_write fired
    · cases fired
      rfl

theorem update_timers_tunnel_write {t t' : Tunn P} {dst : Bytes} {ephemeralPrivate : Bytes32} {now : Instant}
    {r : TunnResult} (updated : t.updateTimers dst ephemeralPrivate now = .ok (t', r)) : r.tunnelWrite = none := by
  obtain ⟨t0, t2, -, -, -, -, -, rest⟩ := update_timers_inversion updated
  rcases rest with ⟨-, -, rfl⟩ | ⟨t3, -, ⟨-, rfl⟩ | ⟨_, -, -, fired⟩ | ⟨-, t4, _, _, _, _, _, _, _, _, _, -, fired⟩⟩
  · rfl
  · rfl
  · exact fire_timers_tunnel_write fired
  · exact fire_timers_tunnel_write fired

/-! Receiving: the interface only gets opened data. -/

theorem validate_decapsulated_packet_tunnel_write (t : Tunn P) (plain : Bytes) {packet : Bytes} {src : IpAddr}
    (written : (t.validateDecapsulatedPacket plain).2.tunnelWrite = some (packet, src)) :
    ∃ computedLen, ipHeader plain = some (computedLen, src) ∧ computedLen ≤ plain.length ∧
      packet = plain.take computedLen := by
  unfold validateDecapsulatedPacket at written
  split at written
  · cases written
  · split at written
    · cases written
    · rename_i computedLen srcIpAddress header
      split at written
      · cases written
      · rename_i fits
        refine ⟨computedLen, ?_, by omega, ?_⟩ <;>
          cases srcIpAddress <;> simp only [TunnResult.tunnelWrite, Option.some.injEq, Prod.mk.injEq] at written
        · rw [header, written.2]
        · rw [header, written.2]
        · exact written.1.symm
        · exact written.1.symm

theorem handle_data_tunnel_write {t t' : Tunn P} {m : PacketData} {dst : Bytes} {r : TunnResult}
    (handled : t.handleData m dst = .ok (t', r)) {packet : Bytes} {src : IpAddr}
    (written : r.tunnelWrite = some (packet, src)) : t.Opened dst packet src := by
  rcases handle_data_cases handled with ⟨-, -, rfl⟩ |
    ⟨session, session', opened, current, received, ⟨e, -, -, rfl⟩ | ⟨plain, rfl, -, rfl⟩⟩
  · cases written
  · cases written
  · obtain ⟨computedLen, header, fits, rfl⟩ := validate_decapsulated_packet_tunnel_write _ plain written
    exact ⟨m, session, session', plain, computedLen, current, received, header, fits, rfl⟩

theorem handle_verified_packet_tunnel_write {t t' : Tunn P} {packet : Packet} {dst : Bytes}
    {ephemeralPrivate : Bytes32} {now : Instant} {r : TunnResult}
    (handled : t.handleVerifiedPacket packet dst ephemeralPrivate now = .ok (t', r)) {written : Bytes} {src : IpAddr}
    (toTunnel : r.tunnelWrite = some (written, src)) : t.Opened dst written src := by
  cases packet with
  | handshakeInit p =>
      have handled : t.handleHandshakeInit p dst ephemeralPrivate = .ok (t', r) := handled
      rcases handle_handshake_init_cases handled with ⟨_, _, -, -, rfl⟩ | ⟨_, _, _, -, rfl, -⟩ <;> cases toTunnel
  | handshakeResponse p =>
      have handled : t.handleHandshakeResponse p dst now = .ok (t', r) := handled
      rcases handle_handshake_response_cases handled with ⟨_, _, -, -, rfl⟩ | ⟨_, _, _, _, -, -, rfl, -⟩ <;>
        cases toTunnel
  | packetCookieReply p =>
      have handled : t.handleCookieReply p = .ok (t', r) := handled
      rcases handle_cookie_reply_cases handled with ⟨_, _, -, ⟨_, -, -, rfl⟩ | ⟨-, -, rfl⟩⟩ <;> cases toTunnel
  | packetData p => exact handle_data_tunnel_write handled toTunnel

theorem decapsulate_tunnel_write {t t' : Tunn P} {srcAddr : Option IpAddr} {datagram dst : Bytes}
    {ephemeralPrivate : Bytes32} {now : Instant} {r : TunnResult}
    (decapsulated : t.decapsulate srcAddr datagram dst ephemeralPrivate now = .ok (t', r)) {written : Bytes}
    {src : IpAddr} (toTunnel : r.tunnelWrite = some (written, src)) : t.Opened dst written src := by
  by_cases empty : datagram = []
  · rw [decapsulate, if_pos empty] at decapsulated
    rw [send_queued_packet_tunnel_write decapsulated] at toTunnel
    cases toTunnel
  rw [decapsulate, if_neg empty] at decapsulated
  dsimp only at decapsulated
  split at decapsulated
  · -- the limiter's update leaves the sessions
    exact opened_of_sessions rfl (handle_verified_packet_tunnel_write decapsulated toTunnel)
  · split at decapsulated
    · cases decapsulated
    · cases decapsulated
      cases toTunnel
  · cases decapsulated
    cases toTunnel
  · cases decapsulated

end Tunn

end Boringtun.Noise
