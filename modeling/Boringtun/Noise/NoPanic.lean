import Boringtun.Noise.Tunn
import Boringtun.Lib.Loop

set_option autoImplicit false

/- Which inputs can make a tunnel panic. Every slice, copy and unwrap on the receiving path is
   sized by `parse_incoming_packet`, so the only precondition left is the size of `dst`. -/
namespace Boringtun.Noise

namespace Handshake

variable {P : Primitives}

theorem format_response_no_panic (h : Handshake P) (dst : Bytes) (ephemeralPrivate : Bytes32)
    (hash chainingKey peerEphemeralPublic : Bytes32) (peerIndex : UInt32)
    (received : h.state = .initReceived hash chainingKey peerEphemeralPublic peerIndex) (msg : String) :
    h.formatHandshakeResponse dst ephemeralPrivate ≠ .error msg := by
  unfold formatHandshakeResponse
  split_ifs
  · simp
  · rw [received]
    simp

theorem receive_initiation_no_panic (h : Handshake P) (p : HandshakeInit) (dst : Bytes) (ephemeralPrivate : Bytes32)
    (staticLen : p.encryptedStatic.length = 48) (timestampLen : p.encryptedTimestamp.length = 28) (msg : String) :
    h.receiveHandshakeInitialization p dst ephemeralPrivate ≠ .error msg := by
  intro failed
  unfold receiveHandshakeInitialization at failed
  rcases Loop.bind_eq_error.mp failed with opened | ⟨decrypted, -, failed⟩
  -- the static key opens into 32 bytes
  · exact aead_open_no_panic P _ _ _ _ _ (by simp [staticLen]) (by simp [staticLen, keyLen]) _ opened
  cases decrypted with
  | error e => cases failed
  | ok decrypted =>
      dsimp only at failed
      split at failed
      · cases failed
      rcases Loop.bind_eq_error.mp failed with opened | ⟨stamp, -, failed⟩
      -- the timestamp opens into 12
      · exact aead_open_no_panic P _ _ _ _ _ (by simp [timestampLen]) (by simp [timestampLen, Noise.timestampLen]) _
          opened
      cases stamp with
      | error e => cases failed
      | ok timestamp =>
          dsimp only at failed
          split at failed
          · cases failed
          -- the response is formatted from the `InitReceived` state stored just before
          · exact format_response_no_panic _ dst ephemeralPrivate _ _ _ _ rfl msg failed

theorem receive_response_no_panic (h : Handshake P) (p : HandshakeResponse) (now : Instant)
    (nothingLen : p.encryptedNothing.length = 16) (msg : String) :
    h.receiveHandshakeResponse p now ≠ .error msg := by
  intro failed
  unfold receiveHandshakeResponse at failed
  split at failed
  · cases failed
  rcases Loop.bind_eq_error.mp failed with opened | ⟨payload, -, failed⟩
  -- the empty payload opens into an empty buffer
  · exact aead_open_no_panic P _ _ _ _ _ (by simp [nothingLen]) (by simp [nothingLen]) _ opened
  cases payload <;> cases failed

theorem receive_cookie_reply_no_panic (h : Handshake P) (p : PacketCookieReply) (nonceLen : p.nonce.length = 24)
    (cookieLen : p.encryptedCookie.length = 32) (msg : String) :
    h.receiveCookieReply p ≠ .error msg := by
  simp only [receiveCookieReply, bind, Except.bind, pure, Except.pure]
  split
  · split_ifs with wrongIdx short
    · simp
    · simp [cookieLen, cookieSize] at short
    · -- the 32 bytes split into the cookie and its tag, and the nonce has its 24
      rw [from_slice_eq 24 p.nonce nonceLen, from_slice_eq 16 _ (by simp [cookieLen, cookieSize])]
      dsimp only
      split <;> simp
  · simp

end Handshake

namespace Session

variable (P : Primitives)

theorem receive_packet_data_no_panic (s : Session) (packet : PacketData) (dst : Bytes)
    (roomy : packet.encryptedEncapsulatedPacket.length ≤ dst.length) (msg : String) :
    s.receivePacketData P packet dst ≠ .error msg := by
  unfold receivePacketData
  rw [if_neg (by omega)]
  split_ifs
  · simp
  · split
    · simp
    · split <;> simp

theorem format_packet_data_no_panic (s : Session) (src dst : Bytes) (roomy : src.length + dataOverheadSz ≤ dst.length)
    (msg : String) : s.formatPacketData P src dst ≠ .error msg := by
  rw [format_packet_data_eq P s src dst roomy]
  simp

end Session

namespace Tunn

variable {P : Primitives}

theorem handle_handshake_init_no_panic (t : Tunn P) (p : HandshakeInit) (dst : Bytes) (ephemeralPrivate : Bytes32)
    (staticLen : p.encryptedStatic.length = 48) (timestampLen : p.encryptedTimestamp.length = 28) (msg : String) :
    t.handleHandshakeInit p dst ephemeralPrivate ≠ .error msg := by
  unfold handleHandshakeInit
  rcases received : t.handshake.receiveHandshakeInitialization p dst ephemeralPrivate with panic | ⟨handshake, r⟩
  · exact absurd received
      (Handshake.receive_initiation_no_panic t.handshake p dst ephemeralPrivate staticLen timestampLen panic)
  · simp only [bind, Except.bind, pure, Except.pure]
    split <;> simp

theorem handle_handshake_response_no_panic (t : Tunn P) (p : HandshakeResponse) (dst : Bytes) (now : Instant)
    (nothingLen : p.encryptedNothing.length = 16) (roomy : dataOverheadSz ≤ dst.length) (msg : String) :
    t.handleHandshakeResponse p dst now ≠ .error msg := by
  unfold handleHandshakeResponse
  rcases received : t.handshake.receiveHandshakeResponse p now with panic | ⟨handshake, r⟩
  · exact absurd received (Handshake.receive_response_no_panic t.handshake p now nothingLen panic)
  · simp only [bind, Except.bind, pure, Except.pure]
    split
    · simp
    -- the keepalive is an empty packet, which fits in any `dst` of 32 bytes
    rename_i session
    rw [Session.format_packet_data_eq P session [] dst (by simpa using roomy)]
    simp

theorem handle_cookie_reply_no_panic (t : Tunn P) (p : PacketCookieReply) (nonceLen : p.nonce.length = 24)
    (cookieLen : p.encryptedCookie.length = 32) (msg : String) : t.handleCookieReply p ≠ .error msg := by
  unfold handleCookieReply
  rcases received : t.handshake.receiveCookieReply p with panic | ⟨handshake, r⟩
  · exact absurd received (Handshake.receive_cookie_reply_no_panic t.handshake p nonceLen cookieLen panic)
  · simp only [bind, Except.bind, pure, Except.pure]
    split <;> simp

theorem handle_data_no_panic (t : Tunn P) (p : PacketData) (dst : Bytes)
    (roomy : p.encryptedEncapsulatedPacket.length ≤ dst.length) (msg : String) : t.handleData p dst ≠ .error msg := by
  unfold handleData
  simp only [bind, Except.bind, pure, Except.pure]
  split
  · simp
  rename_i session found
  rcases received : session.receivePacketData P p dst with panic | ⟨session', r⟩
  · exact absurd received (Session.receive_packet_data_no_panic P session p dst roomy panic)
  · dsimp only
    split <;> simp

theorem handle_verified_packet_no_panic (t : Tunn P) (src dst : Bytes) (packet : Packet) (ephemeralPrivate : Bytes32)
    (now : Instant) (parsed : parseIncomingPacket src = .ok packet) (roomy : max src.length handshakeInitSz ≤ dst.length)
    (msg : String) : t.handleVerifiedPacket packet dst ephemeralPrivate now ≠ .error msg := by
  have sized := parse_well_sized parsed
  cases packet with
  | handshakeInit p => exact handle_handshake_init_no_panic t p dst ephemeralPrivate sized.2.1 sized.2.2 msg
  | handshakeResponse p =>
      exact handle_handshake_response_no_panic t p dst now sized.2
        (by simp [dataOverheadSz, handshakeInitSz] at roomy ⊢; omega) msg
  | packetCookieReply p => exact handle_cookie_reply_no_panic t p sized.2.1 sized.2.2 msg
  | packetData p =>
      have tagged := sized.2
      exact handle_data_no_panic t p dst (by simp at roomy; omega) msg

theorem decapsulate_no_panic (t : Tunn P) (srcAddr : Option IpAddr) (datagram dst : Bytes)
    (ephemeralPrivate : Bytes32) (now : Instant) (nonempty : datagram ≠ [])
    (roomy : max datagram.length handshakeInitSz ≤ dst.length) (msg : String) :
    t.decapsulate srcAddr datagram dst ephemeralPrivate now ≠ .error msg := by
  unfold decapsulate
  rw [if_neg nonempty]
  dsimp only
  rcases verified : t.rateLimiter.verifyPacket P srcAddr datagram (List.replicate cookieReplySz 0) now with
    ⟨rateLimiter, answer⟩
  have answers := RateLimiter.verify_packet_answers P t.rateLimiter srcAddr datagram
    (List.replicate cookieReplySz 0) now
  rw [verified] at answers
  rcases answers with ⟨packet, rfl, parsed⟩ | ⟨e, rfl⟩ | ⟨c, rfl, cookieLen⟩
  · exact handle_verified_packet_no_panic _ datagram dst packet ephemeralPrivate now parsed roomy msg
  · simp
  · -- the cookie reply has 64 bytes, and `dst` at least 148
    have fits : c.length ≤ dst.length := by
      simp [cookieLen, cookieReplySz, handshakeInitSz] at roomy ⊢
      omega
    simp [not_lt.mpr fits]

def plainTunn : Tunn Primitives.plain :=
  Tunn.new Primitives.plain (Vector.replicate 32 1) (Vector.replicate 32 2) none none 1 none ⟨0, 0⟩ 0
    (Vector.replicate 32 0) (Vector.replicate 16 0)

theorem plain_decapsulate_no_panic :
    plainTunn.decapsulate none [1] (List.replicate 148 0) (Vector.replicate 32 0) 0 ≠ .error "" :=
  decapsulate_no_panic plainTunn none [1] (List.replicate 148 0) (Vector.replicate 32 0) 0 (by simp)
    (by simp [handshakeInitSz]) ""

end Tunn

end Boringtun.Noise
