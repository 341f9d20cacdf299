import Boringtun.Noise.Agreement
import Boringtun.Noise.RateLimiter
import Boringtun.Lib.Loop

set_option autoImplicit false

/- What each message carries across the wire: every formatter's output parses back to the
   fields it wrote, and the MACs one end appends are the ones the other end checks. -/
namespace Boringtun.Noise

open Handshake in
theorem wire_format_round_trip {P : Primitives} :
    (∀ src : Bytes, (∃ p, parseIncomingPacket src = .ok p) ↔
      src.take 4 = Endian.u32ToLeBytes handshakeInit ∧ src.length = handshakeInitSz ∨
      src.take 4 = Endian.u32ToLeBytes handshakeResp ∧ src.length = handshakeRespSz ∨
      src.take 4 = Endian.u32ToLeBytes cookieReply ∧ src.length = cookieReplySz ∨
      src.take 4 = Endian.u32ToLeBytes data ∧ dataOverheadSz ≤ src.length) ∧
    (∀ (h : Handshake P) (dst : Bytes) (ephemeralPrivate : Bytes32) (now : Instant),
      handshakeInitSz ≤ dst.length →
      ∃ m, (h.formatHandshakeInitiation dst ephemeralPrivate now).2 = .ok m ∧ m.length = handshakeInitSz ∧
        parseIncomingPacket m = .ok (.handshakeInit ⟨h.incIndex.2, P.publicKey ephemeralPrivate,
          (IK.initiation P h.params.peerStaticPublic (P.publicKey ephemeralPrivate)
            (P.diffieHellman ephemeralPrivate h.params.peerStaticPublic) h.params.staticShared
            h.params.staticPublic.toList (h.stamper.stamp now)).encryptedStatic,
          (IK.initiation P h.params.peerStaticPublic (P.publicKey ephemeralPrivate)
            (P.diffieHellman ephemeralPrivate h.params.peerStaticPublic) h.params.staticShared
            h.params.staticPublic.toList (h.stamper.stamp now)).encryptedTimestamp⟩)) ∧
    (∀ (h : Handshake P) (dst : Bytes) (ephemeralPrivate hash chainingKey peerEphemeralPublic : Bytes32)
      (peerIndex : UInt32), h.state = .initReceived hash chainingKey peerEphemeralPublic peerIndex →
      handshakeRespSz ≤ dst.length →
      ∃ h' m s, h.formatHandshakeResponse dst ephemeralPrivate = .ok (h', .ok (m, s)) ∧
        m.length = handshakeRespSz ∧ s.receivingIndex = h.incIndex.2 ∧
        parseIncomingPacket m = .ok (.handshakeResponse ⟨h.incIndex.2, peerIndex, P.publicKey ephemeralPrivate,
          (IK.response P hash chainingKey (P.publicKey ephemeralPrivate)
            (P.diffieHellman ephemeralPrivate peerEphemeralPublic)
            (P.diffieHellman ephemeralPrivate h.params.peerStaticPublic)
            (h.params.presharedKey.getD zeroKey)).encryptedNothing⟩)) ∧
    (∀ (rl : RateLimiter) (idx : UInt32) (cookie : Bytes16) (mac1 dst : Bytes), cookieReplySz ≤ dst.length →
      ∃ m, (rl.formatCookieReply P idx cookie mac1 dst).2 = .ok m ∧ m.length = cookieReplySz ∧
        parseIncomingPacket m = .ok (.packetCookieReply ⟨idx, (rl.nonce P).2.toList,
          (P.xSeal rl.cookieKey (rl.nonce P).2 mac1 cookie.toList).1.1 ++
            (P.xSeal rl.cookieKey (rl.nonce P).2 mac1 cookie.toList).2.toList⟩)) ∧
    (∀ (s : Session) (src dst : Bytes), src.length + dataOverheadSz ≤ dst.length →
      ∃ m, s.formatPacketData P src dst = .ok ({ s with sendingKeyCounter := s.sendingKeyCounter + 1 }, m) ∧
        ∃ body, parseIncomingPacket m = .ok (.packetData ⟨s.sendingIndex, s.sendingKeyCounter, body⟩) ∧
          body.length = src.length + 16) := by
  refine ⟨parse_ok_iff, ?initiation, ?response, ?cookie, ?data⟩
  case initiation =>
    intro h dst ephemeralPrivate now roomy
    obtain ⟨m, message, parsed⟩ := parse_format_initiation h dst ephemeralPrivate now roomy
    exact ⟨m, message, (parse_well_sized parsed).1, parsed⟩
  case response =>
    intro h dst ephemeralPrivate hash chainingKey peerEphemeralPublic peerIndex received roomy
    refine ⟨_, _, _, format_response_refines h dst ephemeralPrivate hash chainingKey peerEphemeralPublic peerIndex
      received roomy, ?length, rfl, ?parsed⟩
    case parsed => exact IK.parse_response_message _ _ _ _ (IK.length_response_nothing ..) _ _
    case length =>
      exact (parse_well_sized (IK.parse_response_message _ _ _ _ (IK.length_response_nothing ..) _ _)).1
  case cookie =>
    intro rl idx cookie mac1 dst roomy
    obtain ⟨m, formatted, parsed⟩ := RateLimiter.parse_format_cookie_reply P rl idx cookie mac1 dst roomy
    exact ⟨m, formatted, (parse_well_sized parsed).1, parsed⟩
  case data =>
    intro s src dst roomy
    obtain ⟨m, formatted, parsed, sealedLen⟩ := Session.parse_format_packet_data P s src dst roomy
    exact ⟨m, formatted, _, parsed, sealedLen⟩

namespace Handshake

variable {P : Primitives}

theorem receive_initiation_formats (h h' : Handshake P) (packet : HandshakeInit) (dst : Bytes)
    (ephemeralPrivate : Bytes32) (r : Except WireGuardError (Bytes × Session))
    (ok : h.receiveHandshakeInitialization packet dst ephemeralPrivate = .ok (h', r)) :
    h' = h ∧ (∃ e, r = .error e) ∨ ∃ h1 : Handshake P, h1.params = h.params ∧ h1.cookies = h.cookies ∧
      h1.formatHandshakeResponse dst ephemeralPrivate = .ok (h', r) := by
  unfold receiveHandshakeInitialization at ok
  obtain ⟨opened, -, ok⟩ := Loop.bind_eq_ok.mp ok
  cases opened with
  -- the static key does not open
  | error e =>
      cases ok
      exact .inl ⟨rfl, e, rfl⟩
  | ok decrypted =>
      dsimp only at ok
      split at ok
      -- it is not the peer's key
      · cases ok
        exact .inl ⟨rfl, _, rfl⟩
      obtain ⟨opened', -, ok⟩ := Loop.bind_eq_ok.mp ok
      cases opened' with
      -- the timestamp does not open
      | error e =>
          cases ok
          exact .inl ⟨rfl, e, rfl⟩
      | ok timestamp =>
          dsimp only at ok
          split at ok
          -- a replay
          · cases ok
            exact .inl ⟨rfl, _, rfl⟩
          -- the response is formatted from the state with the new timestamp and `InitReceived`
          · refine .inr ⟨_, ?_, ?_, ok⟩ <;> rfl

-- `h'` is `h` after sending the handshake message `m`: a message followed by the MACs `h`
-- computes for it, with its mac1 and sender index kept to check a cookie reply against.
def Sends (h : Handshake P) (m : Bytes) (h' : Handshake P) : Prop :=
  ∃ (message : Bytes) (idx : UInt32) (packet : Packet),
    m = message ++ (h.msgMac1 message).toList ++ (h.msgMac2 message).toList ∧
    parseIncomingPacket m = .ok packet ∧ RateLimiter.handshakeSenderIdx packet = some idx ∧
    h'.params = h.params ∧ h'.cookies = { h.cookies with index := idx, lastMac1 := some (h.msgMac1 message) }

theorem sends_of_same_keys {h h1 h' : Handshake P} {m : Bytes} (params : h1.params = h.params)
    (cookies : h1.cookies = h.cookies) (sent : Sends h1 m h') : Sends h m h' := by
  obtain ⟨message, idx, packet, layout, parsed, sender, params', cookies'⟩ := sent
  have mac1 : h1.msgMac1 message = h.msgMac1 message := by rw [msgMac1, msgMac1, params]
  have mac2 : h1.msgMac2 message = h.msgMac2 message := by rw [msgMac2, msgMac2, cookies, mac1]
  exact ⟨message, idx, packet, by rw [layout, mac1, mac2], parsed, sender, params'.trans params,
    by rw [cookies', cookies, mac1]⟩

theorem format_initiation_sends (h h' : Handshake P) (dst : Bytes) (ephemeralPrivate : Bytes32) (now : Instant)
    (m : Bytes) (sent : h.formatHandshakeInitiation dst ephemeralPrivate now = (h', .ok m)) : Sends h m h' := by
  by_cases roomy : handshakeInitSz ≤ dst.length
  · obtain ⟨m', formatted, parsed⟩ := parse_format_initiation h dst ephemeralPrivate now roomy
    have same : m' = m := by simpa [sent] using formatted.symm
    subst same
    have macRoom : ((dst.take handshakeInitSz).drop 116).length = 32 := by
      simp [handshakeInitSz] at roomy ⊢
      omega
    rw [format_initiation_refines h dst ephemeralPrivate now roomy] at sent
    dsimp only at sent
    rw [append_mac1_and_mac2_eq _ _ _ _ macRoom] at sent
    cases sent
    exact ⟨_, _, _, rfl, parsed, rfl, rfl, rfl⟩
  · rw [format_initiation_too_small h dst ephemeralPrivate now (by omega)] at sent
    cases sent

theorem format_initiation_failed (h : Handshake P) (dst : Bytes) (ephemeralPrivate : Bytes32) (now : Instant)
    (e : WireGuardError) (failed : (h.formatHandshakeInitiation dst ephemeralPrivate now).2 = .error e) :
    (h.formatHandshakeInitiation dst ephemeralPrivate now).1 = h := by
  by_cases roomy : handshakeInitSz ≤ dst.length
  · obtain ⟨m, formatted, -⟩ := parse_format_initiation h dst ephemeralPrivate now roomy
    rw [formatted] at failed
    cases failed
  · rw [format_initiation_too_small h dst ephemeralPrivate now (by omega)]

theorem format_response_sends (h h' : Handshake P) (dst : Bytes) (ephemeralPrivate : Bytes32) (m : Bytes)
    (s : Session) (sent : h.formatHandshakeResponse dst ephemeralPrivate = .ok (h', .ok (m, s))) : Sends h m h' := by
  by_cases roomy : handshakeRespSz ≤ dst.length
  · -- only an `InitReceived` state formats a response; every other one panics
    cases received : h.state
    case initReceived hash chainingKey peerEphemeralPublic peerIndex =>
      rw [format_response_refines h dst ephemeralPrivate hash chainingKey peerEphemeralPublic peerIndex received
        roomy] at sent
      cases sent
      exact ⟨_, _, _, rfl, IK.parse_response_message _ _ _ _ (IK.length_response_nothing ..) _ _, rfl, rfl, rfl⟩
    all_goals
      rw [formatHandshakeResponse, if_neg (by omega), received] at sent
      cases sent
  · rw [formatHandshakeResponse, if_pos (by omega)] at sent
    cases sent

theorem format_response_failed (h h' : Handshake P) (dst : Bytes) (ephemeralPrivate : Bytes32)
    (e : WireGuardError) (failed : h.formatHandshakeResponse dst ephemeralPrivate = .ok (h', .error e)) : h' = h := by
  rw [formatHandshakeResponse] at failed
  split_ifs at failed
  · cases failed
    rfl
  · split at failed
    · cases failed
    · cases failed

theorem receive_response_keeps (h h' : Handshake P) (packet : HandshakeResponse) (now : Instant)
    (r : Except WireGuardError Session) (ok : h.receiveHandshakeResponse packet now = .ok (h', r)) :
    h'.params = h.params ∧ h'.cookies = h.cookies := by
  unfold receiveHandshakeResponse at ok
  split at ok
  -- nothing awaits it
  · cases ok
    exact ⟨rfl, rfl⟩
  obtain ⟨opened, -, ok⟩ := Loop.bind_eq_ok.mp ok
  cases opened with
  -- the empty payload does not open
  | error e =>
      cases ok
      exact ⟨rfl, rfl⟩
  -- the states move and the RTT is set
  | ok _ =>
      cases ok
      split <;> exact ⟨rfl, rfl⟩

theorem receive_cookie_reply_opens (opens : P.XOpenSeal) (h : Handshake P) (mac1 : Bytes16) (nonce : Bytes24)
    (cookie : Bytes16) (lastMac1 : h.cookies.lastMac1 = some mac1) :
    h.receiveCookieReply ⟨h.cookies.index, nonce.toList,
        (P.xSeal h.params.cookieKey nonce mac1.toList cookie.toList).1.1 ++
          (P.xSeal h.params.cookieKey nonce mac1.toList cookie.toList).2.toList⟩ =
      .ok ({ h with cookies := { h.cookies with writeCookie := some cookie } }, .ok ()) := by
  set sealed := P.xSeal h.params.cookieKey nonce mac1.toList cookie.toList
  have sealedLen : sealed.1.1.length = 16 := by simp [sealed.1.2]
  -- the opened buffer's type depends on the slice it was cut from, so the slice stays as the code cuts it
  have roundTrip : (P.xOpen h.params.cookieKey nonce mac1.toList (List.take 16 (sealed.1.1 ++ sealed.2.toList))
      sealed.2).map Subtype.val = some cookie.toList := by
    rw [List.take_left' sealedLen]
    exact opens h.params.cookieKey nonce mac1.toList cookie.toList
  simp only [receiveCookieReply, lastMac1, ne_eq, not_true_eq_false, if_false, cookieSize]
  rw [dif_neg (by simp [sealedLen])]
  simp only [List.drop_left' sealedLen, from_slice_to_list, bind, Except.bind]
  rcases opening : P.xOpen h.params.cookieKey nonce mac1.toList (List.take 16 (sealed.1.1 ++ sealed.2.toList))
    sealed.2 with _ | opened
  · rw [opening] at roundTrip
    cases roundTrip
  · rw [opening, Option.map_some, Option.some.injEq] at roundTrip
    simp only [pure, Except.pure]
    congr

/-! The calls made on a handshake, as a labelled transition system: each call may send one
    handshake message. -/

-- One call on a handshake and the handshake message it sends, if any. A response is formatted
-- only from within `receive_handshake_initialization`; `clear_cookie` is the timers' and a cookie
-- reply is taken in through `receive_cookie_reply`, both outside these steps.
inductive Call : Handshake P → Option Bytes → Handshake P → Prop
  | formatInitiation (h : Handshake P) (dst : Bytes) (ephemeralPrivate : Bytes32) (now : Instant) :
      Call h (h.formatHandshakeInitiation dst ephemeralPrivate now).2.toOption
        (h.formatHandshakeInitiation dst ephemeralPrivate now).1
  | receiveInitiation (h h' : Handshake P) (packet : HandshakeInit) (dst : Bytes) (ephemeralPrivate : Bytes32)
      (r : Except WireGuardError (Bytes × Session)) :
      h.receiveHandshakeInitialization packet dst ephemeralPrivate = .ok (h', r) →
        Call h (r.toOption.map Prod.fst) h'
  | receiveResponse (h h' : Handshake P) (packet : HandshakeResponse) (now : Instant)
      (r : Except WireGuardError Session) :
      h.receiveHandshakeResponse packet now = .ok (h', r) → Call h none h'
  | setExpired (h : Handshake P) : Call h none h.setExpired

theorem call_sends {h h' : Handshake P} {out : Option Bytes} (call : Call h out h') (m : Bytes)
    (sent : out = some m) : Sends h m h' := by
  cases call with
  | formatInitiation dst ephemeralPrivate now =>
      apply format_initiation_sends h _ dst ephemeralPrivate now m
      revert sent
      rcases h.formatHandshakeInitiation dst ephemeralPrivate now with ⟨h', _ | m'⟩ <;> simp [Except.toOption]
  | receiveInitiation h' packet dst ephemeralPrivate r received =>
      rcases r with e | ⟨m', s⟩
      · cases sent
      · cases sent
        rcases receive_initiation_formats h h' packet dst ephemeralPrivate _ received with
          ⟨-, e, failed⟩ | ⟨h1, params, cookies, formatted⟩
        · cases failed
        · exact sends_of_same_keys params cookies (format_response_sends h1 h' dst ephemeralPrivate m' s formatted)
  | receiveResponse => cases sent
  | setExpired => cases sent

theorem call_quiet {h h' : Handshake P} (call : Call h none h') : h'.params = h.params ∧ h'.cookies = h.cookies := by
  generalize quiet : (Option.none : Option Bytes) = out at call
  cases call with
  | formatInitiation dst ephemeralPrivate now =>
      rcases formatted : h.formatHandshakeInitiation dst ephemeralPrivate now with ⟨h', e | m⟩
      · have same := format_initiation_failed h dst ephemeralPrivate now e (by rw [formatted])
        rw [formatted] at same
        rw [same]
        exact ⟨rfl, rfl⟩
      · rw [formatted] at quiet
        cases quiet
  | receiveInitiation h' packet dst ephemeralPrivate r received =>
      rcases r with e | ⟨m, s⟩
      · rcases receive_initiation_formats h h' packet dst ephemeralPrivate _ received with
          ⟨rfl, -⟩ | ⟨h1, params, cookies, formatted⟩
        · exact ⟨rfl, rfl⟩
        · rw [format_response_failed h1 h' dst ephemeralPrivate e formatted]
          exact ⟨params, cookies⟩
      · cases quiet
  | receiveResponse h' packet now r received => exact receive_response_keeps h h' packet now r received
  | setExpired => exact ⟨rfl, rfl⟩

theorem call_keeps {h h' : Handshake P} {out : Option Bytes} (call : Call h out h') :
    h'.params = h.params ∧ h'.cookies.writeCookie = h.cookies.writeCookie := by
  rcases out with _ | m
  · obtain ⟨params, cookies⟩ := call_quiet call
    exact ⟨params, by rw [cookies]⟩
  · obtain ⟨message, idx, packet, -, -, -, params, cookies⟩ := call_sends call m rfl
    exact ⟨params, by rw [cookies]⟩

theorem msg_mac2_of_cookie (h : Handshake P) (cookie : Bytes16) (has : h.cookies.writeCookie = some cookie)
    (message : Bytes) : h.msgMac2 message = b2sKeyedMac16_2 P cookie.toList message (h.msgMac1 message).toList := by
  rw [msgMac2, has]
  rfl

theorem run_keeps {h h' : Handshake P} (run : Relation.ReflTransGen (fun h h' => ∃ out, Call h out h') h h') :
    h'.params = h.params ∧ h'.cookies.writeCookie = h.cookies.writeCookie := by
  induction run with
  | refl => exact ⟨rfl, rfl⟩
  | tail _ step kept =>
      obtain ⟨out, call⟩ := step
      obtain ⟨params, cookie⟩ := call_keeps call
      exact ⟨params.trans kept.1, cookie.trans kept.2⟩

theorem quiet_run_keeps {h h' : Handshake P} (run : Relation.ReflTransGen (fun h h' => Call h none h') h h') :
    h'.params = h.params ∧ h'.cookies = h.cookies := by
  induction run with
  | refl => exact ⟨rfl, rfl⟩
  | tail _ step kept =>
      obtain ⟨params, cookies⟩ := call_quiet step
      exact ⟨params.trans kept.1, cookies.trans kept.2⟩

end Handshake

/-! The two ends of the MACs: what a handshake appends for its peer, and what the peer's limiter,
    created for its own static key, checks. -/

section Peers

variable {P : Primitives} (bPublic : Bytes32) (limit : UInt64) (nonceKey : Bytes32) (secretKey : Bytes16)
  (start : Instant)

theorem mac1_key_agrees (h : Handshake P) (rl : RateLimiter)
    (keys : RateLimiter.SameKeys (RateLimiter.new P bPublic limit nonceKey secretKey start) rl)
    (peer : h.params.peerStaticPublic = bPublic) (message : Bytes) :
    b2sKeyedMac16 P rl.mac1Key.toList message = h.msgMac1 message := by
  rw [keys.mac1_key, Handshake.msgMac1, h.params.sending_mac1_key_eq, peer]
  rfl

theorem cookie_key_agrees (h : Handshake P) (rl : RateLimiter)
    (keys : RateLimiter.SameKeys (RateLimiter.new P bPublic limit nonceKey secretKey start) rl)
    (peer : h.params.peerStaticPublic = bPublic) : rl.cookieKey = h.params.cookieKey := by
  rw [keys.cookie_key, h.params.cookie_key_eq, peer]
  rfl

theorem cookie_reply_opens (opens : P.XOpenSeal) {h h1 : Handshake P} {m : Bytes} (rl rl1 : RateLimiter)
    (keys : RateLimiter.SameKeys (RateLimiter.new P bPublic limit nonceKey secretKey start) rl)
    (peer : h.params.peerStaticPublic = bPublic) (sent : Handshake.Sends h m h1) (addr : IpAddr) (now : Instant)
    (dst c : Bytes) (replied : rl.verifyPacket P (some addr) m dst now = (rl1, .error (.writeToNetwork c))) :
    ∃ reply, parseIncomingPacket c = .ok (.packetCookieReply reply) ∧
      ∀ h2 : Handshake P, h2.params = h1.params → h2.cookies = h1.cookies →
        h2.receiveCookieReply reply =
          .ok ({ h2 with cookies := { h2.cookies with writeCookie := some (rl.currentCookie P addr now) } }, .ok ()) := by
  obtain ⟨message, idx, packet, rfl, parsed, sender, params1, cookies1⟩ := sent
  set cookie := rl.currentCookie P addr now
  have formatted := RateLimiter.verify_packet_cookie_reply P rl message _ _ dst now packet idx addr rl1 c parsed sender
    replied
  obtain ⟨c', formatted', replyParsed⟩ := RateLimiter.parse_format_cookie_reply P { rl with count := rl.count + 1 } idx
    cookie (h.msgMac1 message).toList dst
    (RateLimiter.format_cookie_reply_roomy P _ (h.msgMac1 message) dst idx cookie rl1 c formatted)
  rw [formatted] at formatted'
  cases formatted'
  refine ⟨_, replyParsed, fun h2 params2 cookies2 => ?_⟩
  have lastMac1 : h2.cookies.lastMac1 = some (h.msgMac1 message) := by rw [cookies2, cookies1]
  have index : h2.cookies.index = idx := by rw [cookies2, cookies1]
  have sameKey : rl.cookieKey = h2.params.cookieKey := by
    rw [params2, params1]
    exact cookie_key_agrees bPublic limit nonceKey secretKey start h rl keys peer
  have opened := Handshake.receive_cookie_reply_opens opens h2 (h.msgMac1 message) (rl.nonce P).2 cookie lastMac1
  rw [index, ← sameKey] at opened
  exact opened

-- Without a cookie a handshake sends a zero mac2, which a loaded limiter refuses unless the
-- cookie of the source address happens to MAC the message to zero.
theorem sent_without_cookie_refused {h h' : Handshake P} {m : Bytes} (rl : RateLimiter)
    (keys : RateLimiter.SameKeys (RateLimiter.new P bPublic limit nonceKey secretKey start) rl)
    (peer : h.params.peerStaticPublic = bPublic) (noCookie : h.cookies.writeCookie = none) (sent : Handshake.Sends h m h')
    (loaded : rl.limit ≤ rl.count) (addr : IpAddr) (now : Instant) (dst : Bytes) (roomy : cookieReplySz ≤ dst.length)
    (keyed : ∀ message mac1, b2sKeyedMac16_2 P (rl.currentCookie P addr now).toList message mac1 ≠ Vector.replicate 16 0) :
    ∃ rl' c, rl.verifyPacket P (some addr) m dst now = (rl', .error (.writeToNetwork c)) := by
  obtain ⟨message, idx, packet, rfl, parsed, sender, -, -⟩ := sent
  have zero : h.msgMac2 message = Vector.replicate 16 0 := by rw [Handshake.msgMac2, noCookie]
  rw [zero] at parsed ⊢
  exact RateLimiter.verify_packet_refuses P rl message _ _ dst now packet idx parsed sender
    (mac1_key_agrees bPublic limit nonceKey secretKey start h rl keys peer message) loaded addr (keyed _ _) roomy

end Peers

open Handshake RateLimiter in
theorem mac_and_cookie_agreement {P : Primitives} (opensCookie : P.XOpenSeal) (bPublic : Bytes32)
    (limit : UInt64) (nonceKey : Bytes32) (secretKey : Bytes16) (start : Instant) :
    (∀ (A A' : Handshake P) (m : Bytes) (rl : RateLimiter) (srcAddr : Option IpAddr) (dst : Bytes) (now : Instant),
      A.params.peerStaticPublic = bPublic → Call A (some m) A' →
      Relation.ReflTransGen (Step P) (RateLimiter.new P bPublic limit nonceKey secretKey start) rl →
      (rl.verifyPacket P srcAddr m dst now).2 ≠ .error (.err .invalidMac) ∧
        (rl.count < rl.limit → ∃ packet, parseIncomingPacket m = .ok packet ∧
          (rl.verifyPacket P srcAddr m dst now).2 = .ok packet)) ∧
    (∀ (A A1 : Handshake P) (m : Bytes) (rl rl1 : RateLimiter) (s : IpAddr) (dst : Bytes) (now : Instant) (c : Bytes),
      A.params.peerStaticPublic = bPublic → Call A (some m) A1 →
      Relation.ReflTransGen (Step P) (RateLimiter.new P bPublic limit nonceKey secretKey start) rl →
      rl.verifyPacket P (some s) m dst now = (rl1, .error (.writeToNetwork c)) →
      ∃ reply, parseIncomingPacket c = .ok (.packetCookieReply reply) ∧
        ∀ A2, Relation.ReflTransGen (fun h h' => Call h none h') A1 A2 →
        ∃ A3, A2.receiveCookieReply reply = .ok (A3, .ok ()) ∧
          ∀ (A4 A5 : Handshake P) (m' : Bytes) (rl' : RateLimiter) (dst' : Bytes) (now' : Instant),
            Relation.ReflTransGen (fun h h' => ∃ out, Call h out h') A3 A4 → Call A4 (some m') A5 →
            Relation.ReflTransGen (Step P) rl1 rl' → rl'.curCounter now' = rl.curCounter now →
            ∃ packet, parseIncomingPacket m' = .ok packet ∧
              (rl'.verifyPacket P (some s) m' dst' now').2 = .ok packet) := by
  refine ⟨?mac1, ?cookie⟩
  case mac1 =>
    intro A A' m rl srcAddr dst now peer call run
    obtain ⟨message, idx, packet, rfl, parsed, sender, -, -⟩ := call_sends call m rfl
    have mac1Ok := mac1_key_agrees bPublic limit nonceKey secretKey start A rl (run_same_keys P run) peer message
    exact ⟨verify_packet_mac1_accepted P rl srcAddr message _ _ dst now packet idx parsed sender mac1Ok,
      fun light => ⟨packet, parsed,
        verify_packet_accepts P rl srcAddr message _ _ dst now packet idx parsed sender mac1Ok (.inl light)⟩⟩
  case cookie =>
    intro A A1 m rl rl1 s dst now c peer call run replied
    have sent := call_sends call m rfl
    -- B answers with the cookie of `s`, sealed for the mac1 of `m` under the key of B's public key
    obtain ⟨reply, replyParsed, opens⟩ := cookie_reply_opens bPublic limit nonceKey secretKey start opensCookie rl rl1
      (run_same_keys P run) peer sent s now dst c replied
    refine ⟨reply, replyParsed, ?_⟩
    -- with no message sent since `m`, A still holds the index and the mac1 the reply is bound to
    intro A2 quiet
    obtain ⟨params2, cookies2⟩ := quiet_run_keeps quiet
    refine ⟨_, opens A2 params2 cookies2, ?_⟩
    -- every message sent afterwards carries mac2 under that cookie, which B recomputes within the period
    intro A4 A5 m' rl' dst' now' run4 call4 run' period
    obtain ⟨params4, cookie4⟩ := run_keeps run4
    obtain ⟨-, -, -, -, -, -, params1, -⟩ := sent
    obtain ⟨message', idx', packet', rfl, parsed', sender', -, -⟩ := call_sends call4 m' rfl
    have keys1 : SameKeys rl rl1 := by
      have counted := step_same_keys P (Step.verifyPacket rl (some s) m dst now)
      rwa [replied] at counted
    have keys' : SameKeys rl rl' := keys1.trans (run_same_keys P run')
    have peer4 : A4.params.peerStaticPublic = bPublic := by rw [params4, params2, params1, peer]
    have mac1Ok := mac1_key_agrees bPublic limit nonceKey secretKey start A4 rl'
      ((run_same_keys P run).trans keys') peer4 message'
    have mac2Ok : b2sKeyedMac16_2 P (rl'.currentCookie P s now').toList message' (A4.msgMac1 message').toList =
        A4.msgMac2 message' := by
      rw [current_cookie_same_period P keys' s now now' period, msg_mac2_of_cookie A4 _ cookie4]
    exact ⟨packet', parsed',
      verify_packet_accepts P rl' (some s) message' _ _ dst' now' packet' idx' parsed' sender' mac1Ok
        (.inr ⟨s, rfl, mac2Ok⟩)⟩

open Handshake RateLimiter in
theorem plain_mac_and_cookie_agreement :
    (∀ (A A' : Handshake Primitives.plain) (m : Bytes) (rl : RateLimiter) (srcAddr : Option IpAddr) (dst : Bytes)
      (now : Instant),
      A.params.peerStaticPublic = Vector.replicate 32 2 → Call A (some m) A' →
      Relation.ReflTransGen (Step Primitives.plain)
        (RateLimiter.new Primitives.plain (Vector.replicate 32 2) 10 (Vector.replicate 32 0) (Vector.replicate 16 0) 0)
        rl →
      (rl.verifyPacket Primitives.plain srcAddr m dst now).2 ≠ .error (.err .invalidMac) ∧
        (rl.count < rl.limit → ∃ packet, parseIncomingPacket m = .ok packet ∧
          (rl.verifyPacket Primitives.plain srcAddr m dst now).2 = .ok packet)) ∧
    (∀ (A A1 : Handshake Primitives.plain) (m : Bytes) (rl rl1 : RateLimiter) (s : IpAddr) (dst : Bytes)
      (now : Instant) (c : Bytes),
      A.params.peerStaticPublic = Vector.replicate 32 2 → Call A (some m) A1 →
      Relation.ReflTransGen (Step Primitives.plain)
        (RateLimiter.new Primitives.plain (Vector.replicate 32 2) 10 (Vector.replicate 32 0) (Vector.replicate 16 0) 0)
        rl →
      rl.verifyPacket Primitives.plain (some s) m dst now = (rl1, .error (.writeToNetwork c)) →
      ∃ reply, parseIncomingPacket c = .ok (.packetCookieReply reply) ∧
        ∀ A2, Relation.ReflTransGen (fun h h' => Call h none h') A1 A2 →
        ∃ A3, A2.receiveCookieReply reply = .ok (A3, .ok ()) ∧
          ∀ (A4 A5 : Handshake Primitives.plain) (m' : Bytes) (rl' : RateLimiter) (dst' : Bytes)
            (now' : Instant),
            Relation.ReflTransGen (fun h h' => ∃ out, Call h out h') A3 A4 → Call A4 (some m') A5 →
            Relation.ReflTransGen (Step Primitives.plain) rl1 rl' → rl'.curCounter now' = rl.curCounter now →
            ∃ packet, parseIncomingPacket m' = .ok packet ∧
              (rl'.verifyPacket Primitives.plain (some s) m' dst' now').2 = .ok packet) :=
  mac_and_cookie_agreement Primitives.plain_x_open_seal (Vector.replicate 32 2) 10 (Vector.replicate 32 0)
    (Vector.replicate 16 0) 0

end Boringtun.Noise
