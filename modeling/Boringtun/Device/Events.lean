import Boringtun.Device.DataPlane

set_option autoImplicit false

/- The data plane of `device/mod.rs` as a whole: a run of handler calls in any order. Along a run
   the device's configuration stays as it was, every packet written to the interface is data that
   opened under a session of the peer the configuration routes it to and comes from a network that
   peer is allowed, and an endpoint moves only to the sender of a message the peer's tunnel took.
   The interface handler panics when a listening socket is missing and only then, and the timer
   event never does. -/
namespace Boringtun.Device

open Noise

variable {P : Primitives} {N : IpNetworks}

theorem peer_of_keeps {d di : Device P N} (kept : Keeps d di) : di.peerOf = d.peerOf := by
  funext privateKey publicKey packet
  cases packet <;> simp only [peerOf, peerByIdx, kept.peers, kept.peersByIdx]

theorem took_keeps {d di : Device P N} (kept : Keeps d di) {rateLimiter : RateLimiter} {privateKey publicKey : Bytes32}
    {dst : Bytes} {ephemeralPrivate : Bytes32} {now : Instant} {packet : Bytes} {addr : SocketAddr} {r : PeerRef}
    {p : Peer P N} (took : Took di rateLimiter privateKey publicKey dst ephemeralPrivate now packet addr r p) :
    Took d rateLimiter privateKey publicKey dst ephemeralPrivate now packet addr r p := by
  obtain ⟨parsed, rateLimiter', t, result, verified, looked, handled, notErr⟩ := took
  exact ⟨parsed, rateLimiter', t, result, verified, peer_of_keeps kept ▸ looked, handled, notErr⟩

/-! The device the examples below run on: both listening sockets open, one peer, every session
    slot holding the session a data message from `10.0.0.2` was sealed for, the network
    `10.0.0.0/8` routed to it and `10.0.0.2/32` allowed from it. -/

def plainSession : Session := Session.new 8 2 (Vector.replicate 32 5) (Vector.replicate 32 6)

def plainIpPacket : Bytes := [0x45, 0, 0, 20, 0, 0, 0, 0, 64, 17, 0, 0, 10, 0, 0, 2, 10, 0, 0, 1]

def plainDataMessage : Bytes :=
  Endian.u32ToLeBytes data ++ Endian.u32ToLeBytes 8 ++ Endian.u64ToLeBytes 0 ++
    aeadChacha20Seal Primitives.plain (Vector.replicate 32 5) 0 plainIpPacket []

def plainDataPeer : Peer Primitives.plain IpNetworks.prefixMap :=
  { tunnel := { Tunn.new Primitives.plain (Vector.replicate 32 1) (Vector.replicate 32 2) none none 0 none ⟨0, 0⟩ 0
      (Vector.replicate 32 0) (Vector.replicate 16 0) with sessions := Vector.replicate nSessions (some plainSession) }
    index := 0
    endpoint := ⟨some ⟨.v4 ⟨#[192, 0, 2, 1], rfl⟩, 51820⟩⟩
    allowedIps := ⟨(∅ : AList _).insert (PrefixMap.truncate (.v4 ⟨#[10, 0, 0, 2], rfl⟩) 32 (by decide)) ()⟩
    presharedKey := none }

def plainDataDevice : Device Primitives.plain IpNetworks.prefixMap :=
  { Device.new Primitives.plain IpNetworks.prefixMap ⟨1, IndexLfsr.in_range_one⟩ ⟨1, IndexLfsr.in_range_one⟩ with
    keyPair := some (Vector.replicate 32 1, Vector.replicate 32 1)
    listenPort := 51820
    udp4 := some 51820
    udp6 := some 51820
    peers := (∅ : AList _).insert (Vector.replicate 32 2) 0
    peersByIdx := (∅ : AList _).insert 0 0
    peersByIp := ⟨(∅ : AList _).insert (PrefixMap.truncate (.v4 ⟨#[10, 0, 0, 0], rfl⟩) 8 (by decide)) 0⟩
    rateLimiter := some (RateLimiter.new Primitives.plain (Vector.replicate 32 1) handshakeRateLimit
      (Vector.replicate 32 0) (Vector.replicate 16 0) 0)
    arena := [plainDataPeer] }

def plainSender : SocketAddr := ⟨.v4 ⟨#[10, 0, 0, 2], rfl⟩, 4000⟩

/-! Roaming: `set_endpoint` in the UDP handler. -/

def limiterAfter (P : Primitives) (dst : Bytes) (now : Instant) : RateLimiter → List (Bytes × SocketAddr) → RateLimiter :=
  List.foldl fun rl (packet, addr) => (rl.verifyPacket P (some addr.ip) packet dst now).1

theorem limiter_after_append (dst : Bytes) (now : Instant) (rl : RateLimiter) (ys zs : List (Bytes × SocketAddr)) :
    limiterAfter P dst now rl (ys ++ zs) = limiterAfter P dst now (limiterAfter P dst now rl ys) zs :=
  List.foldl_append

theorem get_append_of_get (zs : List (Bytes × SocketAddr)) {ys : List (Bytes × SocketAddr)} {i : ℕ}
    {x : Bytes × SocketAddr} (at_ : ys[i]? = some x) :
    (ys ++ zs)[i]? = some x ∧ (ys ++ zs).take i = ys.take i := by
  have inYs : i < ys.length := (List.getElem?_eq_some_iff.mp at_).1
  exact ⟨by rw [List.getElem?_append_left inYs, at_], List.take_append_of_le_length (Nat.le_of_lt inYs)⟩

section Roaming

variable (privateKey publicKey : Bytes32) (dst : Bytes) (ephemeralPrivate : Bytes32) (now : Instant)

-- The endpoint stays, or moved to the sender of the `i`th datagram, checked by the limiter the
-- ones before it left, routed to the peer and taken by its tunnel.
def Roamed (rl : RateLimiter) (datagrams : List (Bytes × SocketAddr)) (d d' : Device P N) : Prop :=
  ∀ {r p'}, d'.peer r = some p' → ∃ p, d.peer r = some p ∧ (p'.endpoint = p.endpoint ∨
    ∃ i packet addr, datagrams[i]? = some (packet, addr) ∧ p'.endpoint = ⟨some addr⟩ ∧ ∃ di pi, Keeps d di ∧
      di.peer r = some pi ∧
      Took d (limiterAfter P dst now rl (datagrams.take i)) privateKey publicKey dst ephemeralPrivate now packet addr r pi)

theorem roamed_refl (rl : RateLimiter) (datagrams : List (Bytes × SocketAddr)) (d : Device P N) :
    Roamed privateKey publicKey dst ephemeralPrivate now rl datagrams d d :=
  fun {_ p'} found => ⟨p', found, .inl rfl⟩

variable {privateKey publicKey dst ephemeralPrivate now}

theorem Roamed.of_prefix {rl : RateLimiter} {ys xs : List (Bytes × SocketAddr)} {d d' : Device P N} (pre : ys <+: xs)
    (roamed : Roamed privateKey publicKey dst ephemeralPrivate now rl ys d d') :
    Roamed privateKey publicKey dst ephemeralPrivate now rl xs d d' := by
  intro r p' found'
  obtain ⟨p, found, moved⟩ := roamed found'
  refine ⟨p, found, moved.imp_right fun ⟨i, packet, addr, at_, endpoint, di, pi, kept, peer, took⟩ => ?_⟩
  obtain ⟨rest, rfl⟩ := pre
  obtain ⟨at', taken⟩ := get_append_of_get rest at_
  exact ⟨i, packet, addr, at', endpoint, di, pi, kept, peer, by rwa [taken]⟩

theorem Roamed.append {rl : RateLimiter} {ys zs : List (Bytes × SocketAddr)} {d d' d'' : Device P N} (kept : Keeps d d')
    (first : Roamed privateKey publicKey dst ephemeralPrivate now rl ys d d')
    (second : Roamed privateKey publicKey dst ephemeralPrivate now (limiterAfter P dst now rl ys) zs d' d'') :
    Roamed privateKey publicKey dst ephemeralPrivate now rl (ys ++ zs) d d'' := by
  intro r p'' found''
  obtain ⟨p', found', moved'⟩ := second found''
  obtain ⟨p, found, moved⟩ := (first.of_prefix (List.prefix_append ys zs)) found'
  refine ⟨p, found, ?_⟩
  rcases moved' with same' | ⟨j, packet, addr, at_, endpoint, di, pi, kept', peer, took⟩
  · rw [same']
    exact moved
  -- the `j`th of `zs` is the `ys.length + j`th of the whole
  · refine .inr ⟨ys.length + j, packet, addr, ?_, endpoint, di, pi, kept.trans kept', peer, ?_⟩
    · rw [List.getElem?_append_right (Nat.le_add_right _ _), Nat.add_sub_cancel_left, at_]
    · rw [List.take_length_add_append, limiter_after_append]
      exact took_keeps kept took

theorem udp_turn_roamed {d d' : Device P N} {rl rl' : RateLimiter} {packet : Bytes} {addr : SocketAddr}
    {outputs : List Output} {counted : Bool}
    (turned : udpTurn privateKey publicKey dst ephemeralPrivate now (d, rl) (packet, addr) =
      .ok ((d', rl'), outputs, counted)) :
    Roamed privateKey publicKey dst ephemeralPrivate now rl [(packet, addr)] d d' := fun found' => by
  obtain ⟨p, found, moved⟩ := udp_turn_roams turned found'
  refine ⟨p, found, moved.imp_right fun ⟨endpoint, took⟩ => ?_⟩
  exact ⟨0, packet, addr, rfl, endpoint, d, p, keeps_refl d, found, took⟩

theorem udp_handler_roams {d d' : Device P N} {datagrams unread : List (Bytes × SocketAddr)} {outputs : List Output}
    (handled : d.udpHandler dst ephemeralPrivate now datagrams = .ok (d', outputs, unread)) :
    ∃ privateKey publicKey rl, d.keyPair = some (privateKey, publicKey) ∧ d.rateLimiter = some rl ∧
      Roamed privateKey publicKey dst ephemeralPrivate now rl datagrams d d' := by
  unfold udpHandler at handled
  split at handled
  · cases handled
  · rename_i privateKey publicKey keys
    split at handled
    · cases handled
    · rename_i rl limiter
      obtain ⟨⟨⟨d1, rl1⟩, outputs1, unread1⟩, looped, returned⟩ := Loop.bind_eq_ok.mp handled
      cases returned
      -- over the datagrams `ys` its turns read, the loop leaves the limiter as the checks of `ys` do
      let Q := fun (ys : List (Bytes × SocketAddr)) (s s' : Device P N × RateLimiter) =>
        s'.2 = limiterAfter P dst now s.2 ys ∧ Keeps s.1 s'.1 ∧
          Roamed privateKey publicKey dst ephemeralPrivate now s.2 ys s.1 s'.1
      have append : ∀ {ys zs a b c}, Q ys a b → Q zs b c → Q (ys ++ zs) a c := by
        intro ys zs a b c first second
        refine ⟨by rw [second.1, first.1, limiter_after_append], first.2.1.trans second.2.1, ?_⟩
        exact Roamed.append first.2.1 first.2.2 (by rw [← first.1]; exact second.2.2)
      obtain ⟨ys, pre, -, -, roamed⟩ := Loop.collect_counted_reads Q
        (fun s => ⟨rfl, keeps_refl s.1, roamed_refl privateKey publicKey dst ephemeralPrivate now s.2 [] s.1⟩) append
        (fun _ _ _ _ _ turned => ⟨udp_turn_limiter turned, udp_turn_keeps turned, udp_turn_roamed turned⟩) looped
      exact ⟨privateKey, publicKey, rl, keys, limiter, fun found' => (roamed.of_prefix pre) found'⟩

theorem plain_udp_handler_roams :
    ∃ d' outputs unread, plainDataDevice.udpHandler (List.replicate 64 0) (Vector.replicate 32 3) 0
        [(plainDataMessage, plainSender)] = .ok (d', outputs, unread) ∧
      ∃ privateKey publicKey rl, plainDataDevice.keyPair = some (privateKey, publicKey) ∧
        plainDataDevice.rateLimiter = some rl ∧
        Roamed privateKey publicKey (List.replicate 64 0) (Vector.replicate 32 3) 0 rl [(plainDataMessage, plainSender)]
          plainDataDevice d' := by
  have ran : (plainDataDevice.udpHandler (List.replicate 64 0) (Vector.replicate 32 3) 0
      [(plainDataMessage, plainSender)]).map (·.2.1) = .ok [.write4 plainIpPacket] := by
    decide +kernel
  obtain ⟨⟨d', outputs, unread⟩, handled, -⟩ := Loop.map_eq_ok.mp ran
  exact ⟨d', outputs, unread, handled, udp_handler_roams handled⟩

end Roaming

/-! The interface handler: where its datagrams go, and that it does not panic. -/

section Iface

variable {dst : Bytes} {ephemeralPrivate : Bytes32} {now : Instant}

theorem iface_handler_routes (sound : N.LongestMatchSound) {d d' : Device P N} {packets : List Bytes}
    {outputs : List Output} (handled : d.ifaceHandler dst ephemeralPrivate now packets = .ok (d', outputs)) {o : Output}
    (mem : o ∈ outputs) :
    ∃ src ∈ packets.take maxItr, ∃ dstAddr r p addr sealed, dstAddress src = some dstAddr ∧ d.peer r = some p ∧
      p.endpoint.addr = some addr ∧ o = .sendTo addr sealed ∧
      (∃ network, N.exactMatch d.peersByIp.ips network = some r ∧ N.contains network dstAddr = true ∧
        ∀ network' r', N.exactMatch d.peersByIp.ips network' = some r' → N.contains network' dstAddr = true →
          N.netmask network' ≤ N.netmask network) ∧
      ∃ di pi t, Keeps d di ∧ di.peer r = some pi ∧ pi.tunnel.encapsulate src dst ephemeralPrivate now =
        .ok (t, .writeToNetwork sealed) := by
  obtain ⟨-, -, sends⟩ := iface_handler_effect handled
  obtain ⟨src, read, di, kept, settled, sent⟩ := sends o mem
  obtain ⟨r, p, found, dstAddr, addr, sealed, routed, matched, endpoint, rfl, pi, t, peer, encapsulated⟩ :=
    sent_for_mono kept settled sent
  exact ⟨src, read, dstAddr, r, p, addr, sealed, routed, found, endpoint, rfl,
    AllowedIps.find_longest sound matched, di, pi, t, kept, peer, encapsulated⟩

theorem plain_iface_handler_routes :
    IpNetworks.prefixMap.LongestMatchSound ∧
    ∃ d' o, plainDataDevice.ifaceHandler (List.replicate 64 0) (Vector.replicate 32 3) 0 [plainIpPacket] = .ok (d', [o]) ∧
      ∃ src ∈ [plainIpPacket].take maxItr, ∃ dstAddr r p addr sealed, dstAddress src = some dstAddr ∧
        plainDataDevice.peer r = some p ∧ p.endpoint.addr = some addr ∧ o = .sendTo addr sealed ∧
        (∃ network, IpNetworks.prefixMap.exactMatch plainDataDevice.peersByIp.ips network = some r ∧
          IpNetworks.prefixMap.contains network dstAddr = true ∧
          ∀ network' r', IpNetworks.prefixMap.exactMatch plainDataDevice.peersByIp.ips network' = some r' →
            IpNetworks.prefixMap.contains network' dstAddr = true →
            IpNetworks.prefixMap.netmask network' ≤ IpNetworks.prefixMap.netmask network) ∧
        ∃ di pi t, Keeps plainDataDevice di ∧ di.peer r = some pi ∧
          pi.tunnel.encapsulate src (List.replicate 64 0) (Vector.replicate 32 3) 0 = .ok (t, .writeToNetwork sealed) := by
  have ran : (plainDataDevice.ifaceHandler (List.replicate 64 0) (Vector.replicate 32 3) 0 [plainIpPacket]).map
      (·.2.length) = .ok 1 := by
    decide +kernel
  obtain ⟨⟨d', outputs⟩, handled, single⟩ := Loop.map_eq_ok.mp ran
  obtain ⟨o, rfl⟩ := List.length_eq_one_iff.mp single
  exact ⟨PrefixMap.longest_match_sound, d', o, handled,
    iface_handler_routes PrefixMap.longest_match_sound handled List.mem_cons_self⟩

theorem iface_turn_ok (d : Device P N) {src : Bytes} (fits : src.length + dataOverheadSz ≤ dst.length) :
    ∃ d' outputs, ifaceTurn d dst ephemeralPrivate now src = .ok (d', outputs) := by
  cases turned : ifaceTurn d dst ephemeralPrivate now src with
  | error msg =>
      obtain ⟨r, p, -, encapsulated⟩ := iface_turn_error turned
      have short := (Tunn.encapsulate_error encapsulated).2
      omega
  | ok result => exact ⟨result.1, result.2, rfl⟩

theorem iface_handler_ok (d : Device P N) (packets : List Bytes)
    (fits : ∀ src ∈ packets.take maxItr, src.length + dataOverheadSz ≤ dst.length) :
    (d.udp4.isSome ∧ d.udp6.isSome → ∃ d' outputs, d.ifaceHandler dst ephemeralPrivate now packets = .ok (d', outputs)) ∧
      (d.udp4 = none ∨ d.udp6 = none → d.ifaceHandler dst ephemeralPrivate now packets = .error "Not connected") := by
  rcases iface_handler_cases d packets with ⟨open4, open6, looped⟩ | ⟨closed, panicked⟩
  · refine ⟨fun _ => ?_, fun closed => ?_⟩
    · rw [looped]
      exact Loop.collect_ok (fun _ => True) (fun s _ read _ => by
        obtain ⟨s', outputs, turned⟩ := iface_turn_ok s (fits _ read)
        exact ⟨s', outputs, turned, trivial⟩) trivial
    · rcases closed with closed | closed <;> simp [closed] at open4 open6
  · refine ⟨fun ⟨open4, open6⟩ => ?_, fun _ => panicked⟩
    rcases closed with closed | closed <;> simp [closed] at open4 open6

theorem plain_iface_handler_ok :
    (∀ src ∈ [plainIpPacket].take maxItr, src.length + dataOverheadSz ≤ (List.replicate 64 0).length) ∧
      (plainDataDevice.udp4.isSome ∧ plainDataDevice.udp6.isSome →
        ∃ d' outputs, plainDataDevice.ifaceHandler (List.replicate 64 0) (Vector.replicate 32 3) 0 [plainIpPacket] =
          .ok (d', outputs)) ∧
      (plainDataDevice.udp4 = none ∨ plainDataDevice.udp6 = none →
        plainDataDevice.ifaceHandler (List.replicate 64 0) (Vector.replicate 32 3) 0 [plainIpPacket] =
          .error "Not connected") := by
  have fits : ∀ src ∈ [plainIpPacket].take maxItr, src.length + dataOverheadSz ≤ (List.replicate 64 0).length := by
    decide
  exact ⟨fits, iface_handler_ok plainDataDevice [plainIpPacket] fits⟩

end Iface

/-! The timer event. -/

theorem timers_handler_ok {d : Device P N} {dst : Bytes} {ephemeralPrivate : Bytes32} {now : Instant}
    (timely : Timely d now) (roomy : dataOverheadSz ≤ dst.length) :
    ∃ d' outputs, d.timersHandler dst ephemeralPrivate now = .ok (d', outputs) := by
  rcases timers_handler_cases d with quiet | looped
  · exact ⟨d, [], quiet⟩
  · rw [looped]
    exact Loop.collect_ok (Timely · now) (fun _ e _ timely' => timers_turn_ok timely' roomy e.2) timely

theorem plain_timers_handler_ok :
    Timely plainDataDevice 0 ∧ dataOverheadSz ≤ (List.replicate 64 0).length ∧
      ∃ d' outputs, plainDataDevice.timersHandler (List.replicate 64 0) (Vector.replicate 32 3) 0 = .ok (d', outputs) := by
  have timely : Timely plainDataDevice 0 := by
    intro r p found
    cases r with
    | zero =>
        cases found
        exact Timers.before_new none true 0
    | succ r => cases found
  have roomy : dataOverheadSz ≤ (List.replicate 64 0).length := by decide
  exact ⟨timely, roomy, timers_handler_ok timely roomy⟩

theorem timers_handler_effect {d d' : Device P N} {dst : Bytes} {ephemeralPrivate : Bytes32} {now : Instant}
    {outputs : List Output} (handled : d.timersHandler dst ephemeralPrivate now = .ok (d', outputs)) :
    Keeps d d' ∧ ∀ o ∈ outputs, o.interfaceWrite = none := by
  rcases timers_handler_cases d with returned | looped
  · rw [returned] at handled
    cases handled
    exact ⟨keeps_refl d, fun _ absent => absurd absent List.not_mem_nil⟩
  rw [looped] at handled
  obtain ⟨kept, quiet⟩ := Loop.collect_outputs Keeps (fun _ o => o.interfaceWrite = none) keeps_refl Keeps.trans
    (fun _ _ _ _ _ turned => (timers_turn_keeps turned).1) (fun _ _ _ _ _ turned => (timers_turn_keeps turned).2) handled
  exact ⟨kept, fun o mem => (quiet o mem).elim fun _ ⟨_, held⟩ => held⟩

/-! Runs of the data plane. -/

theorem handled_effect {d d' : Device P N} {outputs : List Output} (handled : Handled d outputs d') :
    Keeps d d' ∧ ∀ o ∈ outputs, ∀ written, o.interfaceWrite = some written → ∃ dst, WrittenBy d dst written := by
  cases handled with
  | udp _ dst ephemeralPrivate now datagrams unread outputs handled =>
      obtain ⟨kept, writes⟩ := udp_handler_effect handled
      exact ⟨kept, fun o mem written toIface => ⟨dst, writes o mem written toIface⟩⟩
  | conn _ r peerAddr dst ephemeralPrivate now datagrams unread outputs handled =>
      obtain ⟨kept, writes⟩ := conn_handler_effect handled
      exact ⟨kept, fun o mem written toIface => ⟨dst, writes o mem written toIface⟩⟩
  | iface _ dst ephemeralPrivate now packets outputs handled =>
      obtain ⟨kept, -, sends⟩ := iface_handler_effect handled
      refine ⟨kept, fun o mem written toIface => ?_⟩
      obtain ⟨src, -, di, -, -, sent⟩ := sends o mem
      cases o <;> first | exact sent.elim | cases toIface
  | timers _ dst ephemeralPrivate now outputs handled =>
      obtain ⟨kept, quiet⟩ := timers_handler_effect handled
      refine ⟨kept, fun o mem written toIface => ?_⟩
      rw [quiet o mem] at toIface
      cases toIface
  | resetRateLimiter now => exact ⟨keeps_rate_limiter d _, fun _ absent => absurd absent List.not_mem_nil⟩

theorem data_plane_keeps {d d' : Device P N}
    (run : Relation.ReflTransGen (fun d d' => ∃ outputs, Handled d outputs d') d d') : Keeps d d' := by
  induction run with
  | refl => exact keeps_refl d
  | tail _ step kept =>
      obtain ⟨outputs, handled⟩ := step
      exact kept.trans (handled_effect handled).1

theorem plain_handled :
    ∃ d' unread, plainDataDevice.connHandler 0 (.v4 ⟨#[10, 0, 0, 2], rfl⟩) (List.replicate 64 0)
      (Vector.replicate 32 3) 0 [plainDataMessage] = .ok (d', [.write4 plainIpPacket], unread) := by
  have ran : (plainDataDevice.connHandler 0 (.v4 ⟨#[10, 0, 0, 2], rfl⟩) (List.replicate 64 0) (Vector.replicate 32 3) 0
      [plainDataMessage]).map (·.2.1) = .ok [.write4 plainIpPacket] := by
    decide +kernel
  obtain ⟨⟨d', outputs, unread⟩, handled, written⟩ := Loop.map_eq_ok.mp ran
  exact ⟨d', unread, by rw [handled, ← written]⟩

theorem data_plane_filters (sound : N.LongestMatchSound) {d d1 d2 : Device P N} {outputs : List Output}
    (run : Relation.ReflTransGen (fun d d' => ∃ outputs, Handled d outputs d') d d1) (handled : Handled d1 outputs d2)
    {o : Output} (mem : o ∈ outputs) {written : Bytes} (toIface : o.interfaceWrite = some written) :
    ∃ dst r p src, d.peer r = some p ∧ (∃ di pi, Keeps d di ∧ di.peer r = some pi ∧ pi.tunnel.Opened dst written src) ∧
      ∃ network, N.exactMatch p.allowedIps.ips network = some () ∧ N.contains network src = true := by
  obtain ⟨dst, writtenBy⟩ := (handled_effect handled).2 o mem written toIface
  obtain ⟨di, r, pi, src, kept, peer, opened, allowed⟩ := written_by_mono (data_plane_keeps run) writtenBy
  obtain ⟨p, found, same⟩ := kept.config peer
  obtain ⟨network, stored, holds⟩ := Peer.is_allowed_ip_stored sound allowed
  rw [same.allowedIps] at stored
  exact ⟨dst, r, p, src, found, ⟨di, pi, kept, peer, opened⟩, network, stored, holds⟩

theorem plain_data_plane_filters :
    IpNetworks.prefixMap.LongestMatchSound ∧
    ∃ d' outputs, Handled plainDataDevice outputs d' ∧ .write4 plainIpPacket ∈ outputs ∧
      (Output.write4 plainIpPacket).interfaceWrite = some plainIpPacket ∧
      ∃ dst r p src, plainDataDevice.peer r = some p ∧
        (∃ di pi, Keeps plainDataDevice di ∧ di.peer r = some pi ∧ pi.tunnel.Opened dst plainIpPacket src) ∧
        ∃ network, IpNetworks.prefixMap.exactMatch p.allowedIps.ips network = some () ∧
          IpNetworks.prefixMap.contains network src = true := by
  obtain ⟨d', unread, handled⟩ := plain_handled
  have handled' : Handled plainDataDevice [.write4 plainIpPacket] d' := .conn _ _ 0 _ _ _ 0 _ _ _ handled
  exact ⟨PrefixMap.longest_match_sound, d', _, handled', List.mem_cons_self, rfl,
    data_plane_filters PrefixMap.longest_match_sound .refl handled' List.mem_cons_self rfl⟩

end Boringtun.Device
