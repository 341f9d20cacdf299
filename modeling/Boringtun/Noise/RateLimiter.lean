import Boringtun.Noise.Handshake

set_option autoImplicit false

/- `noise/rate_limiter.rs`: the MAC checks of handshake messages and the cookie replies sent
   under load. The atomics `nonce_ctr` and `count` and the mutex around `last_reset` become
   plain fields; the random `nonce_key` and `secret_key` and the clock readings are arguments. -/
namespace Boringtun.Noise

def cookieRefresh : UInt64 := 128
def cookieNonceSize : ℕ := 24
def resetPeriod : UInt64 := 1

structure RateLimiter where
  nonceKey : Bytes32
  secretKey : Bytes16
  startTime : Instant
  nonceCtr : UInt64
  mac1Key : Bytes32
  cookieKey : Bytes32
  limit : UInt64
  count : UInt64
  lastReset : Instant
deriving DecidableEq, Repr

namespace RateLimiter

variable (P : Primitives)

def new (publicKey : Bytes32) (limit : UInt64) (nonceKey : Bytes32) (secretKey : Bytes16) (now : Instant) :
    RateLimiter :=
  { nonceKey, secretKey
    startTime := now
    nonceCtr := 0
    mac1Key := b2sHash P labelMac1 publicKey.toList
    cookieKey := b2sHash P labelCookie publicKey.toList
    limit
    count := 0
    lastReset := now }

-- Reset packet count (ideally called with a period of 1 second).
def resetCount (rl : RateLimiter) (now : Instant) : RateLimiter :=
  if UInt64.ofNat (now.durationSince rl.lastReset / 1000000000) ≥ resetPeriod then
    { rl with count := 0, lastReset := now }
  else rl

-- `addr_bytes`: an IPv4 address in the first four of sixteen zero bytes.
def addrBytes : IpAddr → Bytes
  | .v4 a => a.toList ++ List.replicate 12 0
  | .v6 a => a.toList

-- `cur_counter`: the number of `COOKIE_REFRESH` periods since the limiter started.
def curCounter (rl : RateLimiter) (now : Instant) : UInt64 :=
  UInt64.ofNat (now.durationSince rl.startTime / 1000000000) / cookieRefresh

def currentCookie (rl : RateLimiter) (addr : IpAddr) (now : Instant) : Bytes16 :=
  b2sKeyedMac16_2 P rl.secretKey.toList (Endian.u64ToLeBytes (rl.curCounter now)) (addrBytes addr)

def nonce (rl : RateLimiter) : RateLimiter × Bytes24 :=
  let ctr := rl.nonceCtr
  ({ rl with nonceCtr := ctr + 1 }, b2sMac24 P rl.nonceKey.toList (Endian.u64ToLeBytes ctr))

def isUnderLoad (rl : RateLimiter) : RateLimiter × Bool :=
  ({ rl with count := rl.count + 1 }, rl.count ≥ rl.limit)

-- `format_cookie_reply`. XChaCha20-Poly1305 cannot fail on a 16-byte buffer.
def formatCookieReply (rl : RateLimiter) (idx : UInt32) (cookie : Bytes16) (mac1 dst : Bytes) :
    RateLimiter × Except WireGuardError Bytes :=
  if dst.length < cookieReplySz then (rl, .error .destinationBufferTooSmall)
  else
    let (rl, nonce) := rl.nonce P
    let sealed := P.xSeal rl.cookieKey nonce mac1 cookie.toList
    (rl, .ok (Endian.u32ToLeBytes cookieReply ++ Endian.u32ToLeBytes idx ++ nonce.toList ++ sealed.1.1 ++
      sealed.2.toList))

def handshakeSenderIdx : Packet → Option UInt32
  | .handshakeInit p => some p.senderIdx
  | .handshakeResponse p => some p.senderIdx
  | _ => none

-- `verify_packet`: checks mac1 of every handshake message and, under load, mac2, answering a
-- bad mac2 with a cookie reply written into `dst`.
def verifyPacket (rl : RateLimiter) (srcAddr : Option IpAddr) (src dst : Bytes) (now : Instant) :
    RateLimiter × Except TunnResult Packet :=
  match parseIncomingPacket src with
  | .error e => (rl, .error (.err e))
  | .ok packet =>
      match handshakeSenderIdx packet with
      | none => (rl, .ok packet)
      | some senderIdx =>
          let msg := src.take (src.length - 32)
          let mac1 := (src.drop (src.length - 32)).take 16
          let mac2 := (src.drop (src.length - 32)).drop 16
          let computedMac1 := b2sKeyedMac16 P rl.mac1Key.toList msg
          if computedMac1.toList ≠ mac1 then (rl, .error (.err .invalidMac))
          else
            let (rl, underLoad) := rl.isUnderLoad
            if !underLoad then (rl, .ok packet)
            else
              match srcAddr with
              | none => (rl, .error (.err .underLoad))
              | some addr =>
                  -- Only given an address can we validate mac2
                  let cookie := rl.currentCookie P addr now
                  let computedMac2 := b2sKeyedMac16_2 P cookie.toList msg mac1
                  if computedMac2.toList ≠ mac2 then
                    match rl.formatCookieReply P senderIdx cookie mac1 dst with
                    | (rl, .ok cookiePacket) => (rl, .error (.writeToNetwork cookiePacket))
                    | (rl, .error e) => (rl, .error (.err e))
                  else (rl, .ok packet)

theorem parse_format_cookie_reply (rl : RateLimiter) (idx : UInt32) (cookie : Bytes16) (mac1 dst : Bytes)
    (roomy : cookieReplySz ≤ dst.length) :
    let nonce := (rl.nonce P).2
    let sealed := P.xSeal rl.cookieKey nonce mac1 cookie.toList
    ∃ message, (rl.formatCookieReply P idx cookie mac1 dst).2 = .ok message ∧
      parseIncomingPacket message = .ok (.packetCookieReply ⟨idx, nonce.toList, sealed.1.1 ++ sealed.2.toList⟩) := by
  intro nonce sealed
  refine ⟨_, ?_, parse_cookie_reply_layout idx nonce.toList (sealed.1.1 ++ sealed.2.toList) (by simp) ?_⟩
  · rw [formatCookieReply, if_neg (by omega)]
    simp [nonce, sealed, RateLimiter.nonce, List.append_assoc]
  · simp [sealed.1.2]

/-! What `verify_packet` answers to a handshake message laid out as the message, mac1 and mac2. -/

section Verify

variable (rl : RateLimiter) (srcAddr : Option IpAddr) (message : Bytes) (mac1 mac2 : Bytes16) (dst : Bytes)
  (now : Instant) (packet : Packet) (idx : UInt32)

@[simp] theorem current_cookie_count (count : UInt64) (addr : IpAddr) :
    ({ rl with count } : RateLimiter).currentCookie P addr now = rl.currentCookie P addr now := rfl

theorem split_macs :
    (message ++ mac1.toList ++ mac2.toList).take ((message ++ mac1.toList ++ mac2.toList).length - 32) = message ∧
      ((message ++ mac1.toList ++ mac2.toList).drop
        ((message ++ mac1.toList ++ mac2.toList).length - 32)).take 16 = mac1.toList ∧
      ((message ++ mac1.toList ++ mac2.toList).drop
        ((message ++ mac1.toList ++ mac2.toList).length - 32)).drop 16 = mac2.toList := by
  have macsOff : (message ++ mac1.toList ++ mac2.toList).length - 32 = message.length := by simp
  rw [macsOff, List.append_assoc]
  simp

theorem verify_packet_mac1_ok (parsed : parseIncomingPacket (message ++ mac1.toList ++ mac2.toList) = .ok packet)
    (handshake : handshakeSenderIdx packet = some idx) (mac1Ok : b2sKeyedMac16 P rl.mac1Key.toList message = mac1) :
    rl.verifyPacket P srcAddr (message ++ mac1.toList ++ mac2.toList) dst now =
      if rl.count < rl.limit then ({ rl with count := rl.count + 1 }, .ok packet)
      else match srcAddr with
        | none => ({ rl with count := rl.count + 1 }, .error (.err .underLoad))
        | some addr =>
            if b2sKeyedMac16_2 P (rl.currentCookie P addr now).toList message mac1.toList = mac2 then
              ({ rl with count := rl.count + 1 }, .ok packet)
            else
              match ({ rl with count := rl.count + 1 } : RateLimiter).formatCookieReply P idx
                  (rl.currentCookie P addr now) mac1.toList dst with
              | (rl, .ok cookiePacket) => (rl, .error (.writeToNetwork cookiePacket))
              | (rl, .error e) => (rl, .error (.err e)) := by
  obtain ⟨msg, macOne, macTwo⟩ := split_macs message mac1 mac2
  have mac2Eq (cookie : Bytes16) : (b2sKeyedMac16_2 P cookie.toList message mac1.toList).toList ≠ mac2.toList ↔
      b2sKeyedMac16_2 P cookie.toList message mac1.toList ≠ mac2 := by
    simp [Vector.toList_inj]
  simp only [verifyPacket, parsed, handshake, msg, macOne, macTwo, mac1Ok, ne_eq, not_true_eq_false, if_false,
    isUnderLoad, mac2Eq]
  by_cases light : rl.count < rl.limit
  · simp [light]
  · have loaded : rl.limit ≤ rl.count := UInt64.not_lt.mp light
    cases srcAddr with
    | none => simp [light, loaded]
    | some addr =>
        by_cases mac2Ok : b2sKeyedMac16_2 P (rl.currentCookie P addr now).toList message mac1.toList = mac2 <;>
          simp [light, loaded, mac2Ok]

theorem verify_packet_bad_mac1 (parsed : parseIncomingPacket (message ++ mac1.toList ++ mac2.toList) = .ok packet)
    (handshake : handshakeSenderIdx packet = some idx) (mac1Bad : b2sKeyedMac16 P rl.mac1Key.toList message ≠ mac1) :
    rl.verifyPacket P srcAddr (message ++ mac1.toList ++ mac2.toList) dst now = (rl, .error (.err .invalidMac)) := by
  obtain ⟨msg, macOne, -⟩ := split_macs message mac1 mac2
  have differ : (b2sKeyedMac16 P rl.mac1Key.toList message).toList ≠ mac1.toList := by
    simpa [Vector.toList_inj] using mac1Bad
  simp only [verifyPacket, parsed, handshake, msg, macOne, differ, ne_eq, not_false_eq_true, if_true]

theorem format_cookie_reply_error (cookie : Bytes16) (e : WireGuardError)
    (failed : (rl.formatCookieReply P idx cookie mac1.toList dst).2 = .error e) : e = .destinationBufferTooSmall := by
  unfold formatCookieReply at failed
  split_ifs at failed
  simpa using failed.symm

theorem format_cookie_reply_roomy (cookie : Bytes16) (rl' : RateLimiter) (c : Bytes)
    (formatted : rl.formatCookieReply P idx cookie mac1.toList dst = (rl', .ok c)) : cookieReplySz ≤ dst.length := by
  unfold formatCookieReply at formatted
  split_ifs at formatted with short
  · cases formatted
  · omega

theorem verify_packet_mac1_accepted (parsed : parseIncomingPacket (message ++ mac1.toList ++ mac2.toList) = .ok packet)
    (handshake : handshakeSenderIdx packet = some idx) (mac1Ok : b2sKeyedMac16 P rl.mac1Key.toList message = mac1) :
    (rl.verifyPacket P srcAddr (message ++ mac1.toList ++ mac2.toList) dst now).2 ≠ .error (.err .invalidMac) := by
  rw [verify_packet_mac1_ok P rl srcAddr message mac1 mac2 dst now packet idx parsed handshake mac1Ok]
  split_ifs
  · simp
  · rcases srcAddr with _ | addr
    · simp
    · dsimp only
      split_ifs
      · simp
      · -- the only error of a cookie reply is a short buffer
        rcases replied : ({ rl with count := rl.count + 1 } : RateLimiter).formatCookieReply P idx
          (rl.currentCookie P addr now) mac1.toList dst with ⟨rl', _ | c⟩
        · have short := format_cookie_reply_error P _ mac1 dst idx _ _ (congrArg Prod.snd replied)
          simp [short]
        · simp

theorem verify_packet_accepts (parsed : parseIncomingPacket (message ++ mac1.toList ++ mac2.toList) = .ok packet)
    (handshake : handshakeSenderIdx packet = some idx) (mac1Ok : b2sKeyedMac16 P rl.mac1Key.toList message = mac1)
    (mac2Ok : rl.count < rl.limit ∨ ∃ addr, srcAddr = some addr ∧
      b2sKeyedMac16_2 P (rl.currentCookie P addr now).toList message mac1.toList = mac2) :
    (rl.verifyPacket P srcAddr (message ++ mac1.toList ++ mac2.toList) dst now).2 = .ok packet := by
  rw [verify_packet_mac1_ok P rl srcAddr message mac1 mac2 dst now packet idx parsed handshake mac1Ok]
  rcases mac2Ok with light | ⟨addr, rfl, mac2Ok⟩
  · simp [light]
  · by_cases light : rl.count < rl.limit <;> simp [light, mac2Ok]

theorem verify_packet_refuses (parsed : parseIncomingPacket (message ++ mac1.toList ++ mac2.toList) = .ok packet)
    (handshake : handshakeSenderIdx packet = some idx) (mac1Ok : b2sKeyedMac16 P rl.mac1Key.toList message = mac1)
    (loaded : rl.limit ≤ rl.count) (addr : IpAddr)
    (mac2Bad : b2sKeyedMac16_2 P (rl.currentCookie P addr now).toList message mac1.toList ≠ mac2)
    (roomy : cookieReplySz ≤ dst.length) :
    ∃ rl' c, rl.verifyPacket P (some addr) (message ++ mac1.toList ++ mac2.toList) dst now =
      (rl', .error (.writeToNetwork c)) := by
  obtain ⟨c, formatted, -⟩ := parse_format_cookie_reply P { rl with count := rl.count + 1 } idx
    (rl.currentCookie P addr now) mac1.toList dst roomy
  rw [verify_packet_mac1_ok P rl _ message mac1 mac2 dst now packet idx parsed handshake mac1Ok,
    if_neg (UInt64.not_lt.mpr loaded)]
  dsimp only
  rw [if_neg mac2Bad]
  rcases replied : ({ rl with count := rl.count + 1 } : RateLimiter).formatCookieReply P idx
    (rl.currentCookie P addr now) mac1.toList dst with ⟨rl', r⟩
  rw [replied] at formatted
  cases formatted
  exact ⟨rl', c, rfl⟩

theorem verify_packet_cookie_reply (addr : IpAddr) (rl' : RateLimiter) (c : Bytes)
    (parsed : parseIncomingPacket (message ++ mac1.toList ++ mac2.toList) = .ok packet)
    (handshake : handshakeSenderIdx packet = some idx)
    (replied : rl.verifyPacket P (some addr) (message ++ mac1.toList ++ mac2.toList) dst now =
      (rl', .error (.writeToNetwork c))) :
    ({ rl with count := rl.count + 1 } : RateLimiter).formatCookieReply P idx (rl.currentCookie P addr now)
      mac1.toList dst = (rl', .ok c) := by
  by_cases mac1Ok : b2sKeyedMac16 P rl.mac1Key.toList message = mac1
  · rw [verify_packet_mac1_ok P rl _ message mac1 mac2 dst now packet idx parsed handshake mac1Ok] at replied
    split_ifs at replied
    · simp at replied
    · dsimp only at replied
      split_ifs at replied
      · simp at replied
      · rcases formatted : ({ rl with count := rl.count + 1 } : RateLimiter).formatCookieReply P idx
          (rl.currentCookie P addr now) mac1.toList dst with ⟨rl2, _ | c2⟩
        · simp [formatted] at replied
        · simp only [formatted, Prod.mk.injEq, Except.error.injEq, TunnResult.writeToNetwork.injEq] at replied
          rw [replied.1, replied.2]
  · rw [verify_packet_bad_mac1 P rl _ message mac1 mac2 dst now packet idx parsed handshake mac1Ok] at replied
    simp at replied

end Verify

theorem format_cookie_reply_length (rl rl' : RateLimiter) (idx : UInt32) (cookie : Bytes16) (mac1 dst c : Bytes)
    (formatted : rl.formatCookieReply P idx cookie mac1 dst = (rl', .ok c)) : c.length = cookieReplySz := by
  unfold formatCookieReply at formatted
  split_ifs at formatted
  · cases formatted
  · cases formatted
    simp [cookieReplySz, (P.xSeal rl.cookieKey (b2sMac24 P rl.nonceKey.toList (Endian.u64ToLeBytes rl.nonceCtr))
      mac1 cookie.toList).1.2]

theorem verify_packet_answers (rl : RateLimiter) (srcAddr : Option IpAddr) (src dst : Bytes) (now : Instant) :
    (∃ packet, (rl.verifyPacket P srcAddr src dst now).2 = .ok packet ∧ parseIncomingPacket src = .ok packet) ∨
      (∃ e, (rl.verifyPacket P srcAddr src dst now).2 = .error (.err e)) ∨
      (∃ c, (rl.verifyPacket P srcAddr src dst now).2 = .error (.writeToNetwork c) ∧ c.length = cookieReplySz) := by
  unfold verifyPacket
  rcases parsed : parseIncomingPacket src with e | packet
  · exact .inr (.inl ⟨e, rfl⟩)
  dsimp only
  rcases handshakeSenderIdx packet with _ | senderIdx
  · exact .inl ⟨packet, rfl, rfl⟩
  dsimp only [isUnderLoad]
  split
  · exact .inr (.inl ⟨_, rfl⟩)
  by_cases loaded : rl.limit ≤ rl.count
  · simp only [ge_iff_le, loaded, decide_true, Bool.not_true, Bool.false_eq_true, if_false]
    rcases srcAddr with _ | addr
    · exact .inr (.inl ⟨_, rfl⟩)
    dsimp only
    simp only [current_cookie_count]
    by_cases mac2Ok : (b2sKeyedMac16_2 P (rl.currentCookie P addr now).toList (src.take (src.length - 32))
        ((src.drop (src.length - 32)).take 16)).toList = (src.drop (src.length - 32)).drop 16
    · simp only [mac2Ok, ne_eq, not_true_eq_false, if_false]
      exact .inl ⟨packet, rfl, rfl⟩
    · simp only [mac2Ok, ne_eq, not_false_eq_true, if_true]
      -- the reply is written whole, or the buffer was too small for it
      split
      · exact .inr (.inr ⟨_, rfl, format_cookie_reply_length P _ _ _ _ _ _ _ ‹_›⟩)
      · exact .inr (.inl ⟨_, rfl⟩)
  · simp only [ge_iff_le, loaded, decide_false, Bool.not_false, if_true]
    exact .inl ⟨packet, rfl, rfl⟩

/-! A limiter as it runs: the calls a device makes on it change its counters, never its keys. -/

structure SameKeys (rl rl' : RateLimiter) : Prop where
  secret_key : rl'.secretKey = rl.secretKey
  start_time : rl'.startTime = rl.startTime
  mac1_key : rl'.mac1Key = rl.mac1Key
  cookie_key : rl'.cookieKey = rl.cookieKey
  limit : rl'.limit = rl.limit

theorem same_keys_refl (rl : RateLimiter) : SameKeys rl rl := ⟨rfl, rfl, rfl, rfl, rfl⟩

theorem SameKeys.trans {rl rl' rl'' : RateLimiter} (first : SameKeys rl rl') (second : SameKeys rl' rl'') :
    SameKeys rl rl'' :=
  ⟨second.secret_key.trans first.secret_key, second.start_time.trans first.start_time,
    second.mac1_key.trans first.mac1_key, second.cookie_key.trans first.cookie_key, second.limit.trans first.limit⟩

theorem same_keys_counters (rl : RateLimiter) (count nonceCtr : UInt64) (lastReset : Instant) :
    SameKeys rl { rl with count, nonceCtr, lastReset } := ⟨rfl, rfl, rfl, rfl, rfl⟩

theorem format_cookie_reply_counters {rl rl' : RateLimiter} {idx : UInt32} {cookie : Bytes16} {mac1 dst : Bytes}
    {r : Except WireGuardError Bytes} (formatted : rl.formatCookieReply P idx cookie mac1 dst = (rl', r)) :
    ∃ nonceCtr, rl' = { rl with nonceCtr } := by
  unfold formatCookieReply at formatted
  split_ifs at formatted
  · exact ⟨rl.nonceCtr, (congrArg Prod.fst formatted).symm⟩
  · exact ⟨rl.nonceCtr + 1, (congrArg Prod.fst formatted).symm⟩

theorem verify_packet_same_keys (rl : RateLimiter) (srcAddr : Option IpAddr) (src dst : Bytes) (now : Instant) :
    SameKeys rl (rl.verifyPacket P srcAddr src dst now).1 := by
  unfold verifyPacket
  rcases parseIncomingPacket src with e | packet
  · exact same_keys_refl rl
  dsimp only
  rcases handshakeSenderIdx packet with _ | senderIdx
  · exact same_keys_refl rl
  dsimp only [isUnderLoad]
  have counted := same_keys_counters rl (rl.count + 1) rl.nonceCtr rl.lastReset
  split
  · exact same_keys_refl rl
  by_cases loaded : rl.limit ≤ rl.count
  · simp only [ge_iff_le, loaded, decide_true, Bool.not_true, Bool.false_eq_true, if_false]
    rcases srcAddr with _ | addr
    · exact counted
    dsimp only
    simp only [current_cookie_count]
    by_cases mac2Ok : (b2sKeyedMac16_2 P (rl.currentCookie P addr now).toList (src.take (src.length - 32))
        ((src.drop (src.length - 32)).take 16)).toList = (src.drop (src.length - 32)).drop 16
    · simp only [mac2Ok, ne_eq, not_true_eq_false, if_false]
      exact counted
    · simp only [mac2Ok, ne_eq, not_false_eq_true, if_true]
      split
      all_goals
        obtain ⟨nonceCtr, rfl⟩ := format_cookie_reply_counters P ‹_›
        exact same_keys_counters rl (rl.count + 1) nonceCtr rl.lastReset
  · simp only [ge_iff_le, loaded, decide_false, Bool.not_false, if_true]
    exact counted

inductive Step : RateLimiter → RateLimiter → Prop
  | resetCount (rl : RateLimiter) (now : Instant) : Step rl (rl.resetCount now)
  | verifyPacket (rl : RateLimiter) (srcAddr : Option IpAddr) (src dst : Bytes) (now : Instant) :
      Step rl (rl.verifyPacket P srcAddr src dst now).1

theorem step_same_keys {rl rl' : RateLimiter} (step : Step P rl rl') : SameKeys rl rl' := by
  cases step with
  | resetCount now =>
      unfold resetCount
      split_ifs
      · exact same_keys_counters rl 0 rl.nonceCtr now
      · exact same_keys_refl rl
  | verifyPacket srcAddr src dst now => exact verify_packet_same_keys P rl srcAddr src dst now

theorem run_same_keys {rl rl' : RateLimiter} (run : Relation.ReflTransGen (Step P) rl rl') : SameKeys rl rl' := by
  induction run with
  | refl => exact same_keys_refl rl
  | tail _ step keys => exact keys.trans (step_same_keys P step)

theorem current_cookie_same_period {rl rl' : RateLimiter} (keys : SameKeys rl rl') (addr : IpAddr)
    (now now' : Instant) (period : rl'.curCounter now' = rl.curCounter now) :
    rl'.currentCookie P addr now' = rl.currentCookie P addr now := by
  rw [currentCookie, currentCookie, period, keys.secret_key]

end RateLimiter

end Boringtun.Noise
