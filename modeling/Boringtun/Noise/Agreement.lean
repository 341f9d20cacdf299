import Boringtun.Noise.Handshake

set_option autoImplicit false

/- The Noise IKpsk2 key schedule WireGuard runs, written once as a function of what the two
   ends share: the public keys on the wire and the Diffie-Hellman secrets. The initiator's and
   the responder's code each compute this schedule from their own half of every secret; x25519
   agreement makes the halves meet, and that is why the two ends derive the same session keys. -/
namespace Boringtun.Noise

namespace IK

variable (P : Primitives)

structure Initiation where
  encryptedStatic : Bytes
  encryptedTimestamp : Bytes
  hash : Bytes32
  chainingKey : Bytes32

-- The initiation from the responder's static key, the initiator's ephemeral public key, the
-- secrets `es` = DH(e_i, S_r) and `ss` = DH(s_i, S_r), the initiator's static key and the
-- timestamp.
def initiation (responderStatic ephemeralPublic es ss : Bytes32) (initiatorStatic timestamp : Bytes) :
    Initiation :=
  let hash := b2sHash P (b2sHash P initialChainHash.toList responderStatic.toList).toList ephemeralPublic.toList
  let chainingKey := b2sKdf1 P initialChainKey.toList ephemeralPublic.toList
  let (chainingKey, key) := b2sKdf2 P chainingKey.toList es.toList
  let encryptedStatic := aeadChacha20Seal P key 0 initiatorStatic hash.toList
  let hash := b2sHash P hash.toList encryptedStatic
  let (chainingKey, key) := b2sKdf2 P chainingKey.toList ss.toList
  let encryptedTimestamp := aeadChacha20Seal P key 0 timestamp hash.toList
  { encryptedStatic, encryptedTimestamp, hash := b2sHash P hash.toList encryptedTimestamp, chainingKey }

structure Response where
  encryptedNothing : Bytes
  initiatorKey : Bytes32
  responderKey : Bytes32

-- The response from the state after the initiation, the responder's ephemeral public key, the
-- secrets `ee` = DH(e_r, E_i) and `se` = DH(e_r, S_i), and the preshared key.
def response (hash chainingKey ephemeralPublic ee se psk : Bytes32) : Response :=
  let hash := b2sHash P hash.toList ephemeralPublic.toList
  let chainingKey := b2sKdf1 P chainingKey.toList ephemeralPublic.toList
  let chainingKey := b2sKdf1 P chainingKey.toList ee.toList
  let chainingKey := b2sKdf1 P chainingKey.toList se.toList
  let (chainingKey, temp2, key) := b2sKdf3 P chainingKey.toList psk.toList
  let hash := b2sHash P hash.toList temp2.toList
  let encryptedNothing := aeadChacha20Seal P key 0 [] hash.toList
  let (temp2, temp3) := b2sKdf2 P chainingKey.toList []
  { encryptedNothing, initiatorKey := temp2, responderKey := temp3 }

def initiationMessage (senderIdx : UInt32) (ephemeralPublic : Bytes32) (t : Initiation) : Bytes :=
  Endian.u32ToLeBytes handshakeInit ++ Endian.u32ToLeBytes senderIdx ++ ephemeralPublic.toList ++
    t.encryptedStatic ++ t.encryptedTimestamp

def responseMessage (senderIdx receiverIdx : UInt32) (ephemeralPublic : Bytes32) (r : Response) : Bytes :=
  Endian.u32ToLeBytes handshakeResp ++ Endian.u32ToLeBytes senderIdx ++ Endian.u32ToLeBytes receiverIdx ++
    ephemeralPublic.toList ++ r.encryptedNothing

theorem length_initiation_static (responderStatic ephemeralPublic es ss : Bytes32) (initiatorStatic timestamp : Bytes) :
    (initiation P responderStatic ephemeralPublic es ss initiatorStatic timestamp).encryptedStatic.length =
      initiatorStatic.length + 16 := by
  simp [initiation]

theorem length_initiation_timestamp (responderStatic ephemeralPublic es ss : Bytes32) (initiatorStatic timestamp : Bytes) :
    (initiation P responderStatic ephemeralPublic es ss initiatorStatic timestamp).encryptedTimestamp.length =
      timestamp.length + 16 := by
  simp [initiation]

theorem length_response_nothing (hash chainingKey ephemeralPublic ee se psk : Bytes32) :
    (response P hash chainingKey ephemeralPublic ee se psk).encryptedNothing.length = 16 := by
  simp [response]

end IK

theorem length_stamp (t : TimeStamper) (now : Instant) : (t.stamp now).length = timestampLen := by
  simp [TimeStamper.stamp, timestampLen]

namespace Handshake

variable {P : Primitives}

theorem aead_open_sealed (P : Primitives) (opens : P.OpenSeal) (key : Bytes32) (counter : UInt64)
    (data aad : Bytes) (bufferLen : ℕ) (exact : bufferLen = data.length) (fits : data.length + 16 ≤ 48) :
    aeadChacha20Open P bufferLen key counter (aeadChacha20Seal P key counter data aad) aad = .ok (.ok data) := by
  subst exact
  exact aead_open_seal P opens key counter data aad fits

/-! Each end computes the key schedule from its own half of every secret. -/

theorem format_initiation_refines (h : Handshake P) (dst : Bytes) (ephemeralPrivate : Bytes32) (now : Instant)
    (roomy : handshakeInitSz ≤ dst.length) :
    h.formatHandshakeInitiation dst ephemeralPrivate now =
      let localIndex := h.incIndex.2
      let t := IK.initiation P h.params.peerStaticPublic (P.publicKey ephemeralPrivate)
        (P.diffieHellman ephemeralPrivate h.params.peerStaticPublic) h.params.staticShared
        h.params.staticPublic.toList (h.stamper.stamp now)
      let sent : Handshake P := { h.incIndex.1 with
        previous := h.state
        state := .initSent ⟨localIndex, t.hash, t.chainingKey, ephemeralPrivate, now⟩ }
      let appended := sent.appendMac1AndMac2 localIndex
        (IK.initiationMessage localIndex (P.publicKey ephemeralPrivate) t ++ (dst.take handshakeInitSz).drop 116)
      (appended.1, .ok appended.2) := by
  rw [formatHandshakeInitiation, if_neg (by omega)]
  rfl

theorem format_response_refines (h : Handshake P) (dst : Bytes) (ephemeralPrivate : Bytes32)
    (hash chainingKey peerEphemeralPublic : Bytes32) (peerIndex : UInt32)
    (received : h.state = .initReceived hash chainingKey peerEphemeralPublic peerIndex)
    (roomy : handshakeRespSz ≤ dst.length) :
    let r := IK.response P hash chainingKey (P.publicKey ephemeralPrivate)
      (P.diffieHellman ephemeralPrivate peerEphemeralPublic)
      (P.diffieHellman ephemeralPrivate h.params.peerStaticPublic) (h.params.presharedKey.getD zeroKey)
    let message := IK.responseMessage h.incIndex.2 peerIndex (P.publicKey ephemeralPrivate) r
    h.formatHandshakeResponse dst ephemeralPrivate =
      .ok ({ h with
          nextIndex := h.incIndex.2
          state := .none
          cookies := { h.cookies with index := h.incIndex.2, lastMac1 := some (h.msgMac1 message) } },
        .ok (message ++ (h.msgMac1 message).toList ++ (h.msgMac2 message).toList,
          Session.new h.incIndex.2 peerIndex r.initiatorKey r.responderKey)) := by
  intro r message
  have macRoom : ((dst.take handshakeRespSz).drop 60).length = 32 := by
    simp [handshakeRespSz] at roomy ⊢
    omega
  rw [formatHandshakeResponse, if_neg (by omega), received]
  dsimp only
  rw [append_mac1_and_mac2_eq _ _ _ _ macRoom]
  rfl

theorem receive_initiation_accepts (opens : P.OpenSeal) (h : Handshake P) (packet : HandshakeInit) (dst : Bytes)
    (ephemeralPrivate : Bytes32) (timestamp : Bytes) (stampLen : timestamp.length = timestampLen)
    (sealedStatic : packet.encryptedStatic = (IK.initiation P h.params.staticPublic packet.unencryptedEphemeral
        (P.diffieHellman h.params.staticPrivate packet.unencryptedEphemeral) h.params.staticShared
        h.params.peerStaticPublic.toList timestamp).encryptedStatic)
    (sealedTimestamp : packet.encryptedTimestamp = (IK.initiation P h.params.staticPublic packet.unencryptedEphemeral
        (P.diffieHellman h.params.staticPrivate packet.unencryptedEphemeral) h.params.staticShared
        h.params.peerStaticPublic.toList timestamp).encryptedTimestamp)
    (fresh : (Tai64N.parse timestamp).after h.lastHandshakeTimestamp = true) :
    let t := IK.initiation P h.params.staticPublic packet.unencryptedEphemeral
        (P.diffieHellman h.params.staticPrivate packet.unencryptedEphemeral) h.params.staticShared
        h.params.peerStaticPublic.toList timestamp
    h.receiveHandshakeInitialization packet dst ephemeralPrivate =
      formatHandshakeResponse { h with
          lastHandshakeTimestamp := Tai64N.parse timestamp
          previous := h.state
          state := .initReceived t.hash t.chainingKey packet.unencryptedEphemeral packet.senderIdx }
        dst ephemeralPrivate := by
  intro t
  unfold receiveHandshakeInitialization
  -- the static key opens under the responder's own key and hash
  rw [sealedStatic]
  simp only [IK.initiation, b2sKdf2]
  rw [aead_open_sealed P opens _ _ _ _ _ (by simp [keyLen]) (by simp)]
  simp only [bind, Except.bind, pure, Except.pure, ne_eq, not_true_eq_false, if_false]
  -- and so does the timestamp, which is fresh
  rw [sealedTimestamp]
  simp only [IK.initiation, b2sKdf2]
  rw [aead_open_sealed P opens _ _ _ _ _ (by simp [stampLen]) (by simp [stampLen, timestampLen])]
  simp only [fresh, Bool.not_true, Bool.false_eq_true, if_false]
  rfl

theorem receive_initiation_refines (opens : P.OpenSeal) (h : Handshake P) (packet : HandshakeInit) (dst : Bytes)
    (ephemeralPrivate : Bytes32) (timestamp : Bytes) (stampLen : timestamp.length = timestampLen)
    (sealedStatic : packet.encryptedStatic = (IK.initiation P h.params.staticPublic packet.unencryptedEphemeral
        (P.diffieHellman h.params.staticPrivate packet.unencryptedEphemeral) h.params.staticShared
        h.params.peerStaticPublic.toList timestamp).encryptedStatic)
    (sealedTimestamp : packet.encryptedTimestamp = (IK.initiation P h.params.staticPublic packet.unencryptedEphemeral
        (P.diffieHellman h.params.staticPrivate packet.unencryptedEphemeral) h.params.staticShared
        h.params.peerStaticPublic.toList timestamp).encryptedTimestamp)
    (fresh : (Tai64N.parse timestamp).after h.lastHandshakeTimestamp = true)
    (roomy : handshakeRespSz ≤ dst.length) :
    let t := IK.initiation P h.params.staticPublic packet.unencryptedEphemeral
        (P.diffieHellman h.params.staticPrivate packet.unencryptedEphemeral) h.params.staticShared
        h.params.peerStaticPublic.toList timestamp
    let r := IK.response P t.hash t.chainingKey (P.publicKey ephemeralPrivate)
      (P.diffieHellman ephemeralPrivate packet.unencryptedEphemeral)
      (P.diffieHellman ephemeralPrivate h.params.peerStaticPublic) (h.params.presharedKey.getD zeroKey)
    ∃ (h' : Handshake P) (mac1 mac2 : Bytes16),
      h.receiveHandshakeInitialization packet dst ephemeralPrivate =
        .ok (h', .ok (IK.responseMessage h.incIndex.2 packet.senderIdx (P.publicKey ephemeralPrivate) r ++
          mac1.toList ++ mac2.toList,
          Session.new h.incIndex.2 packet.senderIdx r.initiatorKey r.responderKey)) := by
  intro t r
  rw [receive_initiation_accepts opens h packet dst ephemeralPrivate timestamp stampLen sealedStatic sealedTimestamp
    fresh]
  exact ⟨_, _, _, format_response_refines _ dst ephemeralPrivate _ _ _ _ rfl roomy⟩

theorem receive_response_refines (opens : P.OpenSeal) (h : Handshake P) (packet : HandshakeResponse) (now : Instant)
    (s : HandshakeInitSentState) (isPrevious : Bool)
    (found : awaiting h.state h.previous packet.receiverIdx = some (s, isPrevious))
    (sealedNothing : packet.encryptedNothing = (IK.response P s.hash s.chainingKey packet.unencryptedEphemeral
        (P.diffieHellman s.ephemeralPrivate packet.unencryptedEphemeral)
        (P.diffieHellman h.params.staticPrivate packet.unencryptedEphemeral)
        (h.params.presharedKey.getD zeroKey)).encryptedNothing) :
    let r := IK.response P s.hash s.chainingKey packet.unencryptedEphemeral
        (P.diffieHellman s.ephemeralPrivate packet.unencryptedEphemeral)
        (P.diffieHellman h.params.staticPrivate packet.unencryptedEphemeral) (h.params.presharedKey.getD zeroKey)
    ∃ h' : Handshake P, h.receiveHandshakeResponse packet now =
      .ok (h', .ok (Session.new s.localIndex packet.senderIdx r.responderKey r.initiatorKey)) := by
  intro r
  unfold receiveHandshakeResponse
  rw [found, sealedNothing]
  -- `kdf2`'s first output is `kdf1`: unfolded, both ends read the same
  simp only [IK.response, b2sKdf1, b2sKdf2, b2sKdf3]
  rw [aead_open_sealed P opens _ _ _ _ _ (by simp) (by simp)]
  exact ⟨_, rfl⟩

theorem format_initiation_sent (h : Handshake P) (dst : Bytes) (ephemeralPrivate : Bytes32) (now : Instant)
    (roomy : handshakeInitSz ≤ dst.length) :
    let t := IK.initiation P h.params.peerStaticPublic (P.publicKey ephemeralPrivate)
      (P.diffieHellman ephemeralPrivate h.params.peerStaticPublic) h.params.staticShared
      h.params.staticPublic.toList (h.stamper.stamp now)
    let after := (h.formatHandshakeInitiation dst ephemeralPrivate now).1
    after.params = h.params ∧ after.previous = h.state ∧ after.nextIndex = h.incIndex.2 ∧
      after.state = .initSent ⟨h.incIndex.2, t.hash, t.chainingKey, ephemeralPrivate, now⟩ := by
  rw [format_initiation_refines h dst ephemeralPrivate now roomy]
  exact ⟨rfl, rfl, rfl, rfl⟩

theorem format_initiation_message (h : Handshake P) (dst : Bytes) (ephemeralPrivate : Bytes32) (now : Instant)
    (roomy : handshakeInitSz ≤ dst.length) :
    let t := IK.initiation P h.params.peerStaticPublic (P.publicKey ephemeralPrivate)
      (P.diffieHellman ephemeralPrivate h.params.peerStaticPublic) h.params.staticShared
      h.params.staticPublic.toList (h.stamper.stamp now)
    ∃ mac1 mac2 : Bytes16, (h.formatHandshakeInitiation dst ephemeralPrivate now).2 =
      .ok (IK.initiationMessage h.incIndex.2 (P.publicKey ephemeralPrivate) t ++ mac1.toList ++ mac2.toList) := by
  intro t
  have macRoom : ((dst.take handshakeInitSz).drop 116).length = 32 := by
    simp [handshakeInitSz] at roomy ⊢
    omega
  rw [format_initiation_refines h dst ephemeralPrivate now roomy]
  dsimp only
  rw [append_mac1_and_mac2_eq _ _ _ _ macRoom]
  exact ⟨_, _, rfl⟩

end Handshake

namespace IK

variable {P : Primitives}

theorem parse_initiation_message (senderIdx : UInt32) (ephemeralPublic : Bytes32) (t : Initiation)
    (staticLen : t.encryptedStatic.length = 48) (timestampLen : t.encryptedTimestamp.length = 28)
    (mac1 mac2 : Bytes16) :
    parseIncomingPacket (initiationMessage senderIdx ephemeralPublic t ++ mac1.toList ++ mac2.toList) =
      .ok (.handshakeInit ⟨senderIdx, ephemeralPublic, t.encryptedStatic, t.encryptedTimestamp⟩) := by
  rw [initiationMessage, List.append_assoc]
  exact parse_handshake_init_layout _ _ _ _ _ staticLen timestampLen (by simp)

theorem parse_response_message (senderIdx receiverIdx : UInt32) (ephemeralPublic : Bytes32) (r : Response)
    (nothingLen : r.encryptedNothing.length = 16) (mac1 mac2 : Bytes16) :
    parseIncomingPacket (responseMessage senderIdx receiverIdx ephemeralPublic r ++ mac1.toList ++ mac2.toList) =
      .ok (.handshakeResponse ⟨senderIdx, receiverIdx, ephemeralPublic, r.encryptedNothing⟩) := by
  rw [responseMessage, List.append_assoc]
  exact parse_handshake_response_layout _ _ _ _ _ nothingLen (by simp)

/-! With x25519 agreement, the two ends feed the schedule the same values. -/

section Agreement

variable (commutes : P.DhCommutes) {a b : NoiseParams P}
include commutes

theorem initiation_agrees (keysA : a.KeyPair) (keysB : b.KeyPair)
    (aKnowsB : a.peerStaticPublic = P.publicKey b.staticPrivate)
    (bKnowsA : b.peerStaticPublic = P.publicKey a.staticPrivate) (ephemeralPrivate : Bytes32) (timestamp : Bytes) :
    initiation P a.peerStaticPublic (P.publicKey ephemeralPrivate) (P.diffieHellman ephemeralPrivate a.peerStaticPublic)
        a.staticShared a.staticPublic.toList timestamp =
      initiation P b.staticPublic (P.publicKey ephemeralPrivate)
        (P.diffieHellman b.staticPrivate (P.publicKey ephemeralPrivate)) b.staticShared b.peerStaticPublic.toList
        timestamp := by
  have es : P.diffieHellman ephemeralPrivate a.peerStaticPublic =
      P.diffieHellman b.staticPrivate (P.publicKey ephemeralPrivate) := by
    rw [aKnowsB]
    exact commutes ephemeralPrivate b.staticPrivate
  have ss : a.staticShared = b.staticShared := by
    rw [a.static_shared_eq, b.static_shared_eq, aKnowsB, bKnowsA]
    exact commutes a.staticPrivate b.staticPrivate
  rw [es, ss, aKnowsB, ← keysB, keysA, ← bKnowsA]

theorem response_agrees (bKnowsA : b.peerStaticPublic = P.publicKey a.staticPrivate)
    (samePsk : a.presharedKey = b.presharedKey) (hash chainingKey initiatorEphemeral responderEphemeral : Bytes32) :
    response P hash chainingKey (P.publicKey responderEphemeral)
        (P.diffieHellman responderEphemeral (P.publicKey initiatorEphemeral))
        (P.diffieHellman responderEphemeral b.peerStaticPublic) (b.presharedKey.getD zeroKey) =
      response P hash chainingKey (P.publicKey responderEphemeral)
        (P.diffieHellman initiatorEphemeral (P.publicKey responderEphemeral))
        (P.diffieHellman a.staticPrivate (P.publicKey responderEphemeral)) (a.presharedKey.getD zeroKey) := by
  rw [bKnowsA, samePsk, commutes responderEphemeral initiatorEphemeral, commutes responderEphemeral a.staticPrivate]

end Agreement

end IK

namespace Handshake

variable {P : Primitives}

theorem parse_format_initiation (h : Handshake P) (dst : Bytes) (ephemeralPrivate : Bytes32) (now : Instant)
    (roomy : handshakeInitSz ≤ dst.length) :
    let t := IK.initiation P h.params.peerStaticPublic (P.publicKey ephemeralPrivate)
      (P.diffieHellman ephemeralPrivate h.params.peerStaticPublic) h.params.staticShared
      h.params.staticPublic.toList (h.stamper.stamp now)
    ∃ m, (h.formatHandshakeInitiation dst ephemeralPrivate now).2 = .ok m ∧
      parseIncomingPacket m =
        .ok (.handshakeInit ⟨h.incIndex.2, P.publicKey ephemeralPrivate, t.encryptedStatic, t.encryptedTimestamp⟩) := by
  intro t
  obtain ⟨mac1, mac2, message⟩ := format_initiation_message h dst ephemeralPrivate now roomy
  have staticLen : t.encryptedStatic.length = 48 := by simp [t, IK.length_initiation_static]
  have timestampLen : t.encryptedTimestamp.length = 28 := by
    rw [IK.length_initiation_timestamp, length_stamp]
    rfl
  exact ⟨_, message, IK.parse_initiation_message _ _ _ staticLen timestampLen mac1 mac2⟩

theorem awaiting_after_initiation (h : Handshake P) (dst : Bytes) (ephemeralPrivate : Bytes32) (now : Instant)
    (roomy : handshakeInitSz ≤ dst.length) (later : Handshake P)
    (afterwards : later = (h.formatHandshakeInitiation dst ephemeralPrivate now).1 ∨
      ∃ dst' ephemeralPrivate' now', later =
        ((h.formatHandshakeInitiation dst ephemeralPrivate now).1.formatHandshakeInitiation dst' ephemeralPrivate'
          now').1) :
    let t := IK.initiation P h.params.peerStaticPublic (P.publicKey ephemeralPrivate)
      (P.diffieHellman ephemeralPrivate h.params.peerStaticPublic) h.params.staticShared
      h.params.staticPublic.toList (h.stamper.stamp now)
    later.params = h.params ∧ ∃ isPrevious, awaiting later.state later.previous h.incIndex.2 =
      some (⟨h.incIndex.2, t.hash, t.chainingKey, ephemeralPrivate, now⟩, isPrevious) := by
  intro t
  obtain ⟨params1, -, next1, state1⟩ := format_initiation_sent h dst ephemeralPrivate now roomy
  have current : (h.formatHandshakeInitiation dst ephemeralPrivate now).1.state.sentWith h.incIndex.2 =
      some ⟨h.incIndex.2, t.hash, t.chainingKey, ephemeralPrivate, now⟩ := by
    rw [state1]
    exact sent_with_self _
  rcases afterwards with rfl | ⟨dst', ephemeralPrivate', now', rfl⟩
  · exact ⟨params1, false, awaiting_current current⟩
  · by_cases roomy' : handshakeInitSz ≤ dst'.length
    · -- the second initiation takes the next index, so the first one moves to `previous`
      obtain ⟨params2, previous2, -, state2⟩ :=
        format_initiation_sent (h.formatHandshakeInitiation dst ephemeralPrivate now).1 dst' ephemeralPrivate' now'
          roomy'
      refine ⟨params2.trans params1, true, awaiting_previous ?_ ?_⟩
      · rw [state2]
        apply sent_with_other
        rw [← next1]
        exact inc_index_ne _
      · rw [previous2]
        exact current
    · rw [format_initiation_too_small _ dst' ephemeralPrivate' now' (by omega)]
      exact ⟨params1, false, awaiting_current current⟩

theorem responder_answers (commutes : P.DhCommutes) (opens : P.OpenSeal) (A B : Handshake P)
    (keysA : A.params.KeyPair) (keysB : B.params.KeyPair)
    (aKnowsB : A.params.peerStaticPublic = P.publicKey B.params.staticPrivate)
    (bKnowsA : B.params.peerStaticPublic = P.publicKey A.params.staticPrivate)
    (dst1 : Bytes) (eA : Bytes32) (now1 : Instant) (roomy1 : handshakeInitSz ≤ dst1.length)
    (fresh : (Tai64N.parse (A.stamper.stamp now1)).after B.lastHandshakeTimestamp = true)
    (dst2 : Bytes) (roomy2 : handshakeRespSz ≤ dst2.length) (eB : Bytes32) :
    let t := IK.initiation P A.params.peerStaticPublic (P.publicKey eA)
      (P.diffieHellman eA A.params.peerStaticPublic) A.params.staticShared A.params.staticPublic.toList
      (A.stamper.stamp now1)
    let r := IK.response P t.hash t.chainingKey (P.publicKey eB) (P.diffieHellman eB (P.publicKey eA))
      (P.diffieHellman eB B.params.peerStaticPublic) (B.params.presharedKey.getD zeroKey)
    let init : HandshakeInit := ⟨A.incIndex.2, P.publicKey eA, t.encryptedStatic, t.encryptedTimestamp⟩
    ∃ m1, (A.formatHandshakeInitiation dst1 eA now1).2 = .ok m1 ∧ parseIncomingPacket m1 = .ok (.handshakeInit init) ∧
    ∃ B1 m2, B.receiveHandshakeInitialization init dst2 eB =
        .ok (B1, .ok (m2, Session.new B.incIndex.2 A.incIndex.2 r.initiatorKey r.responderKey)) ∧
      parseIncomingPacket m2 =
        .ok (.handshakeResponse ⟨B.incIndex.2, A.incIndex.2, P.publicKey eB, r.encryptedNothing⟩) := by
  intro t r init
  obtain ⟨m1, message, parsed⟩ := parse_format_initiation A dst1 eA now1 roomy1
  have sameInit := IK.initiation_agrees commutes keysA keysB aKnowsB bKnowsA eA (A.stamper.stamp now1)
  refine ⟨m1, message, parsed, ?_⟩
  -- the responder opens what the initiator sealed, since both computed the same schedule
  obtain ⟨B1, mac1, mac2, received⟩ := receive_initiation_refines opens B init dst2 eB (A.stamper.stamp now1)
    (length_stamp _ _) (by rw [← sameInit]) (by rw [← sameInit]) fresh roomy2
  rw [← sameInit] at received
  exact ⟨B1, _, received, IK.parse_response_message _ _ _ _ (IK.length_response_nothing ..) mac1 mac2⟩

theorem initiator_accepts (commutes : P.DhCommutes) (opens : P.OpenSeal) (A B : Handshake P)
    (bKnowsA : B.params.peerStaticPublic = P.publicKey A.params.staticPrivate)
    (samePsk : A.params.presharedKey = B.params.presharedKey)
    (dst1 : Bytes) (eA : Bytes32) (now1 : Instant) (roomy1 : handshakeInitSz ≤ dst1.length) (A2 : Handshake P)
    (afterwards : A2 = (A.formatHandshakeInitiation dst1 eA now1).1 ∨
      ∃ dst e now, A2 = ((A.formatHandshakeInitiation dst1 eA now1).1.formatHandshakeInitiation dst e now).1)
    (eB : Bytes32) (now2 : Instant) :
    let t := IK.initiation P A.params.peerStaticPublic (P.publicKey eA)
      (P.diffieHellman eA A.params.peerStaticPublic) A.params.staticShared A.params.staticPublic.toList
      (A.stamper.stamp now1)
    let r := IK.response P t.hash t.chainingKey (P.publicKey eB) (P.diffieHellman eB (P.publicKey eA))
      (P.diffieHellman eB B.params.peerStaticPublic) (B.params.presharedKey.getD zeroKey)
    ∃ A3, A2.receiveHandshakeResponse ⟨B.incIndex.2, A.incIndex.2, P.publicKey eB, r.encryptedNothing⟩ now2 =
      .ok (A3, .ok (Session.new A.incIndex.2 B.incIndex.2 r.responderKey r.initiatorKey)) := by
  intro t r
  -- the initiator still holds the state of its initiation, and both computed the same response
  obtain ⟨params2, isPrevious, found⟩ := awaiting_after_initiation A dst1 eA now1 roomy1 A2 afterwards
  have sameResp : r = _ := IK.response_agrees commutes bKnowsA samePsk t.hash t.chainingKey eA eB
  obtain ⟨A3, replied⟩ := receive_response_refines opens A2 ⟨B.incIndex.2, A.incIndex.2, P.publicKey eB,
    r.encryptedNothing⟩ now2 _ isPrevious found (by rw [params2, sameResp])
  refine ⟨A3, ?_⟩
  rw [replied, params2, sameResp]

end Handshake

open Handshake in
theorem handshake_sessions_agree {P : Primitives} (commutes : P.DhCommutes) (opens : P.OpenSeal)
    (A B : Handshake P) (keysA : A.params.KeyPair) (keysB : B.params.KeyPair)
    (aKnowsB : A.params.peerStaticPublic = P.publicKey B.params.staticPrivate)
    (bKnowsA : B.params.peerStaticPublic = P.publicKey A.params.staticPrivate)
    (samePsk : A.params.presharedKey = B.params.presharedKey)
    (dst1 : Bytes) (eA : Bytes32) (now1 : Instant) (roomy1 : handshakeInitSz ≤ dst1.length) (A2 : Handshake P)
    (afterwards : A2 = (A.formatHandshakeInitiation dst1 eA now1).1 ∨
      ∃ dst e now, A2 = ((A.formatHandshakeInitiation dst1 eA now1).1.formatHandshakeInitiation dst e now).1)
    (fresh : (Tai64N.parse (A.stamper.stamp now1)).after B.lastHandshakeTimestamp = true)
    (dst2 : Bytes) (roomy2 : handshakeRespSz ≤ dst2.length) (eB : Bytes32) (now2 : Instant) :
    ∃ m1 init, (A.formatHandshakeInitiation dst1 eA now1).2 = .ok m1 ∧
      parseIncomingPacket m1 = .ok (.handshakeInit init) ∧
    ∃ B1 m2 sB resp, B.receiveHandshakeInitialization init dst2 eB = .ok (B1, .ok (m2, sB)) ∧
      parseIncomingPacket m2 = .ok (.handshakeResponse resp) ∧
    ∃ A3 sA, A2.receiveHandshakeResponse resp now2 = .ok (A3, .ok sA) ∧
      sA.sender = sB.receiver ∧ sA.receiver = sB.sender ∧ sA.sendingIndex = sB.receivingIndex ∧
      sB.sendingIndex = sA.receivingIndex := by
  obtain ⟨m1, message, parsed, B1, m2, received, responded⟩ :=
    responder_answers commutes opens A B keysA keysB aKnowsB bKnowsA dst1 eA now1 roomy1 fresh dst2 roomy2 eB
  obtain ⟨A3, replied⟩ := initiator_accepts commutes opens A B bKnowsA samePsk dst1 eA now1 roomy1 A2 afterwards eB now2
  -- each end's session sends with the key the other receives with, under the other's index
  exact ⟨m1, _, message, parsed, B1, m2, _, _, received, responded, A3, _, replied, rfl, rfl, rfl, rfl⟩

def plainInitiator : Handshake Primitives.plain :=
  Handshake.new Primitives.plain (Vector.replicate 32 1) (Vector.replicate 32 1) (Vector.replicate 32 2) 256 none
    ⟨1000000000, 0⟩

def plainResponder : Handshake Primitives.plain :=
  Handshake.new Primitives.plain (Vector.replicate 32 2) (Vector.replicate 32 2) (Vector.replicate 32 1) 512 none
    ⟨1000000000, 0⟩

theorem plain_handshake_sessions_agree :
    ∃ m1 init, (plainInitiator.formatHandshakeInitiation (List.replicate 148 0) (Vector.replicate 32 3) 0).2 =
        .ok m1 ∧ parseIncomingPacket m1 = .ok (.handshakeInit init) ∧
    ∃ B1 m2 sB resp, plainResponder.receiveHandshakeInitialization init (List.replicate 92 0)
        (Vector.replicate 32 4) = .ok (B1, .ok (m2, sB)) ∧
      parseIncomingPacket m2 = .ok (.handshakeResponse resp) ∧
    ∃ A3 sA, (plainInitiator.formatHandshakeInitiation (List.replicate 148 0) (Vector.replicate 32 3) 0).1.receiveHandshakeResponse
        resp 0 = .ok (A3, .ok sA) ∧
      sA.sender = sB.receiver ∧ sA.receiver = sB.sender ∧ sA.sendingIndex = sB.receivingIndex ∧
      sB.sendingIndex = sA.receivingIndex :=
  handshake_sessions_agree Primitives.plain_dh_commutes Primitives.plain_open_seal plainInitiator plainResponder
    rfl rfl rfl rfl rfl (List.replicate 148 0) (Vector.replicate 32 3) 0 (by simp [handshakeInitSz]) _ (Or.inl rfl)
    rfl (List.replicate 92 0) (by simp [handshakeRespSz]) (Vector.replicate 32 4) 0

/-! `receive_handshake_initialization` stores the timestamp and the `InitReceived` state before
    `format_handshake_response` checks the size of `dst`: an answer that does not fit is an error,
    and the initiation is used up all the same. -/

open Handshake in
theorem too_small_response_consumes_initiation {P : Primitives} (opens : P.OpenSeal) (h : Handshake P)
    (packet : HandshakeInit) (dst : Bytes) (ephemeralPrivate : Bytes32) (timestamp : Bytes)
    (stampLen : timestamp.length = timestampLen)
    (sealedStatic : packet.encryptedStatic = (IK.initiation P h.params.staticPublic packet.unencryptedEphemeral
        (P.diffieHellman h.params.staticPrivate packet.unencryptedEphemeral) h.params.staticShared
        h.params.peerStaticPublic.toList timestamp).encryptedStatic)
    (sealedTimestamp : packet.encryptedTimestamp = (IK.initiation P h.params.staticPublic packet.unencryptedEphemeral
        (P.diffieHellman h.params.staticPrivate packet.unencryptedEphemeral) h.params.staticShared
        h.params.peerStaticPublic.toList timestamp).encryptedTimestamp)
    (fresh : (Tai64N.parse timestamp).after h.lastHandshakeTimestamp = true)
    (small : dst.length < handshakeRespSz) :
    ∃ h' : Handshake P, h.receiveHandshakeInitialization packet dst ephemeralPrivate =
        .ok (h', .error .destinationBufferTooSmall) ∧
      h'.lastHandshakeTimestamp = Tai64N.parse timestamp ∧ h'.lastHandshakeTimestamp ≠ h.lastHandshakeTimestamp ∧
      h'.previous = h.state ∧ h'.isInProgress = true := by
  rw [receive_initiation_accepts opens h packet dst ephemeralPrivate timestamp stampLen sealedStatic sealedTimestamp
    fresh, format_response_too_small _ dst ephemeralPrivate small]
  exact ⟨_, rfl, rfl, Tai64N.ne_of_after fresh, rfl, rfl⟩

-- An initiation to `plainResponder` from the ephemeral key 3, stamped one second into the era.
def plainStamp : Bytes := [0, 0, 0, 0, 0, 0, 0, 1, 0, 0, 0, 0]

def plainInitiation : IK.Initiation :=
  IK.initiation Primitives.plain plainResponder.params.staticPublic (Vector.replicate 32 3)
    (Primitives.plain.diffieHellman plainResponder.params.staticPrivate (Vector.replicate 32 3))
    plainResponder.params.staticShared plainResponder.params.peerStaticPublic.toList plainStamp

theorem plain_too_small_response_consumes_initiation :
    ∃ h' : Handshake Primitives.plain, plainResponder.receiveHandshakeInitialization
        ⟨7, Vector.replicate 32 3, plainInitiation.encryptedStatic, plainInitiation.encryptedTimestamp⟩ []
        (Vector.replicate 32 4) = .ok (h', .error .destinationBufferTooSmall) ∧
      h'.lastHandshakeTimestamp = Tai64N.parse plainStamp ∧
      h'.lastHandshakeTimestamp ≠ plainResponder.lastHandshakeTimestamp ∧
      h'.previous = plainResponder.state ∧ h'.isInProgress = true :=
  too_small_response_consumes_initiation Primitives.plain_open_seal plainResponder _ [] (Vector.replicate 32 4)
    plainStamp rfl rfl rfl (by decide) (by decide)

end Boringtun.Noise
