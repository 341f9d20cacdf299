import Boringtun.Noise.Crypto

set_option autoImplicit false
set_option linter.unusedSimpArgs false

/- The wire format of `noise/mod.rs`: the four message types, `Tunn::parse_incoming_packet`,
   `Tunn::dst_address`, and the results a tunnel hands back to its caller. Borrowed slices of
   the datagram become byte lists cut out of it. -/
namespace Boringtun.Noise

abbrev MessageType := UInt32

def handshakeInit : MessageType := 1
def handshakeResp : MessageType := 2
def cookieReply : MessageType := 3
def data : MessageType := 4

def handshakeInitSz : ℕ := 148
def handshakeRespSz : ℕ := 92
def cookieReplySz : ℕ := 64
def dataOverheadSz : ℕ := 32

def ipv4MinHeaderSize : ℕ := 20
def ipv4LenOff : ℕ := 2
def ipv4SrcIpOff : ℕ := 12
def ipv4DstIpOff : ℕ := 16
def ipv4IpSz : ℕ := 4

def ipv6MinHeaderSize : ℕ := 40
def ipv6LenOff : ℕ := 4
def ipv6SrcIpOff : ℕ := 8
def ipv6DstIpOff : ℕ := 24
def ipv6IpSz : ℕ := 16

def ipLenSz : ℕ := 2

abbrev Ipv4Addr := Vector UInt8 4
abbrev Ipv6Addr := Vector UInt8 16

inductive IpAddr where
  | v4 (addr : Ipv4Addr)
  | v6 (addr : Ipv6Addr)
deriving DecidableEq, Repr

structure HandshakeInit where
  senderIdx : UInt32
  unencryptedEphemeral : Bytes32
  encryptedStatic : Bytes
  encryptedTimestamp : Bytes
deriving DecidableEq, Repr

structure HandshakeResponse where
  senderIdx : UInt32
  receiverIdx : UInt32
  unencryptedEphemeral : Bytes32
  encryptedNothing : Bytes
deriving DecidableEq, Repr

structure PacketCookieReply where
  receiverIdx : UInt32
  nonce : Bytes
  encryptedCookie : Bytes
deriving DecidableEq, Repr

structure PacketData where
  receiverIdx : UInt32
  counter : UInt64
  encryptedEncapsulatedPacket : Bytes
deriving DecidableEq, Repr

inductive Packet where
  | handshakeInit (p : HandshakeInit)
  | handshakeResponse (p : HandshakeResponse)
  | packetCookieReply (p : PacketCookieReply)
  | packetData (p : PacketData)
deriving DecidableEq, Repr

inductive TunnResult where
  | done
  | err (e : WireGuardError)
  | writeToNetwork (packet : Bytes)
  | writeToTunnelV4 (packet : Bytes) (addr : Ipv4Addr)
  | writeToTunnelV6 (packet : Bytes) (addr : Ipv6Addr)
deriving DecidableEq, Repr

-- `<[u8; n]>::try_from(&src[start..start + n]).unwrap()` at a range already known to fit.
def arrayAt (src : Bytes) (start n : ℕ) (fits : start + n ≤ src.length) : Vector UInt8 n :=
  ⟨(src.extract start (start + n)).toArray, by simp; omega⟩

@[simp] theorem array_at_to_list (src : Bytes) (start n : ℕ) (fits : start + n ≤ src.length) :
    (arrayAt src start n fits).toList = src.extract start (start + n) := by
  simp [arrayAt, Vector.toList]

theorem array_at_eq (src : Bytes) (start n : ℕ) (fits : start + n ≤ src.length) (v : Vector UInt8 n)
    (slice : src.extract start (start + n) = v.toList) : arrayAt src start n fits = v :=
  Vector.toList_inj.mp (by simp [slice])

def parseIncomingPacket (src : Bytes) : Except WireGuardError Packet :=
  if src.length < 4 then .error .invalidPacket
  else
    -- Checks the type, as well as the reserved zero fields
    let packetType := Endian.u32FromLeBytes (src.extract 0 4)
    if init : packetType = handshakeInit ∧ src.length = handshakeInitSz then
      .ok (.handshakeInit
        { senderIdx := Endian.u32FromLeBytes (src.extract 4 8)
          unencryptedEphemeral := arrayAt src 8 32 (by simp [init.2, handshakeInitSz])
          encryptedStatic := src.extract 40 88
          encryptedTimestamp := src.extract 88 116 })
    else if resp : packetType = handshakeResp ∧ src.length = handshakeRespSz then
      .ok (.handshakeResponse
        { senderIdx := Endian.u32FromLeBytes (src.extract 4 8)
          receiverIdx := Endian.u32FromLeBytes (src.extract 8 12)
          unencryptedEphemeral := arrayAt src 12 32 (by simp [resp.2, handshakeRespSz])
          encryptedNothing := src.extract 44 60 })
    else if packetType = cookieReply ∧ src.length = cookieReplySz then
      .ok (.packetCookieReply
        { receiverIdx := Endian.u32FromLeBytes (src.extract 4 8)
          nonce := src.extract 8 32
          encryptedCookie := src.extract 32 64 })
    else if packetType = data ∧ dataOverheadSz ≤ src.length then
      .ok (.packetData
        { receiverIdx := Endian.u32FromLeBytes (src.extract 4 8)
          counter := Endian.u64FromLeBytes (src.extract 8 16)
          encryptedEncapsulatedPacket := src.drop 16 })
    else .error .invalidPacket

def dstAddress (packet : Bytes) : Option IpAddr :=
  match packet with
  | [] => none
  | first :: _ =>
      if v4 : first >>> 4 = 4 ∧ ipv4MinHeaderSize ≤ packet.length then
        some (.v4 (arrayAt packet ipv4DstIpOff ipv4IpSz (by simp [ipv4DstIpOff, ipv4IpSz, ipv4MinHeaderSize] at v4 ⊢; omega)))
      else if v6 : first >>> 4 = 6 ∧ ipv6MinHeaderSize ≤ packet.length then
        some (.v6 (arrayAt packet ipv6DstIpOff ipv6IpSz (by simp [ipv6DstIpOff, ipv6IpSz, ipv6MinHeaderSize] at v6 ⊢; omega)))
      else none

/-! What the parser accepts, and the sizes of the slices it hands to the handlers. -/

theorem parse_ok_iff (src : Bytes) :
    (∃ p, parseIncomingPacket src = .ok p) ↔
      src.take 4 = Endian.u32ToLeBytes handshakeInit ∧ src.length = handshakeInitSz ∨
      src.take 4 = Endian.u32ToLeBytes handshakeResp ∧ src.length = handshakeRespSz ∨
      src.take 4 = Endian.u32ToLeBytes cookieReply ∧ src.length = cookieReplySz ∨
      src.take 4 = Endian.u32ToLeBytes data ∧ dataOverheadSz ≤ src.length := by
  by_cases short : src.length < 4
  · have tooShort : ¬ src.length = handshakeInitSz ∧ ¬ src.length = handshakeRespSz ∧
        ¬ src.length = cookieReplySz ∧ ¬ dataOverheadSz ≤ src.length := by
      simp only [handshakeInitSz, handshakeRespSz, cookieReplySz, dataOverheadSz]; omega
    simp [parseIncomingPacket, short, tooShort]
  · have firstFour : src.extract 0 4 = src.take 4 := by simp
    -- the type field is the whole little-endian word, reserved zero bytes included
    have typeIs : ∀ t, src.take 4 = Endian.u32ToLeBytes t ↔ Endian.u32FromLeBytes (src.take 4) = t := by
      intro t
      rw [Endian.u32_from_le_eq_iff _ _ (by simp; omega)]
    simp only [typeIs]
    clear typeIs
    unfold parseIncomingPacket
    rw [if_neg short]
    simp only [firstFour]
    split_ifs <;>
      simp_all [handshakeInit, handshakeResp, cookieReply, data, handshakeInitSz, handshakeRespSz,
        cookieReplySz, dataOverheadSz]

def Packet.WellSized (srcLen : ℕ) : Packet → Prop
  | .handshakeInit p =>
      srcLen = handshakeInitSz ∧ p.encryptedStatic.length = 48 ∧ p.encryptedTimestamp.length = 28
  | .handshakeResponse p => srcLen = handshakeRespSz ∧ p.encryptedNothing.length = 16
  | .packetCookieReply p => srcLen = cookieReplySz ∧ p.nonce.length = 24 ∧ p.encryptedCookie.length = 32
  | .packetData p => dataOverheadSz ≤ srcLen ∧ p.encryptedEncapsulatedPacket.length + 16 = srcLen

theorem parse_well_sized {src : Bytes} {p : Packet} (parsed : parseIncomingPacket src = .ok p) :
    p.WellSized src.length := by
  unfold parseIncomingPacket at parsed
  dsimp only at parsed
  split_ifs at parsed with short init resp cookie dataCase <;> cases parsed
  · simp [Packet.WellSized, init.2, handshakeInitSz]
  · simp [Packet.WellSized, resp.2, handshakeRespSz]
  · simp [Packet.WellSized, cookie.2, cookieReplySz]
  · simp only [Packet.WellSized, List.length_drop, dataOverheadSz] at dataCase ⊢
    omega

/-! Each message layout parses back to the fields laid out in it. -/

theorem parse_handshake_init_layout (senderIdx : UInt32) (ephemeral : Bytes32)
    (encryptedStatic encryptedTimestamp macs : Bytes) (staticLen : encryptedStatic.length = 48)
    (timestampLen : encryptedTimestamp.length = 28) (macsLen : macs.length = 32) :
    parseIncomingPacket (Endian.u32ToLeBytes handshakeInit ++ Endian.u32ToLeBytes senderIdx ++ ephemeral.toList ++
        encryptedStatic ++ encryptedTimestamp ++ macs) =
      .ok (.handshakeInit ⟨senderIdx, ephemeral, encryptedStatic, encryptedTimestamp⟩) := by
  generalize layout : Endian.u32ToLeBytes handshakeInit ++ Endian.u32ToLeBytes senderIdx ++ ephemeral.toList ++
    encryptedStatic ++ encryptedTimestamp ++ macs = src
  have len : src.length = handshakeInitSz := by
    subst layout; simp [staticLen, timestampLen, macsLen, handshakeInitSz]
  have typeField : src.extract 0 4 = Endian.u32ToLeBytes handshakeInit := by
    subst layout; simp [List.extract_eq_take_drop, List.take_append]
  have idxField : src.extract 4 8 = Endian.u32ToLeBytes senderIdx := by
    subst layout; simp [List.extract_eq_take_drop, List.drop_append, List.take_append]
  have ephemeralField : src.extract 8 (8 + 32) = ephemeral.toList := by
    subst layout; simp [List.extract_eq_take_drop, List.drop_append, List.take_append]
  have staticField : src.extract 40 88 = encryptedStatic := by
    subst layout; simp [List.extract_eq_take_drop, List.drop_append, List.drop_eq_nil_of_le, staticLen]
  have timestampField : src.extract 88 116 = encryptedTimestamp := by
    subst layout
    simp [List.extract_eq_take_drop, List.drop_append, List.drop_eq_nil_of_le, staticLen, timestampLen]
  unfold parseIncomingPacket
  rw [if_neg (by simp [len, handshakeInitSz]), dif_pos (by simp [typeField, len])]
  simp [idxField, staticField, timestampField, array_at_eq _ _ _ _ _ ephemeralField]

theorem parse_handshake_response_layout (senderIdx receiverIdx : UInt32) (ephemeral : Bytes32)
    (encryptedNothing macs : Bytes) (nothingLen : encryptedNothing.length = 16) (macsLen : macs.length = 32) :
    parseIncomingPacket (Endian.u32ToLeBytes handshakeResp ++ Endian.u32ToLeBytes senderIdx ++
        Endian.u32ToLeBytes receiverIdx ++ ephemeral.toList ++ encryptedNothing ++ macs) =
      .ok (.handshakeResponse ⟨senderIdx, receiverIdx, ephemeral, encryptedNothing⟩) := by
  generalize layout : Endian.u32ToLeBytes handshakeResp ++ Endian.u32ToLeBytes senderIdx ++
    Endian.u32ToLeBytes receiverIdx ++ ephemeral.toList ++ encryptedNothing ++ macs = src
  have len : src.length = handshakeRespSz := by
    subst layout; simp [nothingLen, macsLen, handshakeRespSz]
  have typeField : src.extract 0 4 = Endian.u32ToLeBytes handshakeResp := by
    subst layout; simp [List.extract_eq_take_drop, List.take_append]
  have senderField : src.extract 4 8 = Endian.u32ToLeBytes senderIdx := by
    subst layout; simp [List.extract_eq_take_drop, List.drop_append, List.take_append]
  have receiverField : src.extract 8 12 = Endian.u32ToLeBytes receiverIdx := by
    subst layout; simp [List.extract_eq_take_drop, List.drop_append, List.take_append, List.drop_eq_nil_of_le]
  have ephemeralField : src.extract 12 (12 + 32) = ephemeral.toList := by
    subst layout; simp [List.extract_eq_take_drop, List.drop_append, List.take_append, List.drop_eq_nil_of_le]
  have nothingField : src.extract 44 60 = encryptedNothing := by
    subst layout; simp [List.extract_eq_take_drop, List.drop_append, List.drop_eq_nil_of_le, nothingLen]
  have notInit : ¬ (Endian.u32FromLeBytes (src.extract 0 4) = handshakeInit ∧ src.length = handshakeInitSz) := by
    simp [len, handshakeRespSz, handshakeInitSz]
  unfold parseIncomingPacket
  rw [if_neg (by simp [len, handshakeRespSz]), dif_neg notInit, dif_pos (by simp [typeField, len])]
  simp [senderField, receiverField, nothingField, array_at_eq _ _ _ _ _ ephemeralField]

theorem parse_cookie_reply_layout (receiverIdx : UInt32) (nonce encryptedCookie : Bytes)
    (nonceLen : nonce.length = 24) (cookieLen : encryptedCookie.length = 32) :
    parseIncomingPacket (Endian.u32ToLeBytes cookieReply ++ Endian.u32ToLeBytes receiverIdx ++ nonce ++
        encryptedCookie) =
      .ok (.packetCookieReply ⟨receiverIdx, nonce, encryptedCookie⟩) := by
  generalize layout : Endian.u32ToLeBytes cookieReply ++ Endian.u32ToLeBytes receiverIdx ++ nonce ++
    encryptedCookie = src
  have len : src.length = cookieReplySz := by
    subst layout; simp [nonceLen, cookieLen, cookieReplySz]
  have typeField : src.extract 0 4 = Endian.u32ToLeBytes cookieReply := by
    subst layout; simp [List.extract_eq_take_drop, List.take_append]
  have receiverField : src.extract 4 8 = Endian.u32ToLeBytes receiverIdx := by
    subst layout; simp [List.extract_eq_take_drop, List.drop_append, List.take_append]
  have nonceField : src.extract 8 32 = nonce := by
    subst layout; simp [List.extract_eq_take_drop, List.drop_append, List.drop_eq_nil_of_le, nonceLen]
  have cookieField : src.extract 32 64 = encryptedCookie := by
    subst layout; simp [List.extract_eq_take_drop, List.drop_append, List.drop_eq_nil_of_le, List.take_of_length_le, nonceLen,
      cookieLen]
  unfold parseIncomingPacket
  rw [if_neg (by simp [len, cookieReplySz])]
  simp [typeField, len, receiverField, nonceField, cookieField, cookieReplySz, handshakeInitSz, handshakeRespSz]

theorem parse_data_layout (receiverIdx : UInt32) (counter : UInt64) (body : Bytes) (long : 16 ≤ body.length) :
    parseIncomingPacket (Endian.u32ToLeBytes data ++ Endian.u32ToLeBytes receiverIdx ++
        Endian.u64ToLeBytes counter ++ body) =
      .ok (.packetData ⟨receiverIdx, counter, body⟩) := by
  generalize layout : Endian.u32ToLeBytes data ++ Endian.u32ToLeBytes receiverIdx ++
    Endian.u64ToLeBytes counter ++ body = src
  have len : src.length = 16 + body.length := by
    subst layout; simp; omega
  have typeField : src.extract 0 4 = Endian.u32ToLeBytes data := by
    subst layout; simp [List.extract_eq_take_drop, List.take_append]
  have receiverField : src.extract 4 8 = Endian.u32ToLeBytes receiverIdx := by
    subst layout; simp [List.extract_eq_take_drop, List.drop_append, List.take_append]
  have counterField : src.extract 8 16 = Endian.u64ToLeBytes counter := by
    subst layout; simp [List.extract_eq_take_drop, List.drop_append, List.take_append]
  have bodyField : src.drop 16 = body := by
    subst layout; simp [List.drop_append, List.drop_eq_nil_of_le]
  unfold parseIncomingPacket
  rw [if_neg (by omega)]
  simp [typeField, len, receiverField, counterField, bodyField, handshakeInit, handshakeResp, cookieReply, data,
    dataOverheadSz]
  omega

end Boringtun.Noise
