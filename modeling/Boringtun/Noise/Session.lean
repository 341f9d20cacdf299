import Boringtun.Noise.Counter
import Boringtun.Noise.Packet

set_option autoImplicit false

/- `noise/session.rs`: one established session, its two transport keys, the counter of the
   packets it sent and the anti-replay window of those it received. The `ring` keys are kept as
   their 32 key bytes; the atomic counter and the mutex become plain fields, since every
   operation of the model runs alone. -/
namespace Boringtun.Noise

def dataOffset : ℕ := 16
def aeadSize : ℕ := 16

structure Session where
  receivingIndex : UInt32
  sendingIndex : UInt32
  receiver : Bytes32
  sender : Bytes32
  -- An `AtomicUsize`, 64 bits wide on the targets the crate is built for.
  sendingKeyCounter : UInt64
  receivingKeyCounter : ReceivingKeyCounterValidator
deriving DecidableEq, Repr

namespace Session

def new (localIndex peerIndex : UInt32) (receivingKey sendingKey : Bytes32) : Session :=
  { receivingIndex := localIndex
    sendingIndex := peerIndex
    receiver := receivingKey
    sender := sendingKey
    sendingKeyCounter := 0
    receivingKeyCounter := ReceivingKeyCounterValidator.default }

def localIndex (s : Session) : ℕ := s.receivingIndex.toNat

section Transport

variable (P : Primitives)

-- `format_packet_data`: the data message for `src`, and the session with its sending counter
-- consumed. The size assertion is the panic.
def formatPacketData (s : Session) (src dst : Bytes) : Except String (Session × Bytes) :=
  if dst.length < src.length + dataOverheadSz then .error "The destination buffer is too small"
  else
    let sendingKeyCounter := s.sendingKeyCounter
    let sealed := P.sealInPlace s.sender (counterNonce sendingKeyCounter) [] src
    .ok ({ s with sendingKeyCounter := sendingKeyCounter + 1 },
      Endian.u32ToLeBytes data ++ Endian.u32ToLeBytes s.sendingIndex ++ Endian.u64ToLeBytes sendingKeyCounter ++
        sealed.1.1 ++ sealed.2.toList)

-- `receive_packet_data`: the decrypted packet, which `ring` leaves in `dst`. Only the counter
-- validator changes, and only once the packet has been authenticated.
def receivePacketData (s : Session) (packet : PacketData) (dst : Bytes) :
    Except String (Session × Except WireGuardError Bytes) :=
  let ctLen := packet.encryptedEncapsulatedPacket.length
  -- This is a very incorrect use of the library, therefore panic and not error
  if dst.length < ctLen then .error "The destination buffer is too small"
  else if packet.receiverIdx ≠ s.receivingIndex then .ok (s, .error .wrongIndex)
  else
    match s.receivingKeyCounter.receivingCounterQuickCheck packet.counter with
    | .error e => .ok (s, .error e)
    | .ok () =>
        match P.openInPlace s.receiver (counterNonce packet.counter) [] packet.encryptedEncapsulatedPacket with
        | none => .ok (s, .error .invalidAeadTag)
        | some plaintext =>
            let marked := s.receivingKeyCounter.receivingCounterMark packet.counter
            .ok ({ s with receivingKeyCounter := marked.1 }, marked.2.map fun () => plaintext.1)

theorem format_packet_data_eq (s : Session) (src dst : Bytes) (roomy : src.length + dataOverheadSz ≤ dst.length) :
    s.formatPacketData P src dst =
      .ok ({ s with sendingKeyCounter := s.sendingKeyCounter + 1 },
        Endian.u32ToLeBytes data ++ Endian.u32ToLeBytes s.sendingIndex ++ Endian.u64ToLeBytes s.sendingKeyCounter ++
          aeadChacha20Seal P s.sender s.sendingKeyCounter src []) := by
  rw [formatPacketData, if_neg (by omega)]
  simp [aeadChacha20Seal, List.append_assoc]

theorem parse_format_packet_data (s : Session) (src dst : Bytes) (roomy : src.length + dataOverheadSz ≤ dst.length) :
    ∃ message, s.formatPacketData P src dst =
        .ok ({ s with sendingKeyCounter := s.sendingKeyCounter + 1 }, message) ∧
      parseIncomingPacket message =
        .ok (.packetData ⟨s.sendingIndex, s.sendingKeyCounter, aeadChacha20Seal P s.sender s.sendingKeyCounter src []⟩) ∧
      (aeadChacha20Seal P s.sender s.sendingKeyCounter src []).length = src.length + 16 := by
  refine ⟨_, format_packet_data_eq P s src dst roomy, parse_data_layout _ _ _ ?_, length_aead_chacha20_seal ..⟩
  simp

end Transport

-- `current_packet_cnt`: the estimate of downstream loss reads `next` and `receive_cnt`.
def currentPacketCnt (s : Session) : UInt64 × UInt64 :=
  (s.receivingKeyCounter.next, s.receivingKeyCounter.receiveCnt)

end Session

end Boringtun.Noise
