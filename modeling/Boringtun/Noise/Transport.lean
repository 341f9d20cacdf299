import Boringtun.Noise.NoPanic

set_option autoImplicit false

/- The data path between two tunnels: a data message sealed by one session, taken in by the
   tunnel that holds the matching session. -/
namespace Boringtun.Noise

namespace ReceivingKeyCounterValidator

def countersFrom (start : UInt64) : ℕ → List UInt64
  | 0 => []
  | count + 1 => start :: countersFrom (start + 1) count

theorem mark_all_in_order (v : V) (count : ℕ) (fits : v.next.toNat + count + 1023 < 2 ^ 64) :
    (markAll v (countersFrom v.next count)).2 = List.replicate count (.ok ()) ∧
      (markAll v (countersFrom v.next count)).1.next = v.next + UInt64.ofNat count := by
  induction count generalizing v with
  | zero => simp [countersFrom, markAll]
  | succ count ih =>
      have recent : ¬ v.next + nBits < v.next := by
        rw [UInt64.lt_iff_toNat_lt, sum_toNat (by omega)]
        omega
      -- the first counter is `next` itself, taken in order
      obtain ⟨w, marked, wNext⟩ : ∃ w : V, v.receivingCounterMark v.next = (w, .ok ()) ∧ w.next = v.next + 1 :=
        ⟨{ v.setBit v.next with next := v.next + 1, receiveCnt := (v.setBit v.next).receiveCnt + 1 },
          by simp only [receivingCounterMark, mark_in_order recent rfl], rfl⟩
      have wFits : w.next.toNat = v.next.toNat + 1 := by
        rw [wNext]
        exact succ_toNat_of_fits (by omega)
      obtain ⟨verdicts, next⟩ := ih w (by omega)
      simp only [countersFrom, markAll, marked, ← wNext]
      refine ⟨by rw [verdicts]; rfl, ?_⟩
      rw [next, wNext]
      simp only [UInt64.ofNat_add]
      ac_rfl

-- Near the top of `u64` the next counter in order is refused: `counter + N_BITS` wraps below
-- `next`.
theorem mark_in_order_near_wrap (v : V) (late : 2 ^ 64 - 1024 ≤ v.next.toNat) :
    v.markDidReceive v.next = (v, .error .invalidCounter) := by
  apply mark_too_old
  rw [UInt64.lt_iff_toNat_lt, UInt64.toNat_add, nBits_toNat]
  have := v.next.toNat_lt
  omega

end ReceivingKeyCounterValidator

namespace Session

variable (P : Primitives)

theorem receive_sealed_packet (opens : P.OpenSeal) (s : Session) (counter : UInt64) (payload dst : Bytes)
    (roomy : payload.length + 16 ≤ dst.length) (fresh : s.receivingKeyCounter.willAccept counter = .ok ()) :
    s.receivePacketData P ⟨s.receivingIndex, counter, aeadChacha20Seal P s.receiver counter payload []⟩ dst =
      .ok ({ s with receivingKeyCounter := (s.receivingKeyCounter.receivingCounterMark counter).1 },
        (s.receivingKeyCounter.receivingCounterMark counter).2.map fun () => payload) := by
  have opened := opens s.receiver (counterNonce counter) [] payload
  unfold receivePacketData
  rw [if_neg (by simp; omega), if_neg (by simp)]
  simp only [ReceivingKeyCounterValidator.receivingCounterQuickCheck, fresh]
  revert opened
  simp only [aeadChacha20Seal]
  cases P.openInPlace s.receiver (counterNonce counter) [] _ with
  | none => simp
  | some plaintext =>
      simp only [Option.map_some, Option.some.injEq]
      intro opened
      simp [opened]

end Session

namespace Tunn

variable {P : Primitives}

theorem verify_packet_data (rl : RateLimiter) (srcAddr : Option IpAddr) (src dst : Bytes) (now : Instant)
    (p : PacketData) (parsed : parseIncomingPacket src = .ok (.packetData p)) :
    rl.verifyPacket P srcAddr src dst now = (rl, .ok (.packetData p)) := by
  simp only [RateLimiter.verifyPacket, parsed, RateLimiter.handshakeSenderIdx]

theorem decapsulate_data (t : Tunn P) (srcAddr : Option IpAddr) (datagram dst : Bytes) (ephemeralPrivate : Bytes32)
    (now : Instant) (p : PacketData) (parsed : parseIncomingPacket datagram = .ok (.packetData p)) :
    t.decapsulate srcAddr datagram dst ephemeralPrivate now = t.handleData p dst := by
  have nonempty : datagram ≠ [] := by
    rintro rfl
    simp [parseIncomingPacket] at parsed
  rw [decapsulate, if_neg nonempty]
  simp only [verify_packet_data t.rateLimiter srcAddr datagram _ now p parsed]
  rfl

theorem handle_data_refused (t : Tunn P) (p : PacketData) (dst : Bytes) (s s' : Session) (e : WireGuardError)
    (found : t.session p.receiverIdx.toNat = some s) (refused : s.receivePacketData P p dst = .ok (s', .error e)) :
    t.handleData p dst = .ok (t.setSession p.receiverIdx.toNat (some s'), .err e) := by
  simp only [handleData, found, refused, bind, Except.bind, pure, Except.pure]

end Tunn

theorem in_order_counter_near_wrap_rejected {P : Primitives} (opens : P.OpenSeal) :
    (∀ count : ℕ, count ≤ 2 ^ 64 - 1024 →
      (ReceivingKeyCounterValidator.markAll .default (ReceivingKeyCounterValidator.countersFrom 0 count)).2 =
          List.replicate count (.ok ()) ∧
        (ReceivingKeyCounterValidator.markAll .default
          (ReceivingKeyCounterValidator.countersFrom 0 count)).1.next = UInt64.ofNat count) ∧
    (∀ (A A' s : Session) (B : Tunn P) (src dst dstB message : Bytes) (srcAddr : Option IpAddr)
      (ephemeralPrivate : Bytes32) (now : Instant),
      A.formatPacketData P src dst = .ok (A', message) →
      B.session A.sendingIndex.toNat = some s → s.receivingIndex = A.sendingIndex → s.receiver = A.sender →
      s.receivingKeyCounter.next = A.sendingKeyCounter → 2 ^ 64 - 1024 ≤ A.sendingKeyCounter.toNat →
      message.length ≤ dstB.length →
      ∃ B', B.decapsulate srcAddr message dstB ephemeralPrivate now = .ok (B', .err .invalidCounter)) := by
  refine ⟨fun count small => ?_, ?_⟩
  · -- from a fresh validator, `0, 1, ..., count - 1` are all taken
    have inOrder := ReceivingKeyCounterValidator.mark_all_in_order .default count (by
      simp [ReceivingKeyCounterValidator.default] at small ⊢
      omega)
    simpa [ReceivingKeyCounterValidator.default] using inOrder
  · intro A A' s B src dst dstB message srcAddr ephemeralPrivate now formatted found index keys inOrder late roomyB
    have roomyA : src.length + dataOverheadSz ≤ dst.length := by
      by_contra short
      simp [Session.formatPacketData, show dst.length < src.length + dataOverheadSz by omega] at formatted
    obtain ⟨m, formatted', parsed, sealedLen⟩ := Session.parse_format_packet_data P A src dst roomyA
    rw [formatted] at formatted'
    cases formatted'
    -- B opens A's message, and only then finds its counter too old
    have fresh : s.receivingKeyCounter.willAccept A.sendingKeyCounter = .ok () := by
      simp [ReceivingKeyCounterValidator.willAccept, inOrder]
    have received := Session.receive_sealed_packet P opens s A.sendingKeyCounter src dstB
      (by simp [Session.formatPacketData, show ¬ dst.length < src.length + dataOverheadSz by omega] at formatted
          have := (parse_well_sized parsed).2
          simp at this
          omega) fresh
    have refused := ReceivingKeyCounterValidator.mark_in_order_near_wrap s.receivingKeyCounter (by rw [inOrder]; exact late)
    rw [inOrder] at refused
    simp only [ReceivingKeyCounterValidator.receivingCounterMark, refused, index, keys, Except.map] at received
    exact ⟨_, (Tunn.decapsulate_data B srcAddr _ dstB ephemeralPrivate now _ parsed).trans
      (Tunn.handle_data_refused B _ dstB s _ _ found received)⟩

def nearWrapSender : Session :=
  { receivingIndex := 1, sendingIndex := 256, receiver := Vector.replicate 32 0, sender := Vector.replicate 32 5
    sendingKeyCounter := 0xFFFFFFFFFFFFFC00, receivingKeyCounter := .default }

def nearWrapReceiver : Session :=
  { receivingIndex := 256, sendingIndex := 1, receiver := Vector.replicate 32 5, sender := Vector.replicate 32 0
    sendingKeyCounter := 0, receivingKeyCounter := { ReceivingKeyCounterValidator.default with next := 0xFFFFFFFFFFFFFC00 } }

theorem plain_in_order_counter_near_wrap_rejected :
    ∃ A' message B', nearWrapSender.formatPacketData Primitives.plain [] (List.replicate 32 0) = .ok (A', message) ∧
      (Tunn.plainTunn.setSession 256 (some nearWrapReceiver)).decapsulate none message (List.replicate 32 0)
        (Vector.replicate 32 0) 0 = .ok (B', .err .invalidCounter) := by
  have formatted := Session.format_packet_data_eq Primitives.plain nearWrapSender [] (List.replicate 32 0)
    (by simp [dataOverheadSz])
  have messageLen : (Endian.u32ToLeBytes data ++ Endian.u32ToLeBytes nearWrapSender.sendingIndex ++
      Endian.u64ToLeBytes nearWrapSender.sendingKeyCounter ++
      aeadChacha20Seal Primitives.plain nearWrapSender.sender nearWrapSender.sendingKeyCounter [] []).length ≤
      (List.replicate 32 0 : Bytes).length := by
    simp
  obtain ⟨B', rejected⟩ := (in_order_counter_near_wrap_rejected Primitives.plain_open_seal).2 nearWrapSender _
    nearWrapReceiver (Tunn.plainTunn.setSession 256 (some nearWrapReceiver)) [] (List.replicate 32 0)
    (List.replicate 32 0) _ none (Vector.replicate 32 0) 0 formatted (Tunn.session_set_session _ _ _) rfl rfl rfl
    (by decide) messageLen
  exact ⟨_, _, B', formatted, rejected⟩

end Boringtun.Noise
