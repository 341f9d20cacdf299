import Boringtun.Lib.Loop
import Boringtun.Noise.Queue
import Boringtun.Noise.Retransmit

set_option autoImplicit false

/- The queue flush of the UDP handlers in `device/mod.rs`: once a message has been answered,
   `decapsulate(None, &[], dst)` is called again and again, each `WriteToNetwork` packet sent,
   until a call gives anything else. A turn that goes on either seals the oldest queued packet
   with the current session, or, with no session and no handshake under way, starts one; so the
   loop stops within two turns more than the queue is long. -/
namespace Boringtun.Device

open Noise

variable {P : Primitives}

-- One turn: `match p.tunnel.decapsulate(None, &[], dst) { WriteToNetwork(packet) => Some(packet), _ => None }`.
def flushStep (dst : Bytes) (ephemeralPrivate : Bytes32) (now : Instant) (t : Tunn P) :
    Except String (Tunn P × Option Bytes) :=
  match t.decapsulate none [] dst ephemeralPrivate now with
  | .error msg => .error msg
  | .ok (t, .writeToNetwork packet) => .ok (t, some packet)
  | .ok (t, _) => .ok (t, none)

-- The `while let` loop, run for the turns `flush_ends` shows it never needs more of.
def flushQueue (t : Tunn P) (dst : Bytes) (ephemeralPrivate : Bytes32) (now : Instant) :
    Except String (Option (Tunn P × List Bytes)) :=
  Loop.drain (flushStep dst ephemeralPrivate now) (t.packetQueue.length + 2) t

-- What is left to do: the queued packets, and a handshake to start when there is neither a
-- session nor a handshake under way.
def flushWork (t : Tunn P) : ℕ :=
  t.packetQueue.length + if (t.session t.current).isNone && !t.handshake.isInProgress then 1 else 0

theorem dequeue_packet_some {t : Tunn P} {packet : Bytes} (dequeued : t.dequeuePacket.2 = some packet) :
    ∃ rest, t.packetQueue = packet :: rest ∧ t.dequeuePacket.1 = { t with packetQueue := rest } := by
  unfold Tunn.dequeuePacket at dequeued ⊢
  split at dequeued
  · cases dequeued
  · rename_i first rest queued
    cases dequeued
    exact ⟨rest, queued, rfl⟩

theorem length_queue_packet_le (t : Tunn P) (packet : Bytes) :
    (t.queuePacket packet).packetQueue.length ≤ t.packetQueue.length + 1 := by
  unfold Tunn.queuePacket
  split <;> simp

theorem flush_step_cases {dst : Bytes} {ephemeralPrivate : Bytes32} {now : Instant} {t t' : Tunn P} {packet : Bytes}
    (stepped : flushStep dst ephemeralPrivate now t = .ok (t', some packet)) :
    ∃ first rest, t.packetQueue = first :: rest ∧
      ((∃ s s', t.session t.current = some s ∧ s.formatPacketData P first dst = .ok (s', packet) ∧
          t'.packetQueue = rest ∧ t'.session t'.current = some s') ∨
        (t.session t.current = none ∧ t.handshake.isInProgress = false ∧
          t'.packetQueue = (({ t with packetQueue := rest } : Tunn P).queuePacket first).packetQueue ∧
          t'.handshake.isInProgress = true)) := by
  unfold flushStep at stepped
  split at stepped
  · cases stepped
  · rename_i t1 sent decapsulated
    cases stepped
    rcases Tunn.decapsulate_cases decapsulated with ⟨-, flushed⟩ | ⟨nonempty, -⟩
    · rcases Tunn.send_queued_packet_cases flushed with ⟨-, -, absurd⟩ |
        ⟨first, t2, r2, dequeued, encapsulated, ⟨rfl, rfl, -⟩ | ⟨-, absurd, -⟩⟩
      · cases absurd
      · obtain ⟨rest, queued, shortened⟩ := dequeue_packet_some dequeued
        rw [shortened] at encapsulated
        refine ⟨first, rest, queued, ?_⟩
        rcases Tunn.encapsulate_cases encapsulated with ⟨s, s', sent', current, formatted, written, rfl⟩ |
          ⟨vacant, rfl, written⟩
        · cases written
          refine .inl ⟨s, s', current, formatted, ?_, ?_⟩
          · dsimp only
            split <;> rfl
          · dsimp only
            split <;> exact Tunn.session_set_session _ _ _
        · have handshake : (({ t with packetQueue := rest } : Tunn P).queuePacket first).handshake = t.handshake := by
            unfold Tunn.queuePacket
            split <;> rfl
          -- a handshake under way would have kept the packet queued with nothing sent
          have idle : t.handshake.isInProgress = false := by
            cases inProgress : t.handshake.isInProgress with
            | false => rfl
            | true =>
                have busy : (({ t with packetQueue := rest } : Tunn P).queuePacket first).handshake.isInProgress =
                    true := by
                  rw [handshake, inProgress]
                rw [Tunn.format_handshake_initiation_in_progress _ _ _ _ busy] at written
                cases written
          refine .inr ⟨vacant, idle, Tunn.packet_queue_format_handshake_initiation _ _ _ _ _, ?_⟩
          have formatted : ((({ t with packetQueue := rest } : Tunn P).queuePacket first).formatHandshakeInitiation
              dst false ephemeralPrivate now) =
              (((({ t with packetQueue := rest } : Tunn P).queuePacket first).formatHandshakeInitiation
                dst false ephemeralPrivate now).1, .writeToNetwork packet) := by
            rw [written]
          exact Handshake.in_progress_of_timer (Tunn.format_handshake_initiation_sent formatted)
      · cases absurd
    · exact absurd rfl nonempty
  · rename_i t1 r notWritten decapsulated
    cases stepped

theorem flush_step_lowers {dst : Bytes} {ephemeralPrivate : Bytes32} {now : Instant} {t t' : Tunn P} {packet : Bytes}
    (stepped : flushStep dst ephemeralPrivate now t = .ok (t', some packet)) : flushWork t' < flushWork t := by
  obtain ⟨first, rest, queued, ⟨s, s', -, -, shortened, current'⟩ | ⟨vacant, idle, requeued, started⟩⟩ :=
    flush_step_cases stepped
  · unfold flushWork
    rw [queued, shortened, current']
    simp only [Option.isNone_some, Bool.false_and, Bool.false_eq_true, if_false, List.length_cons]
    omega
  · have longer := length_queue_packet_le ({ t with packetQueue := rest } : Tunn P) first
    simp only [flushWork, queued, requeued, started, vacant, idle] at longer ⊢
    simp only [Option.isNone_none, Bool.not_false, Bool.and_self, if_true, Bool.not_true, Bool.and_false,
      Bool.false_eq_true, if_false, List.length_cons] at longer ⊢
    omega

theorem flush_ends (t : Tunn P) (dst : Bytes) (ephemeralPrivate : Bytes32) (now : Instant) {fuel : ℕ}
    (enough : t.packetQueue.length + 2 ≤ fuel) : Loop.drain (flushStep dst ephemeralPrivate now) fuel t ≠ .ok none := by
  have bounded : flushWork t < fuel := by
    unfold flushWork
    split <;> omega
  exact Loop.drain_of_measure flushWork (fun _ _ _ stepped => flush_step_lowers stepped) bounded

def plainWaiting : Tunn Primitives.plain :=
  { Tunn.new Primitives.plain (Vector.replicate 32 1) (Vector.replicate 32 2) none none 1 none ⟨0, 0⟩ 0
      (Vector.replicate 32 0) (Vector.replicate 16 0) with
    packetQueue := [[1], [2]] }

theorem plain_flush_ends :
    plainWaiting.packetQueue.length + 2 ≤ 4 ∧
      Loop.drain (flushStep (List.replicate 64 0) (Vector.replicate 32 3) 0) 4 plainWaiting ≠ .ok none :=
  ⟨by decide, flush_ends plainWaiting _ _ _ (by decide)⟩

def sealedMessage (P : Primitives) (s : Session) (packet : Bytes) : Bytes :=
  Endian.u32ToLeBytes data ++ Endian.u32ToLeBytes s.sendingIndex ++ Endian.u64ToLeBytes s.sendingKeyCounter ++
    aeadChacha20Seal P s.sender s.sendingKeyCounter packet []

def sealAll (P : Primitives) : Session → List Bytes → List Bytes
  | _, [] => []
  | s, packet :: rest => sealedMessage P s packet :: sealAll P { s with sendingKeyCounter := s.sendingKeyCounter + 1 } rest

theorem flush_step_empty (dst : Bytes) (ephemeralPrivate : Bytes32) (now : Instant) {t : Tunn P}
    (empty : t.packetQueue = []) : flushStep dst ephemeralPrivate now t = .ok (t, none) := by
  simp [flushStep, Tunn.decapsulate, Tunn.sendQueuedPacket, Tunn.dequeuePacket, empty, pure, Except.pure]

theorem flush_step_seal (dst : Bytes) (ephemeralPrivate : Bytes32) (now : Instant) {t : Tunn P} {s : Session}
    {packet : Bytes} {rest : List Bytes} (current : t.session t.current = some s) (queued : t.packetQueue = packet :: rest)
    (roomy : packet.length + dataOverheadSz ≤ dst.length) :
    ∃ t', flushStep dst ephemeralPrivate now t = .ok (t', some (sealedMessage P s packet)) ∧ t'.packetQueue = rest ∧
      t'.session t'.current = some { s with sendingKeyCounter := s.sendingKeyCounter + 1 } := by
  have formatted := Session.format_packet_data_eq P s packet dst roomy
  obtain ⟨t', encapsulated⟩ :=
    Tunn.encapsulate_with_session ({ t with packetQueue := rest } : Tunn P) packet dst ephemeralPrivate now s _ _
      current formatted
  have stepped : flushStep dst ephemeralPrivate now t = .ok (t', some (sealedMessage P s packet)) := by
    have sent := Tunn.send_queued_packet_of_encapsulate queued encapsulated (fun _ absurd => by cases absurd)
    simp only [flushStep, Tunn.decapsulate, if_pos, sent]
    rfl
  -- what the turn leaves is read off the case lemma, the session being the one just formatted
  obtain ⟨first, rest', queued', ⟨s0, s', current', formatted', shortened, current''⟩ | ⟨vacant, -⟩⟩ :=
    flush_step_cases stepped
  · rw [queued] at queued'
    obtain ⟨rfl, rfl⟩ := List.cons.inj queued'
    rw [current] at current'
    cases current'
    rw [formatted] at formatted'
    cases formatted'
    exact ⟨t', stepped, shortened, current''⟩
  · rw [current] at vacant
    cases vacant

theorem advance_counter (c : UInt64) (n : ℕ) : c + 1 + UInt64.ofNat n = c + UInt64.ofNat (n + 1) := by
  rw [UInt64.ofNat_add, add_assoc, add_comm 1]
  rfl

-- The run, by induction on the queue: every turn seals the oldest packet with the next counter,
-- and the turn after the last one finds the queue empty.
theorem drain_flush_seals (dst : Bytes) (ephemeralPrivate : Bytes32) (now : Instant) (queue : List Bytes) :
    ∀ {t : Tunn P} {s : Session} {fuel : ℕ}, t.packetQueue = queue → t.session t.current = some s →
      (∀ packet ∈ queue, packet.length + dataOverheadSz ≤ dst.length) → queue.length < fuel →
      ∃ t', Loop.drain (flushStep dst ephemeralPrivate now) fuel t = .ok (some (t', sealAll P s queue)) ∧
        t'.packetQueue = [] ∧
        t'.session t'.current = some { s with sendingKeyCounter := s.sendingKeyCounter + UInt64.ofNat queue.length } := by
  induction queue with
  | nil =>
      intro t s fuel empty current _ bounded
      obtain ⟨fuel, rfl⟩ := Nat.exists_eq_add_one_of_ne_zero (Nat.pos_iff_ne_zero.mp bounded)
      refine ⟨t, Loop.drain_stop (flush_step_empty dst ephemeralPrivate now empty), empty, ?_⟩
      simpa using current
  | cons packet rest ih =>
      intro t s fuel queued current roomy bounded
      obtain ⟨fuel, rfl⟩ := Nat.exists_eq_add_one_of_ne_zero (Nat.pos_iff_ne_zero.mp (Nat.zero_lt_of_lt bounded))
      obtain ⟨t1, stepped, shortened, current1⟩ :=
        flush_step_seal dst ephemeralPrivate now current queued (roomy packet List.mem_cons_self)
      have shorter : rest.length < fuel := by
        rw [List.length_cons] at bounded
        omega
      obtain ⟨t', drained, emptied, current'⟩ :=
        ih shortened current1 (fun p mem => roomy p (List.mem_cons_of_mem _ mem)) shorter
      refine ⟨t', ?_, emptied, ?_⟩
      · rw [Loop.drain_continue stepped, drained]
        rfl
      · rw [current', List.length_cons, ← advance_counter]

theorem flush_seals_queue (t : Tunn P) (s : Session) (dst : Bytes) (ephemeralPrivate : Bytes32) (now : Instant)
    (current : t.session t.current = some s)
    (roomy : ∀ packet ∈ t.packetQueue, packet.length + dataOverheadSz ≤ dst.length) :
    ∃ t', flushQueue t dst ephemeralPrivate now = .ok (some (t', sealAll P s t.packetQueue)) ∧ t'.packetQueue = [] ∧
      t'.session t'.current =
        some { s with sendingKeyCounter := s.sendingKeyCounter + UInt64.ofNat t.packetQueue.length } :=
  drain_flush_seals dst ephemeralPrivate now t.packetQueue rfl current roomy (by omega)

def plainSealing : Tunn Primitives.plain :=
  { Tunn.new Primitives.plain (Vector.replicate 32 1) (Vector.replicate 32 2) none none 1 none ⟨0, 0⟩ 0
      (Vector.replicate 32 0) (Vector.replicate 16 0) with
    sessions := Vector.replicate nSessions (some (Session.new 1 2 (Vector.replicate 32 5) (Vector.replicate 32 6)))
    packetQueue := [[1], [2]] }

theorem plain_flush_seals_queue :
    let s := Session.new 1 2 (Vector.replicate 32 5) (Vector.replicate 32 6)
    plainSealing.session plainSealing.current = some s ∧
      (∀ packet ∈ plainSealing.packetQueue, packet.length + dataOverheadSz ≤ (List.replicate 64 0).length) ∧
      ∃ t', flushQueue plainSealing (List.replicate 64 0) (Vector.replicate 32 3) 0 =
          .ok (some (t', sealAll Primitives.plain s plainSealing.packetQueue)) ∧ t'.packetQueue = [] ∧
        t'.session t'.current =
          some { s with sendingKeyCounter := s.sendingKeyCounter + UInt64.ofNat plainSealing.packetQueue.length } := by
  intro s
  have current : plainSealing.session plainSealing.current = some s := by
    simp [plainSealing, s, Tunn.session]
  have roomy : ∀ packet ∈ plainSealing.packetQueue, packet.length + dataOverheadSz ≤ (List.replicate 64 0).length := by
    simp [plainSealing, dataOverheadSz]
  exact ⟨current, roomy, flush_seals_queue plainSealing s _ _ _ current roomy⟩

end Boringtun.Device
