import Boringtun.Lib.Table
import Boringtun.Noise.Packet

set_option autoImplicit false

/- `device/allowed_ips.rs`: a table from IP networks to data, over the `ip_network` and
   `ip_network_table` crates. The crates are a parameter: a network type made by
   `IpNetwork::new_truncate`, with its netmask and the addresses it holds, and a table type with
   `insert`, `exact_match`, `longest_match` and `retain`. What the proofs take from
   `longest_match` is one named law. A finite map probed from the longest netmask down is an
   instance on which it holds; the runs on fixed inputs use it. -/
namespace Boringtun.Noise

def familyWidth (isIpv4 : Bool) : ℕ := if isIpv4 then 32 else 128

namespace IpAddr

def isIpv4 : IpAddr → Bool
  | .v4 _ => true
  | .v6 _ => false

def width (addr : IpAddr) : ℕ := familyWidth addr.isIpv4

end IpAddr

end Boringtun.Noise

namespace Boringtun.Device

open Noise

inductive IpNetworkError where
  | netmaskError (netmask : UInt8)
deriving DecidableEq, Repr

def IpNetworkError.debug : IpNetworkError → String
  | .netmaskError netmask => "NetmaskError(" ++ toString netmask.toNat ++ ")"

structure IpNetworks where
  Network : Type
  newTruncate : IpAddr → UInt8 → Except IpNetworkError Network
  netmask : Network → ℕ
  contains : Network → IpAddr → Bool
  Table : Type → Type
  new : {D : Type} → Table D
  insert : {D : Type} → Table D → Network → D → Table D × Option D
  exactMatch : {D : Type} → Table D → Network → Option D
  longestMatch : {D : Type} → Table D → IpAddr → Option (Network × D)
  retain : {D : Type} → Table D → (Network → D → Bool) → Table D

namespace IpNetworks

variable (N : IpNetworks)

-- What `longest_match` returns is stored, holds the address, and no stored network holding the
-- address has a longer netmask.
def LongestMatchSound : Prop :=
  ∀ {D : Type} (t : N.Table D) (addr : IpAddr) (network : N.Network) (v : D),
    N.longestMatch t addr = some (network, v) →
      N.exactMatch t network = some v ∧ N.contains network addr = true ∧
        ∀ network' v', N.exactMatch t network' = some v' → N.contains network' addr = true →
          N.netmask network' ≤ N.netmask network

end IpNetworks

-- `AllowedIP` of `device/peer.rs`: an address and a prefix length, checked only by `from_str`.
structure AllowedIP where
  addr : IpAddr
  cidr : UInt8
deriving DecidableEq, Repr

structure AllowedIps (N : IpNetworks) (D : Type) where
  ips : N.Table D

namespace AllowedIps

variable {N : IpNetworks} {D : Type}

def new : AllowedIps N D := ⟨N.new⟩

def clear (_ : AllowedIps N D) : AllowedIps N D := new

-- These are networks, it doesn't make sense for host bits to be set, so use new_truncate(). The
-- previous value of the network is returned.
def insert (t : AllowedIps N D) (key : IpAddr) (cidr : UInt32) (data : D) : Except String (AllowedIps N D × Option D) :=
  match N.newTruncate key cidr.toUInt8 with
  | .error e => .error ("cidr is valid length: " ++ e.debug)
  | .ok network =>
      let (ips, old) := N.insert t.ips network data
      .ok (⟨ips⟩, old)

-- Insert every allowed IP with the same value: the loop of `update_peer` into `peers_by_ip`, and
-- the `FromIterator` of `Peer::new`, which pairs each allowed IP with `()`.
def insertAll (t : AllowedIps N D) (ips : List AllowedIP) (data : D) : Except String (AllowedIps N D) :=
  ips.foldlM (fun t ip => Prod.fst <$> t.insert ip.addr ip.cidr.toUInt32 data) t

def fromIter (ips : List AllowedIP) (data : D) : Except String (AllowedIps N D) := new.insertAll ips data

def find (t : AllowedIps N D) (key : IpAddr) : Option D := (N.longestMatch t.ips key).map (·.2)

def remove (t : AllowedIps N D) (predicate : D → Bool) : AllowedIps N D := ⟨N.retain t.ips fun _ v => !predicate v⟩

theorem find_eq_some {t : AllowedIps N D} {key : IpAddr} {v : D} :
    t.find key = some v ↔ ∃ network, N.longestMatch t.ips key = some (network, v) := by
  unfold find
  constructor
  · intro found
    obtain ⟨⟨network, v'⟩, matched, rfl⟩ := Option.map_eq_some_iff.mp found
    exact ⟨network, matched⟩
  · rintro ⟨network, matched⟩
    rw [matched]
    rfl

theorem find_longest (sound : N.LongestMatchSound) {t : AllowedIps N D} {key : IpAddr} {v : D}
    (found : t.find key = some v) :
    ∃ network, N.exactMatch t.ips network = some v ∧ N.contains network key = true ∧
      ∀ network' v', N.exactMatch t.ips network' = some v' → N.contains network' key = true →
        N.netmask network' ≤ N.netmask network := by
  obtain ⟨network, matched⟩ := find_eq_some.mp found
  exact ⟨network, sound t.ips key network v matched⟩

end AllowedIps

/-! The finite map over networks kept as their family, netmask and the address bits they fix,
    probed from the longest netmask down. -/

namespace PrefixMap

def bits : IpAddr → ℕ
  | .v4 a => a.toList.foldl (fun acc b => acc * 256 + b.toNat) 0
  | .v6 a => a.toList.foldl (fun acc b => acc * 256 + b.toNat) 0

structure Network where
  isIpv4 : Bool
  networkBits : ℕ
  netmask : ℕ
  netmask_le : netmask ≤ familyWidth isIpv4
deriving DecidableEq, Repr

def truncate (addr : IpAddr) (netmask : ℕ) (fits : netmask ≤ addr.width) : Network :=
  ⟨addr.isIpv4, bits addr / 2 ^ (addr.width - netmask), netmask, fits⟩

def newTruncate (addr : IpAddr) (netmask : UInt8) : Except IpNetworkError Network :=
  if fits : netmask.toNat ≤ addr.width then .ok (truncate addr netmask.toNat fits)
  else .error (.netmaskError netmask)

-- A network holds the addresses of its family whose first `netmask` bits are its own.
def contains (network : Network) (addr : IpAddr) : Bool :=
  if fits : network.netmask ≤ addr.width then truncate addr network.netmask fits = network else false

@[simp] theorem netmask_truncate (addr : IpAddr) (netmask : ℕ) (fits : netmask ≤ addr.width) :
    (truncate addr netmask fits).netmask = netmask := rfl

theorem contains_iff {network : Network} {addr : IpAddr} :
    contains network addr = true ↔ ∃ fits, truncate addr network.netmask fits = network := by
  unfold contains
  split
  · rename_i fits
    simp [fits]
  · rename_i short
    simp only [Bool.false_eq_true, false_iff]
    rintro ⟨fits, -⟩
    exact short fits

def probe {D : Type} (t : AList (fun _ : Network => D)) (key : IpAddr) (netmask : ℕ) : Option (Network × D) :=
  if fits : netmask ≤ key.width then (t.lookup (truncate key netmask fits)).map (truncate key netmask fits, ·)
  else none

theorem probe_eq_some {D : Type} {t : AList (fun _ : Network => D)} {key : IpAddr} {m : ℕ} {network : Network} {v : D}
    (found : probe t key m = some (network, v)) :
    ∃ fits, network = truncate key m fits ∧ t.lookup network = some v := by
  unfold probe at found
  split at found
  · rename_i fits
    obtain ⟨v', stored, same⟩ := Option.map_eq_some_iff.mp found
    cases same
    exact ⟨fits, rfl, stored⟩
  · cases found

theorem probe_of_lookup {D : Type} {t : AList (fun _ : Network => D)} {key : IpAddr} {network : Network} {v : D}
    (fits : network.netmask ≤ key.width) (holds : truncate key network.netmask fits = network)
    (stored : t.lookup network = some v) : probe t key network.netmask = some (network, v) := by
  unfold probe
  rw [dif_pos fits, holds, stored]
  rfl

end PrefixMap

open PrefixMap in
def IpNetworks.prefixMap : IpNetworks where
  Network := PrefixMap.Network
  newTruncate := PrefixMap.newTruncate
  netmask := Network.netmask
  contains := PrefixMap.contains
  Table D := AList (fun _ : PrefixMap.Network => D)
  new := ∅
  insert t network v := (t.insert network v, t.lookup network)
  exactMatch t network := t.lookup network
  longestMatch t key := Table.longestMatch (probe t key) key.width
  retain t p := t.retain p

namespace PrefixMap

theorem longest_match_sound : IpNetworks.prefixMap.LongestMatchSound := by
  intro D t key network v matched
  obtain ⟨m, -, probed, longest⟩ := Table.longest_match_eq_some.mp matched
  obtain ⟨fits, rfl, stored⟩ := probe_eq_some probed
  refine ⟨stored, contains_iff.mpr ⟨fits, rfl⟩, fun network' v' stored' holds' => ?_⟩
  obtain ⟨fits', holds'⟩ := contains_iff.mp holds'
  -- a longer stored network holding the key would have been the match
  by_contra longer
  have probed' := probe_of_lookup fits' holds' stored'
  rw [longest network'.netmask (by simp only [IpNetworks.prefixMap, netmask_truncate] at longer; omega) fits']
    at probed'
  cases probed'

end PrefixMap

end Boringtun.Device
