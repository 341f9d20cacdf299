import Boringtun.Device.AllowedIps
import Boringtun.Noise.Tunn
import Boringtun.Serialization
import Boringtun.Lib.Loop

set_option autoImplicit false

/- `device/peer.rs`: a peer of the device, its tunnel, the index the device gave it and the
   networks it may send from. The endpoint keeps its address; its connected socket belongs to
   the socket layer, which is not modelled. `str::parse::<IpAddr>` is an argument. -/
namespace Boringtun.Device

open Noise

structure SocketAddr where
  ip : IpAddr
  port : UInt16
deriving DecidableEq, Repr

structure Endpoint where
  addr : Option SocketAddr
deriving DecidableEq, Repr

structure Peer (P : Primitives) (N : IpNetworks) where
  tunnel : Tunn P
  index : UInt32
  endpoint : Endpoint
  allowedIps : AllowedIps N Unit
  presharedKey : Option Bytes32

def utf8 (s : List Char) : Bytes := (String.ofList s).toByteArray.toList

-- `<address>/<cidr>`, the prefix length at most the width of the address.
def AllowedIP.fromStr (parseIpAddr : List Char → Option IpAddr) (s : List Char) : Except String AllowedIP :=
  match s.splitOn '/' with
  | [addr, cidr] =>
      match parseIpAddr addr, u8FromStrRadix (utf8 cidr) 10 with
      | some addr, some cidr => if cidr.toNat ≤ addr.width then .ok ⟨addr, cidr⟩ else .error "Invalid IP format"
      | _, _ => .error "Invalid IP format"
  | _ => .error "Invalid IP format"

namespace Peer

variable {P : Primitives} {N : IpNetworks}

def new (tunnel : Tunn P) (index : UInt32) (endpoint : Option SocketAddr) (allowedIps : List AllowedIP)
    (presharedKey : Option Bytes32) : Except String (Peer P N) := do
  let allowedIps ← AllowedIps.fromIter allowedIps ()
  return { tunnel, index, endpoint := ⟨endpoint⟩, allowedIps, presharedKey }

def isAllowedIp (p : Peer P N) (addr : IpAddr) : Bool := (p.allowedIps.find addr).isSome

def routes (p : Peer P N) : UInt32 × AllowedIps N Unit × UInt32 := (p.index, p.allowedIps, p.tunnel.handshake.nextIndex)

theorem new_inversion {tunnel : Tunn P} {index : UInt32} {endpoint : Option SocketAddr} {ips : List AllowedIP}
    {presharedKey : Option Bytes32} {p : Peer P N} (created : new tunnel index endpoint ips presharedKey = .ok p) :
    p.tunnel = tunnel ∧ p.index = index := by
  obtain ⟨allowedIps, -, created⟩ := Loop.bind_eq_ok.mp created
  cases created
  exact ⟨rfl, rfl⟩

theorem is_allowed_ip_stored (sound : N.LongestMatchSound) {p : Peer P N} {addr : IpAddr}
    (allowed : p.isAllowedIp addr = true) :
    ∃ network, N.exactMatch p.allowedIps.ips network = some () ∧ N.contains network addr = true := by
  obtain ⟨v, found⟩ := Option.isSome_iff_exists.mp allowed
  obtain ⟨network, stored, holds, -⟩ := AllowedIps.find_longest sound found
  exact ⟨network, stored, holds⟩

end Peer

end Boringtun.Device
