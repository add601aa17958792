import RackManagement.Library.IpAddr
import Mathlib.Data.Fin.VecNotation

/-!
# Special-purpose addresses

The address blocks of `utilities/special_purpose_ip.rs` that targets must not be in.
-/

namespace RackManagement

open Library

/-- Whether private IPv4 and unique-local IPv6 addresses may be used. -/
inductive PrivateUse
  | allowed | disallowed
deriving DecidableEq

structure V4Block where
  network : Ipv4Addr
  bits : Nat
  privateUse : Bool

structure V6Block where
  network : Ipv6Addr
  bits : Nat
  privateUse : Bool

def v4Table : List V4Block :=
  [⟨⟨![0, 0, 0, 0]⟩, 8, false⟩,
   ⟨⟨![10, 0, 0, 0]⟩, 8, true⟩,
   ⟨⟨![100, 64, 0, 0]⟩, 10, false⟩,
   ⟨⟨![127, 0, 0, 0]⟩, 8, false⟩,
   ⟨⟨![169, 254, 0, 0]⟩, 16, false⟩,
   ⟨⟨![172, 16, 0, 0]⟩, 12, true⟩,
   ⟨⟨![192, 0, 0, 0]⟩, 24, false⟩,
   ⟨⟨![192, 0, 2, 0]⟩, 24, false⟩,
   ⟨⟨![192, 31, 196, 0]⟩, 24, false⟩,
   ⟨⟨![192, 52, 193, 0]⟩, 24, false⟩,
   ⟨⟨![192, 88, 99, 0]⟩, 24, false⟩,
   ⟨⟨![192, 168, 0, 0]⟩, 16, true⟩,
   ⟨⟨![192, 175, 48, 0]⟩, 24, false⟩,
   ⟨⟨![198, 18, 0, 0]⟩, 15, false⟩,
   ⟨⟨![198, 51, 100, 0]⟩, 24, false⟩,
   ⟨⟨![203, 0, 113, 0]⟩, 24, false⟩,
   ⟨⟨![224, 0, 0, 0]⟩, 4, false⟩,
   ⟨⟨![240, 0, 0, 0]⟩, 4, false⟩]

/-- IPv4-mapped addresses are unwrapped before they are matched. -/
def v6Table : List V6Block :=
  [⟨⟨![0, 0, 0, 0, 0, 0, 0, 0]⟩, 128, false⟩,
   ⟨⟨![0, 0, 0, 0, 0, 0, 0, 1]⟩, 128, false⟩,
   ⟨⟨![0x64, 0xff9b, 0, 0, 0, 0, 0, 0]⟩, 96, false⟩,
   ⟨⟨![0x64, 0xff9b, 1, 0, 0, 0, 0, 0]⟩, 48, false⟩,
   ⟨⟨![0x0100, 0, 0, 0, 0, 0, 0, 0]⟩, 64, false⟩,
   ⟨⟨![0x2001, 0, 0, 0, 0, 0, 0, 0]⟩, 23, false⟩,
   ⟨⟨![0x2001, 0xdb8, 0, 0, 0, 0, 0, 0]⟩, 32, false⟩,
   ⟨⟨![0x2002, 0, 0, 0, 0, 0, 0, 0]⟩, 16, false⟩,
   ⟨⟨![0x3fff, 0, 0, 0, 0, 0, 0, 0]⟩, 20, false⟩,
   ⟨⟨![0xfc00, 0, 0, 0, 0, 0, 0, 0]⟩, 7, true⟩,
   ⟨⟨![0xfe80, 0, 0, 0, 0, 0, 0, 0]⟩, 10, false⟩,
   ⟨⟨![0xff00, 0, 0, 0, 0, 0, 0, 0]⟩, 8, false⟩]

def v4Blocks (privateUse : PrivateUse) : List V4Block :=
  v4Table.filter (fun block => privateUse == .disallowed || !block.privateUse)

def v6Blocks (privateUse : PrivateUse) : List V6Block :=
  v6Table.filter (fun block => privateUse == .disallowed || !block.privateUse)

def addressValue (width : Nat) (digits : List Nat) : Nat :=
  digits.foldl (fun value digit => value * 2 ^ width + digit) 0

def v4Value (ip : Ipv4Addr) : Nat := addressValue 8 ((List.ofFn ip.octets).map UInt8.toNat)

def v6Value (ip : Ipv6Addr) : Nat := addressValue 16 ((List.ofFn ip.segments).map UInt16.toNat)

def blockMask (width bits : Nat) : Nat :=
  if bits = 0 then 0 else ((2 ^ width - 1) <<< (width - bits)) % 2 ^ width

def ipv4Contains (ip : Ipv4Addr) (block : V4Block) : Bool :=
  v4Value ip &&& blockMask 32 block.bits == v4Value block.network &&& blockMask 32 block.bits

def ipv6Contains (ip : Ipv6Addr) (block : V6Block) : Bool :=
  v6Value ip &&& blockMask 128 block.bits == v6Value block.network &&& blockMask 128 block.bits

def unwrapIpv4Mapped : IpAddr → IpAddr
  | .v6 ip => ((IpAddr.toIpv4Mapped ip).map .v4).getD (.v6 ip)
  | .v4 ip => .v4 ip

def isSpecialPurposeIp (ip : IpAddr) (privateUse : PrivateUse) : Bool :=
  match unwrapIpv4Mapped ip with
  | .v4 ip => (v4Blocks privateUse).any (ipv4Contains ip)
  | .v6 ip => (v6Blocks privateUse).any (ipv6Contains ip)

example : isSpecialPurposeIp (.v4 ⟨![100, 64, 0, 1]⟩) .allowed = true := by decide +kernel

example : isSpecialPurposeIp (.v4 ⟨![10, 0, 0, 1]⟩) .allowed = false := by decide +kernel

example : isSpecialPurposeIp (.v6 ⟨![0, 0, 0, 0, 0, 0xffff, 0x0a00, 1]⟩) .disallowed = true := by
  decide +kernel

end RackManagement
