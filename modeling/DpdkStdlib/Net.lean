import DpdkStdlib.Lib.Bytes
import Mathlib.Data.BitVec

/-!
# Addresses and time (`std::net`, `std::time`)

Instants and durations are numbers of nanoseconds.  An IPv6 address is its 128-bit number.
-/

namespace DpdkStdlib

open DpdkStdlib.Lib

abbrev Instant := Nat

abbrev Duration := Nat

def fromSecs (s : Nat) : Duration := s * 1000000000

def fromMillis (ms : Nat) : Duration := ms * 1000000

/-! ## Addresses -/

abbrev MacAddr := Vector UInt8 6

def MacAddr.ofBytes (l : List UInt8) : Option MacAddr := if h : l.length = 6 then some ⟨l.toArray, h⟩ else none

def sampleMac (host : UInt8) : MacAddr := #v[2, 0, 0, 0, 0, host]

theorem toList_mac (m : MacAddr) : ∃ a b c d e f, m.toList = [a, b, c, d, e, f] := by
  obtain ⟨⟨l⟩, hl⟩ := m
  simp only [List.size_toArray] at hl
  match l, hl with
  | [a, b, c, d, e, f], _ => exact ⟨a, b, c, d, e, f, rfl⟩

structure Ipv4Addr where
  a : UInt8
  b : UInt8
  c : UInt8
  d : UInt8
deriving DecidableEq

def Ipv4Addr.octets (ip : Ipv4Addr) : List UInt8 := [ip.a, ip.b, ip.c, ip.d]

abbrev Ipv6Addr := BitVec 128

instance : LawfulBEq Ipv6Addr := inferInstance

def Ipv6Addr.octets (ip : Ipv6Addr) : List UInt8 := beBytes 16 ip.toNat

def Ipv6Addr.ofOctets (l : List UInt8) : Ipv6Addr := BitVec.ofNat 128 (ofBe l)

theorem Ipv6Addr.ofOctets_octets (ip : Ipv6Addr) : ofOctets (octets ip) = ip := by
  rw [octets, ofOctets, ofBe_beBytes, Nat.mod_eq_of_lt (by exact ip.isLt), BitVec.ofNat_toNat, BitVec.setWidth_eq]

theorem Ipv6Addr.octets_ofOctets {l : List UInt8} (h : l.length = 16) : octets (ofOctets l) = l := by
  have hlt := ofBe_lt l
  rw [h] at hlt
  rw [octets, ofOctets, BitVec.toNat_ofNat, Nat.mod_eq_of_lt (by omega), ← h, beBytes_ofBe]

@[simp] theorem Ipv6Addr.length_octets (ip : Ipv6Addr) : (octets ip).length = 16 := length_beBytes 16 _

@[simp] theorem Ipv4Addr.length_octets (ip : Ipv4Addr) : ip.octets.length = 4 := rfl

inductive SocketAddr
  | v4 (ip : Ipv4Addr) (port : UInt16)
  | v6 (ip : BitVec 128) (port : UInt16) (flowinfo scopeId : UInt32)
deriving DecidableEq

namespace SocketAddr

def port : SocketAddr → UInt16
  | v4 _ port => port
  | v6 _ port _ _ => port

def isIpv6 : SocketAddr → Bool
  | v4 _ _ => false
  | v6 _ _ _ _ => true

/-- `0.0.0.0:port`, the listener for every local address. -/
def wildcard (port : UInt16) : SocketAddr := v4 ⟨0, 0, 0, 0⟩ port

end SocketAddr

end DpdkStdlib
