import LoadBench.Octets

/-! IPv4 addresses, MAC addresses and ports as words of a fixed width. -/
namespace LoadBench

inductive AddressKind | ipv4 | mac | port
  deriving DecidableEq, Repr

namespace AddressKind

/-- Width in bits. -/
def width : AddressKind → Nat
  | .ipv4 => 32
  | .mac => 48
  | .port => 16

/-- How many addresses of a kind there are. -/
def size (k : AddressKind) : Nat := Nat.pow 2 k.width

def noun : AddressKind → String
  | .ipv4 => "IPv4 address"
  | .mac => "MAC address"
  | .port => "port"

end AddressKind

/-- An address is its number, of the kind's width. -/
structure Address (k : AddressKind) where
  bits : BitVec k.width
  deriving DecidableEq, Repr

abbrev Ipv4 := Address .ipv4
abbrev Mac := Address .mac
abbrev Port := Address .port

namespace Address
variable {k : AddressKind}

/-- The address with a given number; higher bits are cut. -/
def ofNat (n : Nat) : Address k := ⟨BitVec.ofNat k.width n⟩

def toNat (a : Address k) : Nat := a.bits.toNat

/-- The address `i` places further on; the last address is followed by zero. -/
def add (a : Address k) (i : Nat) : Address k := ⟨a.bits + BitVec.ofNat k.width i⟩

def succ (a : Address k) : Address k := a.add 1

/-- Most significant octet first. -/
def octets (a : Address k) : List UInt8 := Octets.ofNat (k.width / 8) a.toNat

def ofOctets (os : List UInt8) : Address k := ofNat (Octets.toNat os)

@[simp] theorem toNat_ofNat (n : Nat) : (ofNat n : Address k).toNat = n % k.size := by
  simp [ofNat, toNat, AddressKind.size]

@[simp] theorem toNat_add (a : Address k) (i : Nat) :
    (a.add i).toNat = (a.toNat + i) % k.size := by
  simp [add, toNat, AddressKind.size]

theorem toNat_lt (a : Address k) : a.toNat < k.size := a.bits.isLt

theorem ext_toNat {a b : Address k} (h : a.toNat = b.toNat) : a = b := by
  cases a; cases b; congr; exact BitVec.eq_of_toNat_eq h

@[simp] theorem add_zero (a : Address k) : a.add 0 = a :=
  ext_toNat (by simp [Nat.mod_eq_of_lt a.toNat_lt])

theorem add_add (a : Address k) (i j : Nat) : (a.add i).add j = a.add (i + j) :=
  ext_toNat (by simp [Nat.add_assoc])

@[simp] theorem ofNat_toNat (a : Address k) : ofNat a.toNat = a :=
  ext_toNat (by simp [Nat.mod_eq_of_lt a.toNat_lt])

theorem size_eq_pow : k.size = Nat.pow 256 (k.width / 8) := by
  cases k <;> rfl

@[simp] theorem ofOctets_octets (a : Address k) : ofOctets a.octets = a := by
  apply ext_toNat
  rw [ofOctets, octets, Octets.toNat_ofNat, toNat_ofNat, ← size_eq_pow]
  simp [Nat.mod_eq_of_lt a.toNat_lt]

end Address
end LoadBench
