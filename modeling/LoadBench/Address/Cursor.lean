import LoadBench.Address.Range

/-! A cursor that moves once through a sequence of consecutive addresses. -/
namespace LoadBench

/-- The next address, and how many are left. -/
structure Cursor (k : AddressKind) where
  next : Address k
  remaining : Nat
  deriving DecidableEq

namespace Cursor
variable {k : AddressKind}

/-- A cursor before `count` addresses; there may be none. -/
def start (base : Address k) (count : Nat) : Cursor k := ⟨base, count⟩

def ofRange (r : AddressRange k) : Cursor k := start r.base r.count

/-- The addresses still to come. -/
def toList (c : Cursor k) : List (Address k) := AddressRange.sequence c.next c.remaining

/-- Take one address. -/
def advance (c : Cursor k) : Option (Address k) × Cursor k :=
  if c.remaining = 0 then (none, c)
  else (some c.next, ⟨c.next.succ, c.remaining - 1⟩)

/-- Pass over `n` addresses, or over all that are left. -/
def skip (c : Cursor k) (n : Nat) : Cursor k :=
  let n := min n c.remaining
  ⟨c.next.add n, c.remaining - n⟩

/-- Pass over `n` addresses and take one. -/
def nth (c : Cursor k) (n : Nat) : Option (Address k) × Cursor k := (c.skip n).advance

/-- Bounds on how many addresses are still to come, which are exact. -/
def sizeHint (c : Cursor k) : Nat × Option Nat := (c.remaining, some c.remaining)

def length (c : Cursor k) : Nat := c.sizeHint.1

/-- How many addresses are taken until there is none left. -/
def count (c : Cursor k) : Nat := c.remaining

/-- The last address still to come. -/
def last? (c : Cursor k) : Option (Address k) :=
  if c.remaining = 0 then none else some (c.next.add (c.remaining - 1))

theorem toList_start (base : Address k) (count : Nat) :
    (start base count).toList = AddressRange.sequence base count := rfl

theorem advance_fst (c : Cursor k) : c.advance.1 = c.toList.head? := by
  unfold advance toList AddressRange.sequence
  split
  · simp [*]
  · obtain ⟨n, hn⟩ := Nat.exists_eq_succ_of_ne_zero ‹_›
    simp [hn, List.range_succ_eq_map]

theorem advance_snd (c : Cursor k) : c.advance.2.toList = c.toList.tail := by
  unfold advance toList
  split
  · simp [AddressRange.sequence, *]
  · obtain ⟨n, hn⟩ := Nat.exists_eq_succ_of_ne_zero ‹_›
    simp [AddressRange.sequence, hn, List.range_succ_eq_map, Address.succ, Address.add_add,
      Nat.add_comm 1]

end Cursor
end LoadBench
