import Std.Data.TreeMap

/-! A memory of limited size. -/
namespace Acceptance.Pattern

/-- Numbers remembered under keys. A key has one slot, and what is put there displaces what the slot held
before. -/
structure Slots where
  capacity : Nat
  entries : Std.TreeMap Nat (List Nat × Nat)

namespace Slots

def new (capacity : Nat) : Slots := ⟨capacity, ∅⟩

/-- The hash of Fowler, Noll and Vo, taken number by number. -/
def hash (key : List Nat) : UInt64 :=
  key.foldl (fun h n => (h ^^^ UInt64.ofNat n) * 1099511628211) 14695981039346656037

def slot (s : Slots) (key : List Nat) : Nat := (hash key).toNat % s.capacity

def get? (s : Slots) (key : List Nat) : Option Nat :=
  match s.entries[s.slot key]? with
  | some (k, n) => if k = key then some n else none
  | none => none

def put (s : Slots) (key : List Nat) (n : Nat) : Slots :=
  { s with entries := s.entries.insert (s.slot key) (key, n) }

theorem get?_put (s : Slots) (key : List Nat) (n : Nat) : (s.put key n).get? key = some n := by
  simp [get?, put, slot]

theorem get?_put_of_slot_ne {s : Slots} {key other : List Nat} (h : s.slot key ≠ s.slot other) (n : Nat) :
    (s.put key n).get? other = s.get? other := by
  have h' : s.slot other ≠ s.slot key := h.symm
  simp only [get?, put, slot] at *
  grind

end Slots
end Acceptance.Pattern
