/- Arith/Bits
   digest: Lists of bits with the highest one first, the numbers they stand for, and their groups
     of equal length. -/
import Mathlib.Data.List.Basic
import Mathlib.Data.Nat.Bitwise

set_option autoImplicit false
set_option relaxedAutoImplicit false

namespace RoqSamples.Arith.Bits

/-- The number that bits stand for. -/
def natOfBits : List Bool → Nat
  | [] => 0
  | b :: bits => b.toNat * 2 ^ bits.length + natOfBits bits

/-- The lowest bits of a number. -/
def bitsOf : Nat → Nat → List Bool
  | 0, _ => []
  | k + 1, n => n.testBit k :: bitsOf k n

/-- The number of zeros that complete the last group of `k` bits. -/
def missing (k length : Nat) : Nat := (k - length % k) % k

/-- The bits in groups of `k`, completed with zeros on the right. -/
def filled (k : Nat) (bits : List Bool) : List Bool :=
  bits ++ List.replicate (missing k bits.length) false

def groups (k : Nat) (bits : List Bool) : List (List Bool) :=
  (List.range ((filled k bits).length / k)).map fun i => ((filled k bits).drop (k * i)).take k

section Numbers

theorem natOfBits_append (xs ys : List Bool) :
    natOfBits (xs ++ ys) = natOfBits xs * 2 ^ ys.length + natOfBits ys := by
  induction xs with
  | nil => simp [natOfBits]
  | cons b xs ih =>
      rw [List.cons_append, natOfBits, natOfBits, ih, List.length_append, Nat.pow_add,
        Nat.add_mul, Nat.mul_assoc, Nat.add_assoc]

theorem natOfBits_lt (bits : List Bool) : natOfBits bits < 2 ^ bits.length := by
  induction bits with
  | nil => exact Nat.one_pos
  | cons b bits ih =>
      rw [natOfBits, List.length_cons, Nat.pow_succ]
      have one : b.toNat ≤ 1 := b.toNat_le
      have high : b.toNat * 2 ^ bits.length ≤ 1 * 2 ^ bits.length := Nat.mul_le_mul_right _ one
      omega

@[simp] theorem natOfBits_replicate (n : Nat) : natOfBits (List.replicate n false) = 0 := by
  induction n with
  | zero => rfl
  | succ n ih => rw [List.replicate_succ, natOfBits, ih, Bool.toNat_false, Nat.zero_mul]

/-- A piece of the bits is a digit of their number. -/
theorem natOfBits_middle (front piece back : List Bool) :
    natOfBits (front ++ piece ++ back) / 2 ^ back.length % 2 ^ piece.length =
      natOfBits piece := by
  rw [natOfBits_append, Nat.mul_comm, Nat.mul_add_div (Nat.two_pow_pos _),
    Nat.div_eq_of_lt (natOfBits_lt back), Nat.add_zero, natOfBits_append, Nat.mul_comm,
    Nat.mul_add_mod, Nat.mod_eq_of_lt (natOfBits_lt piece)]

@[simp] theorem length_bitsOf (k n : Nat) : (bitsOf k n).length = k := by
  induction k with
  | zero => rfl
  | succ k ih => rw [bitsOf, List.length_cons, ih]

theorem natOfBits_bitsOf (k n : Nat) : natOfBits (bitsOf k n) = n % 2 ^ k := by
  induction k with
  | zero => rw [bitsOf, natOfBits, Nat.pow_zero, Nat.mod_one]
  | succ k ih =>
      rw [bitsOf, natOfBits, ih, length_bitsOf, Nat.mod_pow_succ, ← Nat.toNat_testBit,
        Nat.mul_comm, Nat.add_comm]

/-- The bits of a number below a power of two determine it. -/
theorem natOfBits_bitsOf_of_lt {k n : Nat} (small : n < 2 ^ k) : natOfBits (bitsOf k n) = n := by
  rw [natOfBits_bitsOf, Nat.mod_eq_of_lt small]

/-- Higher bits do not matter to the lowest ones. -/
private theorem bitsOf_add {k j : Nat} (inside : k ≤ j) {high low : Nat} (small : low < 2 ^ j) :
    bitsOf k (high * 2 ^ j + low) = bitsOf k low := by
  induction k with
  | zero => rfl
  | succ k ih =>
      rw [bitsOf, bitsOf, ih (by omega), Nat.mul_comm, Nat.testBit_two_pow_mul_add _ small,
        if_pos (by omega)]

theorem bitsOf_natOfBits (bits : List Bool) : bitsOf bits.length (natOfBits bits) = bits := by
  induction bits with
  | nil => rfl
  | cons b bits ih =>
      have small := natOfBits_lt bits
      rw [List.length_cons, natOfBits, bitsOf, bitsOf_add le_rfl small, ih, Nat.mul_comm,
        Nat.testBit_two_pow_mul_add _ small, if_neg (lt_irrefl _), Nat.sub_self]
      cases b <;> rfl

end Numbers

section Groups

theorem length_filled (k : Nat) (bits : List Bool) :
    (filled k bits).length = bits.length + missing k bits.length := by
  rw [filled, List.length_append, List.length_replicate]

private theorem dvd_filled {k : Nat} (pos : 0 < k) (bits : List Bool) :
    k ∣ (filled k bits).length := by
  rw [length_filled, missing, Nat.dvd_iff_mod_eq_zero]
  have small := Nat.mod_lt bits.length pos
  rw [Nat.add_mod, Nat.mod_mod]
  rcases Nat.eq_zero_or_pos (bits.length % k) with whole | rest
  · rw [whole, Nat.sub_zero, Nat.mod_self, Nat.zero_add, Nat.zero_mod]
  · rw [Nat.mod_eq_of_lt (show k - bits.length % k < k by omega), Nat.add_sub_cancel' small.le,
      Nat.mod_self]

theorem length_groups (k : Nat) (bits : List Bool) :
    (groups k bits).length = (filled k bits).length / k := by
  rw [groups, List.length_map, List.length_range]

theorem length_of_mem_groups {k : Nat} {bits group : List Bool} (mem : group ∈ groups k bits) :
    group.length = k := by
  obtain ⟨i, inside, rfl⟩ := List.mem_map.mp mem
  have bound := List.mem_range.mp inside
  have room : k * (i + 1) ≤ (filled k bits).length := by
    have whole := Nat.mul_le_mul_left k bound
    have most := Nat.mul_div_le (filled k bits).length k
    exact whole.trans most
  rw [Nat.mul_succ] at room
  rw [List.length_take, List.length_drop]
  omega

private theorem flatten_pieces (k n : Nat) (bits : List Bool) :
    ((List.range n).map fun i => (bits.drop (k * i)).take k).flatten = bits.take (k * n) := by
  induction n with
  | zero => rfl
  | succ n ih =>
      rw [List.range_succ, List.map_append, List.flatten_append, ih, Nat.mul_succ, List.take_add]
      simp

/-- The groups, one after the other, are the bits and the zeros that complete them. -/
theorem flatten_groups {k : Nat} (pos : 0 < k) (bits : List Bool) :
    (groups k bits).flatten = filled k bits := by
  rw [groups, flatten_pieces, Nat.mul_div_cancel' (dvd_filled pos bits), List.take_length]

/-- A group is a digit of the number of all bits. -/
theorem natOfBits_group {k : Nat} {bits : List Bool} {i : Nat}
    (inside : k * (i + 1) ≤ (filled k bits).length) :
    natOfBits (((filled k bits).drop (k * i)).take k) =
      natOfBits bits * 2 ^ missing k bits.length /
        2 ^ ((filled k bits).length - k * (i + 1)) % 2 ^ k := by
  have value : natOfBits (filled k bits) = natOfBits bits * 2 ^ missing k bits.length := by
    rw [filled, natOfBits_append, natOfBits_replicate, List.length_replicate, Nat.add_zero]
  have split : (filled k bits).take (k * i) ++ ((filled k bits).drop (k * i)).take k ++
      (filled k bits).drop (k * (i + 1)) = filled k bits := by
    rw [Nat.mul_succ, ← List.take_add, List.take_append_drop]
  have middle := natOfBits_middle ((filled k bits).take (k * i))
    (((filled k bits).drop (k * i)).take k) ((filled k bits).drop (k * (i + 1)))
  rw [Nat.mul_succ] at inside
  have length : (((filled k bits).drop (k * i)).take k).length = k := by
    rw [List.length_take, List.length_drop]
    omega
  rw [split, value, List.length_drop, length] at middle
  exact middle.symm

/-- The groups are the digits of the number of all bits, the highest one first. -/
theorem map_natOfBits_groups (k : Nat) (bits : List Bool) :
    (groups k bits).map natOfBits =
      (List.range ((filled k bits).length / k)).map fun i =>
        natOfBits bits * 2 ^ missing k bits.length /
          2 ^ ((filled k bits).length - k * (i + 1)) % 2 ^ k := by
  rw [groups, List.map_map]
  refine List.map_congr_left fun i mem => natOfBits_group ?_
  have bound : k * (i + 1) ≤ k * ((filled k bits).length / k) :=
    Nat.mul_le_mul_left k (List.mem_range.mp mem)
  exact bound.trans (Nat.mul_div_le _ k)

/-- The groups determine the bits and the zeros that complete them. -/
theorem flatMap_bitsOf_groups {k : Nat} (pos : 0 < k) (bits : List Bool) :
    ((groups k bits).map natOfBits).flatMap (bitsOf k) = filled k bits := by
  have same : (groups k bits).map (bitsOf k ∘ natOfBits) = groups k bits := by
    refine (List.map_congr_left fun group mem => ?_).trans (List.map_id _)
    have back := bitsOf_natOfBits group
    rw [length_of_mem_groups mem] at back
    exact back
  rw [List.flatMap_def, List.map_map, same, flatten_groups pos]

/-- Bits that fill their groups are not completed. -/
theorem filled_of_dvd {k : Nat} {bits : List Bool} (whole : k ∣ bits.length) :
    filled k bits = bits := by
  obtain ⟨n, length⟩ := whole
  rw [filled, missing, length, Nat.mul_mod_right, Nat.sub_zero, Nat.mod_self,
    List.replicate_zero, List.append_nil]

/-- The zeros that complete the bits are in their groups. -/
theorem groups_filled {k : Nat} (pos : 0 < k) (bits : List Bool) :
    groups k (filled k bits) = groups k bits := by
  rw [groups, filled_of_dvd (dvd_filled pos bits), groups]

/-- Whole groups come before the groups of the rest. -/
theorem groups_append {k : Nat} (pos : 0 < k) {xs : List Bool} (whole : k ∣ xs.length)
    (ys : List Bool) : groups k (xs ++ ys) = groups k xs ++ groups k ys := by
  have none := filled_of_dvd whole
  obtain ⟨n, length⟩ := whole
  have more : missing k (xs ++ ys).length = missing k ys.length := by
    rw [missing, missing, List.length_append, length, Nat.mul_add_mod]
  have all : filled k (xs ++ ys) = xs ++ filled k ys := by
    rw [filled, more, List.append_assoc, filled]
  have count : (xs ++ filled k ys).length / k = n + (filled k ys).length / k := by
    rw [List.length_append, length, Nat.mul_add_div pos]
  unfold groups
  rw [all, count, none, length, Nat.mul_div_cancel_left n pos, List.range_add, List.map_append,
    List.map_map]
  congr 1
  · refine List.map_congr_left fun i mem => ?_
    have before : k * (i + 1) ≤ k * n := Nat.mul_le_mul_left k (List.mem_range.mp mem)
    rw [Nat.mul_succ] at before
    rw [List.drop_append_of_le_length (by omega), List.take_append_of_le_length]
    rw [List.length_drop]
    omega
  · refine List.map_congr_left fun i _ => ?_
    show ((xs ++ filled k ys).drop (k * (n + i))).take k = _
    rw [Nat.mul_add, ← length, List.drop_append, List.drop_eq_nil_of_le (by omega),
      List.nil_append, Nat.add_sub_cancel_left]

/-- The groups of groups that are one after the other. -/
theorem groups_flatten {k : Nat} (pos : 0 < k) {parts : List (List Bool)}
    (each : ∀ part ∈ parts, part.length = k) : groups k parts.flatten = parts := by
  induction parts with
  | nil => simp [groups, filled, missing]
  | cons part parts ih =>
      have length := each part List.mem_cons_self
      have whole : k ∣ part.length := length ▸ dvd_rfl
      have single : groups k part = [part] := by
        rw [groups, filled_of_dvd whole, length, Nat.div_self pos, List.range_one,
          List.map_singleton, Nat.mul_zero, List.drop_zero, ← length, List.take_length]
      rw [List.flatten_cons, groups_append pos whole, single,
        ih fun part mem => each part (List.mem_cons_of_mem _ mem)]
      rfl

end Groups

end RoqSamples.Arith.Bits
