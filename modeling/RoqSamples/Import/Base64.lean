/- Import/Base64
   digest: The base64 encoding of the importer, its length, and that it can be read back. -/
import Mathlib.Data.List.Basic
import Mathlib.Data.Nat.Bitwise

set_option autoImplicit false
set_option relaxedAutoImplicit false

namespace RoqSamples.Import.Base64

/-- `B64chars`. -/
def b64chars : List UInt8 :=
  "ABCDEFGHIJKLMNOPQRSTUVWXYZabcdefghijklmnopqrstuvwxyz0123456789+/".toList.map fun c =>
    c.toNat.toUInt8

/-- The padding `'='`. -/
def pad : UInt8 := 61

/-- `B64chars[n]`; every index that is used has six bits. -/
def b64char (n : Nat) : UInt8 := b64chars.getD n 0

/-- Three bytes make four characters; one or two bytes at the end are padded. -/
def encode : List UInt8 → List UInt8
  | a :: b :: c :: rest =>
      let n := a.toNat <<< 16 ||| b.toNat <<< 8 ||| c.toNat
      b64char (n >>> 18) :: b64char (n >>> 12 &&& 0x3F) :: b64char (n >>> 6 &&& 0x3F) ::
        b64char (n &&& 0x3F) :: encode rest
  | [a, b] =>
      let n := a.toNat <<< 8 ||| b.toNat
      [b64char (n >>> 10 &&& 0x3F), b64char (n >>> 4 &&& 0x3F), b64char (n <<< 2 &&& 0x3F), pad]
  | [a] =>
      let n := a.toNat
      [b64char (n >>> 2), b64char (n <<< 4 &&& 0x3F), pad, pad]
  | [] => []

/-- The six bits of a character. -/
def value (c : UInt8) : Option Nat := b64chars.idxOf? c

/-- The bytes of four characters. -/
def group (w x y z : UInt8) : Option (List UInt8) := do
  let p ← value w
  let q ← value x
  let first := (p * 4 + q / 16).toUInt8
  if y = pad then
    some [first]
  else
    let r ← value y
    let second := (q % 16 * 16 + r / 4).toUInt8
    if z = pad then
      some [first, second]
    else
      let s ← value z
      some [first, second, (r % 4 * 64 + s).toUInt8]

/-- What a reader of base64 makes of the characters. -/
def decode : List UInt8 → Option (List UInt8)
  | [] => some []
  | w :: x :: y :: z :: rest => do
      let bytes ← group w x y z
      let others ← decode rest
      some (bytes ++ others)
  | _ => none

theorem value_b64char {n : Nat} (small : n < 64) : value (b64char n) = some n := by
  have all : ∀ n : Fin 64, value (b64char n) = some n.val := by decide +kernel
  exact all ⟨n, small⟩

theorem b64char_ne_pad {n : Nat} (small : n < 64) : b64char n ≠ pad := by
  have all : ∀ n : Fin 64, b64char n ≠ pad := by decide +kernel
  exact all ⟨n, small⟩

theorem byte_lt (a : UInt8) : a.toNat < 256 := a.toNat_lt

theorem and_six (n : Nat) : n &&& 0x3F = n % 64 := Nat.and_two_pow_sub_one_eq_mod n 6

theorem two_bytes (a b : UInt8) : a.toNat <<< 8 ||| b.toNat = a.toNat * 256 + b.toNat := by
  rw [← Nat.shiftLeft_add_eq_or_of_lt (byte_lt b), Nat.shiftLeft_eq]

theorem three_bytes (a b c : UInt8) :
    a.toNat <<< 16 ||| b.toNat <<< 8 ||| c.toNat =
      a.toNat * 65536 + b.toNat * 256 + c.toNat := by
  have upper : a.toNat <<< 16 ||| b.toNat <<< 8 = (a.toNat * 256 + b.toNat) <<< 8 := by
    rw [← two_bytes, Nat.shiftLeft_or_distrib, ← Nat.shiftLeft_add]
  rw [upper, ← Nat.shiftLeft_add_eq_or_of_lt (byte_lt c), Nat.shiftLeft_eq]
  omega

theorem toUInt8_eq {n : Nat} {a : UInt8} (same : n = a.toNat) : n.toUInt8 = a := by
  rw [same]
  exact UInt8.ofNat_toNat

private theorem group_three (a b c : UInt8) :
    let n := a.toNat <<< 16 ||| b.toNat <<< 8 ||| c.toNat
    group (b64char (n >>> 18)) (b64char (n >>> 12 &&& 0x3F)) (b64char (n >>> 6 &&& 0x3F))
      (b64char (n &&& 0x3F)) = some [a, b, c] := by
  have ha := byte_lt a
  have hb := byte_lt b
  have hc := byte_lt c
  simp only [three_bytes, and_six, Nat.shiftRight_eq_div_pow]
  generalize number : a.toNat * 65536 + b.toNat * 256 + c.toNat = n
  have third : n / 2 ^ 6 % 64 < 64 := Nat.mod_lt _ (by decide)
  have fourth : n % 64 < 64 := Nat.mod_lt _ (by decide)
  rw [group, value_b64char (by omega), value_b64char (by omega)]
  simp only [Option.bind_eq_bind, Option.bind_some, if_neg (b64char_ne_pad third),
    if_neg (b64char_ne_pad fourth), value_b64char third, value_b64char fourth]
  rw [toUInt8_eq (a := a) (by omega), toUInt8_eq (a := b) (by omega),
    toUInt8_eq (a := c) (by omega)]

private theorem group_two (a b : UInt8) :
    let n := a.toNat <<< 8 ||| b.toNat
    group (b64char (n >>> 10 &&& 0x3F)) (b64char (n >>> 4 &&& 0x3F)) (b64char (n <<< 2 &&& 0x3F))
      pad = some [a, b] := by
  have ha := byte_lt a
  have hb := byte_lt b
  simp only [two_bytes]
  simp only [and_six, Nat.shiftRight_eq_div_pow, Nat.shiftLeft_eq]
  generalize number : a.toNat * 256 + b.toNat = n
  have third : n * 2 ^ 2 % 64 < 64 := Nat.mod_lt _ (by decide)
  rw [group, value_b64char (by omega), value_b64char (by omega)]
  simp only [Option.bind_eq_bind, Option.bind_some, if_neg (b64char_ne_pad third), if_true,
    value_b64char third]
  rw [toUInt8_eq (a := a) (by omega), toUInt8_eq (a := b) (by omega)]

private theorem group_one (a : UInt8) :
    group (b64char (a.toNat >>> 2)) (b64char (a.toNat <<< 4 &&& 0x3F)) pad pad = some [a] := by
  have ha := byte_lt a
  simp only [and_six, Nat.shiftRight_eq_div_pow, Nat.shiftLeft_eq]
  rw [group, value_b64char (by omega), value_b64char (by omega)]
  simp only [Option.bind_eq_bind, Option.bind_some, if_true]
  rw [toUInt8_eq (a := a) (by omega)]

/-- What is encoded is read back, whatever follows. -/
theorem decode_append (data rest : List UInt8) :
    decode (encode data ++ rest) = (decode rest).map (data ++ ·) := by
  induction data using encode.induct with
  | case1 a b c more ih =>
      rw [encode]
      simp only [List.cons_append, decode]
      rw [group_three, ih]
      cases decode rest <;> rfl
  | case2 a b =>
      rw [encode]
      simp only [List.cons_append, List.nil_append, decode]
      rw [group_two]
      cases decode rest <;> rfl
  | case3 a =>
      rw [encode]
      simp only [List.cons_append, List.nil_append, decode]
      rw [group_one]
      cases decode rest <;> rfl
  | case4 => simp [encode]

/-- Encoded messages one after the other are read as the messages one after the other. -/
theorem decode_flatten (messages : List (List UInt8)) :
    decode (messages.map encode).flatten = some messages.flatten := by
  induction messages with
  | nil => rfl
  | cons message messages ih =>
      rw [List.map_cons, List.flatten_cons, decode_append, ih]
      rfl

theorem length_encode (data : List UInt8) : (encode data).length = (data.length + 2) / 3 * 4 := by
  induction data using encode.induct with
  | case1 a b c more ih =>
      rw [encode]
      simp only [List.length_cons, ih]
      omega
  | case2 a b => simp [encode]
  | case3 a => simp [encode]
  | case4 => simp [encode]

theorem length_lt_encode {data : List UInt8} (nonempty : data ≠ []) :
    data.length < (encode data).length := by
  have positive := List.length_pos_iff.mpr nonempty
  rw [length_encode]
  omega

/-- Whole groups of three bytes come before the rest. -/
theorem encode_append {front : List UInt8} (whole : 3 ∣ front.length) (rest : List UInt8) :
    encode (front ++ rest) = encode front ++ encode rest := by
  induction front using encode.induct with
  | case1 a b c more ih =>
      have others : 3 ∣ more.length := by
        simp only [List.length_cons] at whole
        omega
      simp only [List.cons_append, encode, ih others]
  | case2 a b => exact absurd whole (show ¬ 3 ∣ 2 by decide)
  | case3 a => exact absurd whole (show ¬ 3 ∣ 1 by decide)
  | case4 => rfl

end RoqSamples.Import.Base64
