/- Import/Base64Loops
   digest: The encoder with its buffers, its 32-bit integers and its assertions, and that it ends
     with the encoding of the list. -/
import Mathlib.Data.List.TakeWhile
import RoqSamples.Import.Base64

set_option autoImplicit false
set_option relaxedAutoImplicit false

namespace RoqSamples.Import.Base64

/-- What must not happen: an access outside of an array, or an assertion that does not hold. -/
inductive Fault
  | readOutOfRange (index : Nat)
  | writeOutOfRange (index : Nat)
  | notACharacter (n : BitVec 32)
  | assertion
  deriving DecidableEq

/-- `result`, the next index `j`, and the indices that have been written, in order. -/
structure Output where
  result : List UInt8
  j : Nat := 0
  written : List Nat := []
  deriving DecidableEq

/-- `data_2[i]` as an int. -/
def read (data : List UInt8) (i : Nat) : Except Fault (BitVec 32) :=
  match data[i]? with
  | none => .error (.readOutOfRange i)
  | some byte => .ok (byte.toBitVec.setWidth 32)

/-- `B64chars[n]`, in front of its terminating zero. -/
def character (n : BitVec 32) : Except Fault UInt8 :=
  match n.toInt with
  | .negSucc _ => .error (.notACharacter n)
  | .ofNat index =>
      match b64chars[index]? with
      | none => .error (.notACharacter n)
      | some c => .ok c

/-- `str[j++] = c`. -/
def write (c : UInt8) (out : Output) : Except Fault Output :=
  if out.j < out.result.length then
    .ok { result := out.result.set out.j c, j := out.j + 1, written := out.written ++ [out.j] }
  else .error (.writeOutOfRange out.j)

/-- `str[j++] = B64chars[n]`. -/
def writeCharacter (n : BitVec 32) (out : Output) : Except Fault Output := do
  write (← character n) out

def check (holds : Bool) : Except Fault Unit :=
  if holds then .ok () else .error .assertion

/-- The body of the loop. -/
def encodeGroup (data : List UInt8) (out : Output) (i : Nat) : Except Fault Output := do
  let n := (← read data i) <<< 16 ||| (← read data (i + 1)) <<< 8 ||| (← read data (i + 2))
  check (0 ≤ n.toInt ∧ n.toInt < 1 <<< 24)
  let out ← writeCharacter (n.sshiftRight 18) out
  let out ← writeCharacter (n.sshiftRight 12 &&& 0x3F) out
  let out ← writeCharacter (n.sshiftRight 6 &&& 0x3F) out
  writeCharacter (n &&& 0x3F) out

/-- The branch that sets the padding. -/
def encodeRest (data : List UInt8) (pad last : Nat) (out : Output) : Except Fault Output := do
  let pad := pad - 1
  let n ←
    if pad ≠ 0 then do pure ((← read data last) <<< 8 ||| (← read data (last + 1)))
    else read data last
  check (0 ≤ n.toInt ∧ n.toInt < 1 <<< 16)
  let out ← writeCharacter (if pad ≠ 0 then n.sshiftRight 10 &&& 0x3F else n.sshiftRight 2) out
  let out ←
    writeCharacter (if pad ≠ 0 then n.sshiftRight 4 &&& 0x3F else n <<< 4 &&& 0x3F) out
  if pad ≠ 0 then writeCharacter (n <<< 2 &&& 0x3F) out else write Base64.pad out

def b64encode (data : List UInt8) : Except Fault Output := do
  let len := data.length
  let pad := len % 3
  let last := len - pad
  let out ← (List.range' 0 (last / 3) 3).foldlM (encodeGroup data)
    { result := List.replicate ((len + 2) / 3 * 4) Base64.pad }
  if pad ≠ 0 then encodeRest data pad last out else pure out

def strlen (text : List UInt8) : Nat := (text.takeWhile fun c => c ≠ 0).length

/-- `Base64::encode`, with the indices that it has written. -/
def encodeChecked (data : List UInt8) : Except Fault Output := do
  let out ← b64encode data
  check (out.result.length = strlen out.result)
  pure out

section Ints

/-- The int that three bytes make. -/
private def packed (a b c : UInt8) : BitVec 32 :=
  a.toBitVec.setWidth 32 <<< 16 ||| b.toBitVec.setWidth 32 <<< 8 ||| c.toBitVec.setWidth 32

private theorem byte_toNat (a : UInt8) : (a.toBitVec.setWidth 32).toNat = a.toNat := by
  have small : a.toBitVec.toNat < 2 ^ 32 := by
    have byte := byte_lt a
    show a.toNat < 2 ^ 32
    omega
  rw [BitVec.toNat_setWidth, Nat.mod_eq_of_lt small]
  rfl

private theorem shifted_toNat {n : BitVec 32} {k : Nat} (room : n.toNat * 2 ^ k < 2 ^ 32) :
    (n <<< k).toNat = n.toNat <<< k := by
  rw [BitVec.toNat_shiftLeft, Nat.shiftLeft_eq, Nat.mod_eq_of_lt room]

private theorem packed_toNat (a b c : UInt8) :
    (packed a b c).toNat = a.toNat <<< 16 ||| b.toNat <<< 8 ||| c.toNat := by
  have ha := byte_lt a
  have hb := byte_lt b
  rw [packed, BitVec.toNat_or, BitVec.toNat_or, shifted_toNat, shifted_toNat, byte_toNat,
    byte_toNat, byte_toNat]
  · rw [byte_toNat]
    omega
  · rw [byte_toNat]
    omega

/-- A small int is not negative. -/
private theorem toInt_of_small {n : BitVec 32} (small : n.toNat < 2 ^ 24) :
    n.toInt = n.toNat := BitVec.toInt_eq_toNat_of_lt (by omega)

private theorem sshiftRight_toNat {n : BitVec 32} (small : n.toNat < 2 ^ 24) (k : Nat) :
    (n.sshiftRight k).toNat = n.toNat >>> k := by
  have positive : n.msb = false := BitVec.msb_eq_false_iff_two_mul_lt.mpr (by omega)
  rw [BitVec.sshiftRight_eq_of_msb_false positive, BitVec.toNat_ushiftRight]

private theorem character_eq {n : BitVec 32} {k : Nat} (same : n.toNat = k) (small : k < 64) :
    character n = .ok (b64char k) := by
  have all : ∀ k : Fin 64, b64chars[k.val]? = some (b64char k.val) := by decide +kernel
  have found := all ⟨k, small⟩
  unfold character
  rw [toInt_of_small (by omega), same]
  show (match b64chars[k]? with | none => _ | some c => _) = _
  rw [found]

private theorem packed_small (a b c : UInt8) : (packed a b c).toNat < 2 ^ 24 := by
  have ha := byte_lt a
  have hb := byte_lt b
  have hc := byte_lt c
  rw [packed_toNat, three_bytes]
  omega

/-- The int of the last two bytes. -/
private def packedTwo (a b : UInt8) : BitVec 32 :=
  a.toBitVec.setWidth 32 <<< 8 ||| b.toBitVec.setWidth 32

private theorem packedTwo_toNat (a b : UInt8) :
    (packedTwo a b).toNat = a.toNat <<< 8 ||| b.toNat := by
  have ha := byte_lt a
  rw [packedTwo, BitVec.toNat_or, shifted_toNat, byte_toNat, byte_toNat]
  rw [byte_toNat]
  omega

private theorem packedTwo_small (a b : UInt8) : (packedTwo a b).toNat < 2 ^ 16 := by
  have ha := byte_lt a
  have hb := byte_lt b
  rw [packedTwo_toNat, two_bytes]
  omega

/-- The assertion on an int below a power of two. -/
private theorem check_small {n : BitVec 32} {k : Nat} (few : k ≤ 24) (small : n.toNat < 2 ^ k) :
    check (0 ≤ n.toInt ∧ n.toInt < 1 <<< k) = .ok () := by
  have most : 2 ^ k ≤ 2 ^ 24 := Nat.pow_le_pow_right (by omega) few
  rw [toInt_of_small (by omega), Nat.shiftLeft_eq]
  unfold check
  rw [if_pos]
  exact decide_eq_true ⟨Int.natCast_nonneg _, by omega⟩

/-- The lowest six bits of an int. -/
private theorem and_toNat {n : BitVec 32} {m : Nat} (same : n.toNat = m) :
    (n &&& 0x3F).toNat = m &&& 0x3F := by
  rw [BitVec.toNat_and, same]
  rfl

private theorem and_lt (m : Nat) : m &&& 0x3F < 64 := by
  rw [and_six]
  exact Nat.mod_lt _ (by decide)

end Ints

section Writing

/-- The output whose first characters have been written one after the other. -/
def outputOf (done rest : List UInt8) : Output where
  result := done ++ rest
  j := done.length
  written := List.range done.length

private theorem write_next (c x : UInt8) (done rest : List UInt8) :
    write c (outputOf done (x :: rest)) = .ok (outputOf (done ++ [c]) rest) := by
  have room : (outputOf done (x :: rest)).j < (outputOf done (x :: rest)).result.length := by
    simp [outputOf]
  rw [write, if_pos room]
  simp only [outputOf, List.length_append, List.length_singleton, List.range_succ]
  rw [List.set_append_right _ _ le_rfl, Nat.sub_self, List.set_cons_zero, List.append_assoc]
  rfl

private theorem writeCharacter_next {n : BitVec 32} {k : Nat} (same : n.toNat = k)
    (small : k < 64) (x : UInt8) (done rest : List UInt8) :
    writeCharacter n (outputOf done (x :: rest)) = .ok (outputOf (done ++ [b64char k]) rest) := by
  rw [writeCharacter, character_eq same small]
  exact write_next _ x done rest

private theorem read_eq {data : List UInt8} {i : Nat} {a : UInt8} (found : data[i]? = some a) :
    read data i = .ok (a.toBitVec.setWidth 32) := by
  rw [read, found]

/-- Three bytes that are there become the next four characters. -/
private theorem encodeGroup_eq {data : List UInt8} {i : Nat} {a b c : UInt8}
    (first : data[i]? = some a) (second : data[i + 1]? = some b) (third : data[i + 2]? = some c)
    (w x y z : UInt8) (done rest : List UInt8) :
    encodeGroup data (outputOf done (w :: x :: y :: z :: rest)) i =
      .ok (outputOf (done ++ encode [a, b, c]) rest) := by
  have small := packed_small a b c
  have number := packed_toNat a b c
  have high : (packed a b c).toNat >>> 18 < 64 := by
    rw [Nat.shiftRight_eq_div_pow]
    omega
  rw [encodeGroup, read_eq first, read_eq second, read_eq third]
  show (check (0 ≤ (packed a b c).toInt ∧ (packed a b c).toInt < 1 <<< 24) >>= fun _ => _) = _
  rw [check_small le_rfl small]
  show (writeCharacter ((packed a b c).sshiftRight 18) _ >>= fun _ => _) = _
  rw [writeCharacter_next (sshiftRight_toNat small 18) high]
  show (writeCharacter ((packed a b c).sshiftRight 12 &&& 0x3F) _ >>= fun _ => _) = _
  rw [writeCharacter_next (and_toNat (sshiftRight_toNat small 12)) (and_lt _)]
  show (writeCharacter ((packed a b c).sshiftRight 6 &&& 0x3F) _ >>= fun _ => _) = _
  rw [writeCharacter_next (and_toNat (sshiftRight_toNat small 6)) (and_lt _)]
  show writeCharacter (packed a b c &&& 0x3F) _ = _
  rw [writeCharacter_next (and_toNat rfl) (and_lt _), number]
  simp only [encode, List.append_assoc, List.cons_append, List.nil_append]

/-- One byte at the end becomes two characters and the first padding. -/
private theorem encodeRest_one {data : List UInt8} {last : Nat} {a : UInt8}
    (first : data[last]? = some a) (x y z : UInt8) (done rest : List UInt8) :
    encodeRest data 1 last (outputOf done (x :: y :: z :: rest)) =
      .ok (outputOf (done ++ (encode [a]).take 3) rest) := by
  have byte := byte_lt a
  have number := byte_toNat a
  have small : (a.toBitVec.setWidth 32).toNat < 2 ^ 16 := by omega
  have high : (a.toBitVec.setWidth 32).toNat >>> 2 < 64 := by
    rw [Nat.shiftRight_eq_div_pow]
    omega
  have shifted : (a.toBitVec.setWidth 32 <<< 4).toNat = (a.toBitVec.setWidth 32).toNat <<< 4 :=
    shifted_toNat (by omega)
  rw [encodeRest]
  show (read data last >>= fun _ => _) = _
  rw [read_eq first]
  show (check (0 ≤ (a.toBitVec.setWidth 32).toInt ∧ (a.toBitVec.setWidth 32).toInt < 1 <<< 16) >>=
    fun _ => _) = _
  rw [check_small (by omega) small]
  show (writeCharacter ((a.toBitVec.setWidth 32).sshiftRight 2) _ >>= fun _ => _) = _
  rw [writeCharacter_next (sshiftRight_toNat (by omega) 2) high]
  show (writeCharacter (a.toBitVec.setWidth 32 <<< 4 &&& 0x3F) _ >>= fun _ => _) = _
  rw [writeCharacter_next (and_toNat shifted) (and_lt _)]
  show write Base64.pad _ = _
  rw [write_next, number]
  simp only [encode, List.append_assoc, List.cons_append, List.nil_append, List.take_succ_cons,
    List.take_zero]

/-- Two bytes at the end become three characters. -/
private theorem encodeRest_two {data : List UInt8} {last : Nat} {a b : UInt8}
    (first : data[last]? = some a) (second : data[last + 1]? = some b) (x y z : UInt8)
    (done rest : List UInt8) :
    encodeRest data 2 last (outputOf done (x :: y :: z :: rest)) =
      .ok (outputOf (done ++ (encode [a, b]).take 3) rest) := by
  have number := packedTwo_toNat a b
  have small := packedTwo_small a b
  have shifted : (packedTwo a b <<< 2).toNat = (packedTwo a b).toNat <<< 2 :=
    shifted_toNat (by omega)
  rw [encodeRest]
  show (read data last >>= fun _ => _) = _
  rw [read_eq first]
  show (read data (last + 1) >>= fun _ => _) = _
  rw [read_eq second]
  show (check (0 ≤ (packedTwo a b).toInt ∧ (packedTwo a b).toInt < 1 <<< 16) >>= fun _ => _) = _
  rw [check_small (by omega) small]
  show (writeCharacter ((packedTwo a b).sshiftRight 10 &&& 0x3F) _ >>= fun _ => _) = _
  rw [writeCharacter_next (and_toNat (sshiftRight_toNat (by omega) 10)) (and_lt _)]
  show (writeCharacter ((packedTwo a b).sshiftRight 4 &&& 0x3F) _ >>= fun _ => _) = _
  rw [writeCharacter_next (and_toNat (sshiftRight_toNat (by omega) 4)) (and_lt _)]
  show writeCharacter (packedTwo a b <<< 2 &&& 0x3F) _ = _
  rw [writeCharacter_next (and_toNat shifted) (and_lt _), number]
  simp only [encode, List.append_assoc, List.cons_append, List.nil_append, List.take_succ_cons,
    List.take_zero]

end Writing

section Loop

/-- The loop encodes the bytes that it has passed. -/
private theorem loop_eq (data : List UInt8) {m : Nat} (inside : 3 * m ≤ data.length)
    (spare : Nat) :
    (List.range' 0 m 3).foldlM (encodeGroup data)
        { result := List.replicate (4 * m + spare) pad } =
      .ok (outputOf (encode (data.take (3 * m))) (List.replicate spare pad)) := by
  induction m generalizing spare with
  | zero =>
      rw [Nat.mul_zero, Nat.zero_add, List.take_zero]
      rfl
  | succ m ih =>
      have more : 4 * (m + 1) + spare = 4 * m + (spare + 4) := by omega
      have first : data[3 * m]? = some data[3 * m] := List.getElem?_eq_getElem (by omega)
      have second : data[3 * m + 1]? = some data[3 * m + 1] := List.getElem?_eq_getElem (by omega)
      have third : data[3 * m + 2]? = some data[3 * m + 2] := List.getElem?_eq_getElem (by omega)
      have passed : data.take (3 * (m + 1)) =
          data.take (3 * m) ++ [data[3 * m], data[3 * m + 1], data[3 * m + 2]] := by
        rw [Nat.mul_succ, List.take_succ_eq_append_getElem (by omega),
          List.take_succ_eq_append_getElem (by omega), List.take_succ_eq_append_getElem (by omega),
          List.append_assoc, List.append_assoc]
        rfl
      have whole : 3 ∣ (data.take (3 * m)).length := by
        rw [List.length_take]
        omega
      rw [more, List.range'_concat, List.foldlM_append, ih (by omega) (spare + 4), passed,
        encode_append whole, Nat.zero_add]
      show (List.foldlM (encodeGroup data) (outputOf _ (pad :: pad :: pad :: pad ::
        List.replicate spare pad)) [3 * m]) = _
      rw [List.foldlM_cons, encodeGroup_eq first second third]
      rfl

/-- The loop stops in front of the bytes that do not make a group. -/
private theorem b64encode_append {front rest : List UInt8} (whole : 3 ∣ front.length)
    (few : rest.length < 3) :
    b64encode (front ++ rest) =
      if rest.length ≠ 0 then
        encodeRest (front ++ rest) rest.length front.length
          (outputOf (encode front) [pad, pad, pad, pad])
      else .ok (outputOf (encode front) []) := by
  obtain ⟨m, length⟩ := whole
  have total : (front ++ rest).length = 3 * m + rest.length := by
    rw [List.length_append, length]
  have beyond : (front ++ rest).length % 3 = rest.length := by omega
  have last : (front ++ rest).length - rest.length = front.length := by omega
  have turns : front.length / 3 = m := by omega
  have passed : (front ++ rest).take (3 * m) = front := by
    rw [← length]
    exact List.take_left
  rw [b64encode, beyond, last, turns]
  by_cases none : rest.length = 0
  · have room : ((front ++ rest).length + 2) / 3 * 4 = 4 * m + 0 := by omega
    rw [room, loop_eq (front ++ rest) (by omega) 0, passed, if_neg (not_not.mpr none)]
    exact if_neg (not_not.mpr none)
  · have room : ((front ++ rest).length + 2) / 3 * 4 = 4 * m + 4 := by omega
    rw [room, loop_eq (front ++ rest) (by omega) 4, passed, if_pos none]
    exact if_pos none

/-- The characters that are left over for the padding when the output is made. -/
private def left (length : Nat) : List UInt8 := if length % 3 = 0 then [] else [pad]

/-- The encoder ends with the encoding, of which the last padding is not written. -/
private theorem b64encode_eq (data : List UInt8) :
    ∃ done, b64encode data = .ok (outputOf done (left data.length)) ∧
      done ++ left data.length = encode data := by
  obtain ⟨front, rest, rfl, whole, few⟩ : ∃ front rest, data = front ++ rest ∧
      3 ∣ front.length ∧ rest.length < 3 := by
    refine ⟨data.take (3 * (data.length / 3)), data.drop (3 * (data.length / 3)),
      (List.take_append_drop _ _).symm, ?_, ?_⟩
    · rw [List.length_take]
      omega
    · rw [List.length_drop]
      omega
  rw [b64encode_append whole few, encode_append whole, List.length_append]
  match rest, few with
  | [], _ =>
      have none : left (front.length + 0) = [] := if_pos (Nat.mod_eq_zero_of_dvd whole)
      exact ⟨encode front, by rw [List.length_nil, none]; rfl, by rw [List.length_nil, none]; rfl⟩
  | [a], _ =>
      have one : left (front.length + 1) = [pad] := if_neg (by omega)
      have first : (front ++ [a])[front.length]? = some a := List.getElem?_concat_length
      refine ⟨encode front ++ (encode [a]).take 3, ?_, ?_⟩
      · rw [List.length_singleton, one, ← encodeRest_one first]
        rfl
      · rw [List.length_singleton, one, List.append_assoc]
        rfl
  | [a, b], _ =>
      have one : left (front.length + 2) = [pad] := if_neg (by omega)
      have first : (front ++ [a, b])[front.length]? = some a := by simp
      have second : (front ++ [a, b])[front.length + 1]? = some b := by simp
      refine ⟨encode front ++ (encode [a, b]).take 3, ?_, ?_⟩
      · rw [show [a, b].length = 2 from rfl, one, ← encodeRest_two first second]
        rfl
      · rw [show [a, b].length = 2 from rfl, one, List.append_assoc]
        rfl

/-- No character is the zero that ends a string. -/
private theorem encode_ne_zero {data : List UInt8} {c : UInt8} (mem : c ∈ encode data) :
    c ≠ 0 := by
  have all : ∀ k : Fin 64, b64char k.val ≠ 0 := by decide +kernel
  have lookup {k : Nat} (small : k < 64) : b64char k ≠ 0 := all ⟨k, small⟩
  induction data using encode.induct with
  | case1 a b c more ih =>
      have high : (a.toNat <<< 16 ||| b.toNat <<< 8 ||| c.toNat) >>> 18 < 64 := by
        rw [← packed_toNat, Nat.shiftRight_eq_div_pow]
        have small := packed_small a b c
        omega
      simp only [encode, List.mem_cons] at mem
      rcases mem with rfl | rfl | rfl | rfl | later
      · exact lookup high
      · exact lookup (and_lt _)
      · exact lookup (and_lt _)
      · exact lookup (and_lt _)
      · exact ih later
  | case2 a b =>
      simp only [encode, List.mem_cons, List.not_mem_nil, or_false] at mem
      rcases mem with rfl | rfl | rfl | rfl
      · exact lookup (and_lt _)
      · exact lookup (and_lt _)
      · exact lookup (and_lt _)
      · decide
  | case3 a =>
      have byte := byte_lt a
      have high : a.toNat >>> 2 < 64 := by
        rw [Nat.shiftRight_eq_div_pow]
        omega
      simp only [encode, List.mem_cons, List.not_mem_nil, or_false] at mem
      rcases mem with rfl | rfl | rfl | rfl
      · exact lookup high
      · exact lookup (and_lt _)
      · decide
      · decide
  | case4 => cases mem

private theorem strlen_encode (data : List UInt8) :
    strlen (encode data) = (encode data).length := by
  rw [strlen, List.takeWhile_eq_self_iff.mpr]
  intro c mem
  exact decide_eq_true (encode_ne_zero mem)

/-- Nothing goes wrong: the encoder returns the encoding, having written its characters in order up
to the padding that the output was made with. -/
theorem encodeChecked_eq (data : List UInt8) :
    encodeChecked data = .ok
      { result := encode data
        j := (encode data).length - if data.length % 3 = 0 then 0 else 1
        written := List.range ((encode data).length - if data.length % 3 = 0 then 0 else 1) } := by
  obtain ⟨done, returned, all⟩ := b64encode_eq data
  have count : done.length = (encode data).length - if data.length % 3 = 0 then 0 else 1 := by
    rw [← all, List.length_append, left]
    split
    · rfl
    · exact (Nat.add_sub_cancel done.length 1).symm
  have asserted : check ((encode data).length = strlen (encode data)) = .ok () := by
    rw [strlen_encode]
    exact if_pos (decide_eq_true rfl)
  rw [encodeChecked, returned]
  show (check ((done ++ left data.length).length = strlen (done ++ left data.length)) >>=
    fun _ => _) = _
  rw [all, asserted, ← count]
  show Except.ok (outputOf done (left data.length)) = _
  rw [outputOf, all]

end Loop

end RoqSamples.Import.Base64
