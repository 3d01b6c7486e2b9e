/- Import/Base64Text
   digest: The base64 text of RFC 4648 in terms of bits, a strict reader of it, and that the
     encoder writes this text. -/
import RoqSamples.Arith.Bits
import RoqSamples.Import.Base64Loops

set_option autoImplicit false
set_option relaxedAutoImplicit false

namespace RoqSamples.Import.Base64

open RoqSamples.Arith.Bits

/-- The letter of a number of six bits. -/
def letter (v : Nat) : UInt8 :=
  if v < 26 then (65 + v).toUInt8
  else if v < 52 then (97 + (v - 26)).toUInt8
  else if v < 62 then (48 + (v - 52)).toUInt8
  else if v = 62 then 43
  else 47

/-- The number of a letter, of which there are sixty-four. -/
def number (c : UInt8) : Option Nat :=
  if 65 ≤ c.toNat ∧ c.toNat ≤ 90 then some (c.toNat - 65)
  else if 97 ≤ c.toNat ∧ c.toNat ≤ 122 then some (c.toNat - 97 + 26)
  else if 48 ≤ c.toNat ∧ c.toNat ≤ 57 then some (c.toNat - 48 + 52)
  else if c.toNat = 43 then some 62
  else if c.toNat = 47 then some 63
  else none

/-- The bits of the bytes, one after the other. -/
def bitsOfBytes (data : List UInt8) : List Bool :=
  (data.map fun byte => bitsOf 8 byte.toNat).flatten

/-- Six bits make a letter, and the last letter is completed with zeros. -/
def letters (data : List UInt8) : List UInt8 :=
  ((groups 6 (bitsOfBytes data)).map natOfBits).map letter

/-- The letters, padded to a multiple of four. -/
def text (data : List UInt8) : List UInt8 :=
  letters data ++ List.replicate (missing 4 (letters data).length) pad

/-- A reader that accepts neither foreign characters nor a wrong padding nor bits that are set
behind the last byte. -/
def decodeText (text : List UInt8) : Option (List UInt8) := do
  let front := text.takeWhile fun c => c ≠ pad
  let padding := text.drop front.length
  guard (text.length % 4 = 0 ∧ padding.length ≤ 2 ∧ padding.all fun c => c = pad)
  let bits := (← front.mapM number).flatMap (bitsOf 6)
  let whole := bits.length / 8 * 8
  guard ((bits.drop whole).all fun bit => !bit)
  some ((groups 8 (bits.take whole)).map fun eight => (natOfBits eight).toUInt8)

section Letters

private theorem number_letter {v : Nat} (small : v < 64) : number (letter v) = some v := by
  have all : ∀ v : Fin 64, number (letter v.val) = some v.val := by decide +kernel
  exact all ⟨v, small⟩

private theorem letter_ne_pad {v : Nat} (small : v < 64) : letter v ≠ pad := by
  have all : ∀ v : Fin 64, letter v.val ≠ pad := by decide +kernel
  exact all ⟨v, small⟩

private theorem b64char_eq_letter {v : Nat} (small : v < 64) : b64char v = letter v := by
  have all : ∀ v : Fin 64, b64char v.val = letter v.val := by decide +kernel
  exact all ⟨v, small⟩

private theorem group_lt {data : List UInt8} {v : Nat}
    (mem : v ∈ (groups 6 (bitsOfBytes data)).map natOfBits) : v < 64 := by
  obtain ⟨group, inside, rfl⟩ := List.mem_map.mp mem
  have bound := natOfBits_lt group
  rw [length_of_mem_groups inside] at bound
  exact bound

private theorem length_bitsOfBytes (data : List UInt8) :
    (bitsOfBytes data).length = 8 * data.length := by
  induction data with
  | nil => rfl
  | cons byte data ih =>
      have one : bitsOfBytes (byte :: data) = bitsOf 8 byte.toNat ++ bitsOfBytes data := rfl
      rw [one, List.length_append, length_bitsOf, ih, List.length_cons]
      omega

private theorem bitsOfBytes_append (front rest : List UInt8) :
    bitsOfBytes (front ++ rest) = bitsOfBytes front ++ bitsOfBytes rest := by
  rw [bitsOfBytes, List.map_append, List.flatten_append]
  rfl

private theorem length_letters (data : List UInt8) :
    (letters data).length = (8 * data.length + missing 6 (8 * data.length)) / 6 := by
  rw [letters, List.length_map, List.length_map, length_groups, length_filled,
    length_bitsOfBytes]

/-- The letters are the digits of the number of all bytes. -/
private theorem letters_eq {data : List UInt8} {count spare n : Nat}
    (length : 8 * data.length = count) (rest : missing 6 count = spare)
    (value : natOfBits (bitsOfBytes data) = n) :
    letters data = (List.range ((count + spare) / 6)).map fun i =>
      letter (n * 2 ^ spare / 2 ^ (count + spare - 6 * (i + 1)) % 2 ^ 6) := by
  rw [letters, map_natOfBits_groups, length_filled, length_bitsOfBytes, length, rest, value,
    List.map_map]
  rfl

private theorem natOfBits_nil : natOfBits (bitsOfBytes []) = 0 := rfl

private theorem natOfBits_cons (byte : UInt8) (data : List UInt8) :
    natOfBits (bitsOfBytes (byte :: data)) =
      byte.toNat * 2 ^ (8 * data.length) + natOfBits (bitsOfBytes data) := by
  have one : bitsOfBytes (byte :: data) = bitsOf 8 byte.toNat ++ bitsOfBytes data := rfl
  rw [one, natOfBits_append, natOfBits_bitsOf_of_lt (byte_lt byte), length_bitsOfBytes]

/-- Three bytes fill four letters. -/
private theorem letters_append {front : List UInt8} (whole : 3 ∣ front.length)
    (rest : List UInt8) : letters (front ++ rest) = letters front ++ letters rest := by
  have filled : 6 ∣ (bitsOfBytes front).length := by
    rw [length_bitsOfBytes]
    omega
  rw [letters, bitsOfBytes_append, groups_append (by decide) filled, List.map_append,
    List.map_append]
  rfl

end Letters

section Encoding

private theorem lookup_eq {v w : Nat} (same : v = w) (small : w < 64) :
    letter v = b64char w := by
  rw [same, b64char_eq_letter small]

private theorem letters_three (a b c : UInt8) : letters [a, b, c] = encode [a, b, c] := by
  have ha := byte_lt a
  have hb := byte_lt b
  have hc := byte_lt c
  have value : natOfBits (bitsOfBytes [a, b, c]) =
      a.toNat * 65536 + b.toNat * 256 + c.toNat := by
    rw [natOfBits_cons, natOfBits_cons, natOfBits_cons, natOfBits_nil]
    simp only [List.length_cons, List.length_nil, Nat.reduceAdd, Nat.reduceMul, Nat.reducePow]
    omega
  have digits := letters_eq (show 8 * [a, b, c].length = 24 from rfl)
    (show missing 6 24 = 0 from rfl) value
  rw [digits]
  simp only [encode, three_bytes, and_six, Nat.shiftRight_eq_div_pow]
  have small : a.toNat * 65536 + b.toNat * 256 + c.toNat < 2 ^ 24 := by omega
  generalize a.toNat * 65536 + b.toNat * 256 + c.toNat = n at small ⊢
  show [letter (n * 1 / 2 ^ 18 % 64), letter (n * 1 / 2 ^ 12 % 64), letter (n * 1 / 2 ^ 6 % 64),
    letter (n * 1 / 1 % 64)] = _
  rw [lookup_eq (w := n / 2 ^ 18) (by omega) (by omega),
    lookup_eq (w := n / 2 ^ 12 % 64) (by omega) (by omega),
    lookup_eq (w := n / 2 ^ 6 % 64) (by omega) (by omega),
    lookup_eq (w := n % 64) (by omega) (by omega)]

private theorem letters_two (a b : UInt8) : letters [a, b] = (encode [a, b]).take 3 := by
  have ha := byte_lt a
  have hb := byte_lt b
  have value : natOfBits (bitsOfBytes [a, b]) = a.toNat * 256 + b.toNat := by
    rw [natOfBits_cons, natOfBits_cons, natOfBits_nil]
    simp only [List.length_cons, List.length_nil, Nat.reduceAdd, Nat.reduceMul, Nat.reducePow]
    omega
  have digits := letters_eq (show 8 * [a, b].length = 16 from rfl)
    (show missing 6 16 = 2 from rfl) value
  rw [digits]
  simp only [encode, two_bytes, List.take_succ_cons, List.take_zero]
  simp only [and_six, Nat.shiftRight_eq_div_pow, Nat.shiftLeft_eq]
  have small : a.toNat * 256 + b.toNat < 2 ^ 16 := by omega
  generalize a.toNat * 256 + b.toNat = n at small ⊢
  show [letter (n * 2 ^ 2 / 2 ^ 12 % 64), letter (n * 2 ^ 2 / 2 ^ 6 % 64),
    letter (n * 2 ^ 2 / 1 % 64)] = _
  rw [lookup_eq (w := n / 2 ^ 10 % 64) (by omega) (by omega),
    lookup_eq (w := n / 2 ^ 4 % 64) (by omega) (by omega),
    lookup_eq (w := n * 2 ^ 2 % 64) (by omega) (by omega)]

private theorem letters_one (a : UInt8) : letters [a] = (encode [a]).take 2 := by
  have small := byte_lt a
  have value : natOfBits (bitsOfBytes [a]) = a.toNat := by
    rw [natOfBits_cons, natOfBits_nil, List.length_nil, Nat.mul_zero, Nat.pow_zero, Nat.mul_one,
      Nat.add_zero]
  have digits := letters_eq (show 8 * [a].length = 8 from rfl) (show missing 6 8 = 4 from rfl)
    value
  rw [digits]
  simp only [encode, and_six, Nat.shiftRight_eq_div_pow, Nat.shiftLeft_eq, List.take_succ_cons,
    List.take_zero]
  generalize a.toNat = n at small ⊢
  show [letter (n * 2 ^ 4 / 2 ^ 6 % 64), letter (n * 2 ^ 4 / 1 % 64)] = _
  rw [lookup_eq (w := n / 2 ^ 2) (by omega) (by omega),
    lookup_eq (w := n * 2 ^ 4 % 64) (by omega) (by omega)]

/-- The encoder writes the text. -/
theorem encode_eq_text (data : List UInt8) : encode data = text data := by
  induction data using encode.induct with
  | case1 a b c more ih =>
      have front : letters (a :: b :: c :: more) = encode [a, b, c] ++ letters more := by
        rw [← letters_three a b c]
        exact letters_append (show 3 ∣ [a, b, c].length from dvd_rfl) more
      have four : (encode [a, b, c] ++ letters more).length = 4 * 1 + (letters more).length := by
        rw [List.length_append]
        rfl
      have same : missing 4 (4 * 1 + (letters more).length) = missing 4 (letters more).length := by
        rw [missing, missing, Nat.mul_add_mod]
      rw [text, front, four, same, List.append_assoc]
      exact (encode_append (show 3 ∣ [a, b, c].length from dvd_rfl) more).trans
        (congrArg (encode [a, b, c] ++ ·) ih)
  | case2 a b =>
      rw [text, letters_two]
      rfl
  | case3 a =>
      rw [text, letters_one]
      rfl
  | case4 => rfl

end Encoding

section Decoding

/-- The number of letters leaves one or two places for the padding, or none. -/
private theorem missing_letters_le (data : List UInt8) :
    missing 4 (letters data).length ≤ 2 := by
  rw [length_letters]
  unfold missing
  omega

private theorem mapM_number {values : List Nat} (small : ∀ v ∈ values, v < 64) :
    (values.map letter).mapM number = some values := by
  induction values with
  | nil => rfl
  | cons v values ih =>
      rw [List.map_cons, List.mapM_cons, number_letter (small v List.mem_cons_self),
        ih fun v mem => small v (List.mem_cons_of_mem _ mem)]
      rfl

private theorem bytes_back (data : List UInt8) :
    (groups 8 (bitsOfBytes data)).map (fun eight => (natOfBits eight).toUInt8) = data := by
  have each : ∀ part ∈ data.map fun byte => bitsOf 8 byte.toNat, part.length = 8 := by
    intro part mem
    obtain ⟨byte, _, rfl⟩ := List.mem_map.mp mem
    exact length_bitsOf _ _
  rw [bitsOfBytes, groups_flatten (by decide) each, List.map_map]
  refine (List.map_congr_left fun byte _ => ?_).trans (List.map_id _)
  exact toUInt8_eq (natOfBits_bitsOf_of_lt (byte_lt byte))

/-- The text is read as the bytes that it was made from. -/
theorem decodeText_text (data : List UInt8) : decodeText (text data) = some data := by
  have small : ∀ v ∈ (groups 6 (bitsOfBytes data)).map natOfBits, v < 64 := fun v => group_lt
  have front : (text data).takeWhile (fun c => c ≠ pad) = letters data := by
    have inside : ∀ c ∈ letters data, decide (c ≠ pad) = true := by
      intro c mem
      obtain ⟨v, value, rfl⟩ := List.mem_map.mp mem
      exact decide_eq_true (letter_ne_pad (group_lt value))
    have stops : (List.replicate (missing 4 (letters data).length) pad).takeWhile
        (fun c => c ≠ pad) = [] := by
      rw [List.takeWhile_replicate]
      rfl
    rw [text, List.takeWhile_append_of_pos inside, stops, List.append_nil]
  have back : (text data).drop (letters data).length =
      List.replicate (missing 4 (letters data).length) pad := by
    rw [text, List.drop_left]
  have padded : (text data).length % 4 = 0 := by
    rw [← encode_eq_text, length_encode]
    omega
  have bits : (filled 6 (bitsOfBytes data)).length / 8 * 8 = (bitsOfBytes data).length := by
    rw [length_filled, length_bitsOfBytes]
    unfold missing
    omega
  have zeros : (filled 6 (bitsOfBytes data)).drop (bitsOfBytes data).length =
      List.replicate (missing 6 (bitsOfBytes data).length) false := by
    rw [filled, List.drop_left]
  have bytes : (filled 6 (bitsOfBytes data)).take (bitsOfBytes data).length =
      bitsOfBytes data := by
    rw [filled, List.take_left]
  have wellPadded : (text data).length % 4 = 0 ∧
      (List.replicate (missing 4 (letters data).length) pad).length ≤ 2 ∧
      (List.replicate (missing 4 (letters data).length) pad).all (fun c => c = pad) := by
    refine ⟨padded, ?_, List.all_eq_true.mpr fun c mem => ?_⟩
    · rw [List.length_replicate]
      exact missing_letters_le data
    · exact decide_eq_true (List.eq_of_mem_replicate mem)
  have unset : (List.replicate (missing 6 (bitsOfBytes data).length) false).all
      (fun bit => !bit) := by
    refine List.all_eq_true.mpr fun bit mem => ?_
    rw [List.eq_of_mem_replicate mem]
    rfl
  unfold decodeText
  simp only [front, back, guard, if_pos wellPadded]
  simp only [letters, mapM_number small, Option.bind_eq_bind, Option.bind_some,
    Option.pure_def, flatMap_bitsOf_groups (show 0 < 6 by decide), bits, zeros, bytes,
    if_pos unset, bytes_back]

/-- A letter that has a number is the letter of this number. -/
private theorem letter_number {c : UInt8} {v : Nat} (found : number c = some v) :
    v < 64 ∧ letter v = c := by
  have all : ∀ k : Fin 256, (number (UInt8.ofNat k.val)).all fun v =>
      decide (v < 64 ∧ letter v = UInt8.ofNat k.val) := by decide +kernel
  have here := all ⟨c.toNat, byte_lt c⟩
  rw [UInt8.ofNat_toNat, found] at here
  exact of_decide_eq_true here

private theorem letters_of_mapM {front : List UInt8} {values : List Nat}
    (found : front.mapM number = some values) :
    (∀ v ∈ values, v < 64) ∧ values.map letter = front := by
  induction front generalizing values with
  | nil =>
      cases found
      exact ⟨by simp, rfl⟩
  | cons c front ih =>
      rw [List.mapM_cons, Option.bind_eq_bind, Option.bind_eq_some_iff] at found
      obtain ⟨v, first, found⟩ := found
      rw [Option.bind_eq_bind, Option.bind_eq_some_iff] at found
      obtain ⟨values', others, same⟩ := found
      cases same
      obtain ⟨small, again⟩ := letter_number first
      obtain ⟨smaller, rest⟩ := ih others
      refine ⟨?_, by rw [List.map_cons, again, rest]⟩
      intro w mem
      rcases List.mem_cons.mp mem with rfl | mem
      · exact small
      · exact smaller w mem

/-- Whole bytes have the bits that they are read from. -/
private theorem bits_back {bits : List Bool} (whole : 8 ∣ bits.length) :
    bitsOfBytes ((groups 8 bits).map fun eight => (natOfBits eight).toUInt8) = bits := by
  have each : ∀ eight ∈ groups 8 bits, bitsOf 8 (natOfBits eight).toUInt8.toNat = eight := by
    intro eight mem
    have length := length_of_mem_groups mem
    have small := natOfBits_lt eight
    have back := bitsOf_natOfBits eight
    rw [length] at small back
    have same : (natOfBits eight).toUInt8.toNat = natOfBits eight := UInt8.toNat_ofNat_of_lt small
    rw [same, back]
  have all : (groups 8 bits).map
      ((fun byte : UInt8 => bitsOf 8 byte.toNat) ∘ fun eight => (natOfBits eight).toUInt8) =
        groups 8 bits := (List.map_congr_left each).trans (List.map_id _)
  rw [bitsOfBytes, List.map_map, all, flatten_groups (by decide), filled_of_dvd whole]

private theorem of_guard {p : Prop} [Decidable p] {u : Unit}
    (passed : (guard p : Option Unit) = some u) : p := by
  unfold guard at passed
  split at passed
  · assumption
  · cases passed

private theorem length_flatMap (values : List Nat) :
    (values.flatMap (bitsOf 6)).length = 6 * values.length := by
  induction values with
  | nil => rfl
  | cons v values ih =>
      rw [List.flatMap_cons, List.length_append, length_bitsOf, ih, List.length_cons]
      omega

/-- The letters of whole bytes leave less bits than one letter has. -/
private theorem missing_bytes {m : Nat} (rest : m % 4 ≠ 1) :
    missing 6 (6 * m / 8 * 8) + 6 * m / 8 * 8 = 6 * m := by
  unfold missing
  rcases (show m % 4 = 0 ∨ m % 4 = 2 ∨ m % 4 = 3 by omega) with none | two | three
  · have bytes : 6 * m / 8 = 3 * (m / 4) := by omega
    rw [bytes]
    omega
  · have bytes : 6 * m / 8 = 3 * (m / 4) + 1 := by omega
    rw [bytes]
    omega
  · have bytes : 6 * m / 8 = 3 * (m / 4) + 2 := by omega
    rw [bytes]
    omega

/-- Bits of letters whose last ones are not set are completed bytes. -/
private theorem letters_of_bits {values : List Nat} (small : ∀ v ∈ values, v < 64) {whole : Nat}
    (bytes : 8 ∣ whole) (spare : missing 6 whole + whole = 6 * values.length)
    (unset : ((values.flatMap (bitsOf 6)).drop whole).all fun bit => !bit) :
    letters ((groups 8 ((values.flatMap (bitsOf 6)).take whole)).map fun eight =>
      (natOfBits eight).toUInt8) = values.map letter := by
  have count := length_flatMap values
  have length : ((values.flatMap (bitsOf 6)).take whole).length = whole := by
    rw [List.length_take]
    omega
  have zeros : (values.flatMap (bitsOf 6)).drop whole = List.replicate (missing 6 whole) false := by
    refine List.eq_replicate_iff.mpr ⟨?_, fun bit mem => ?_⟩
    · rw [List.length_drop]
      omega
    · have zero := List.all_eq_true.mp unset bit mem
      rwa [Bool.not_eq_true'] at zero
  have again : filled 6 ((values.flatMap (bitsOf 6)).take whole) = values.flatMap (bitsOf 6) := by
    rw [filled, length, ← zeros, List.take_append_drop]
  have each : ∀ six ∈ values.map (bitsOf 6), six.length = 6 := by
    intro six mem
    obtain ⟨v, _, rfl⟩ := List.mem_map.mp mem
    exact length_bitsOf 6 v
  have numbers : (values.map (bitsOf 6)).map natOfBits = values := by
    rw [List.map_map]
    refine (List.map_congr_left fun v mem => ?_).trans (List.map_id _)
    exact natOfBits_bitsOf_of_lt (small v mem)
  rw [letters, bits_back (length.symm ▸ bytes), ← groups_filled (by decide), again,
    List.flatMap_def, groups_flatten (by decide) each, numbers]

/-- The reader accepts nothing but the text of what it returns. -/
theorem text_of_decodeText {input data : List UInt8} (decoded : decodeText input = some data) :
    input = text data := by
  unfold decodeText at decoded
  dsimp only at decoded
  rw [Option.bind_eq_bind, Option.bind_eq_some_iff] at decoded
  obtain ⟨_, accepted, decoded⟩ := decoded
  rw [Option.bind_eq_bind, Option.bind_eq_some_iff] at decoded
  obtain ⟨values, found, decoded⟩ := decoded
  rw [Option.bind_eq_some_iff] at decoded
  obtain ⟨_, unset, decoded⟩ := decoded
  cases decoded
  obtain ⟨padded, few, only⟩ := of_guard accepted
  obtain ⟨small, same⟩ := letters_of_mapM found
  have parts := List.prefix_iff_eq_append.mp (List.takeWhile_prefix (l := input) fun c => c ≠ pad)
  generalize input.takeWhile (fun c => c ≠ pad) = front at *
  generalize input.drop front.length = padding at *
  have count : values.length = front.length := by rw [← same, List.length_map]
  have length : front.length + padding.length = input.length := by
    rw [← parts, List.length_append]
  have bits : (values.flatMap (bitsOf 6)).length = 6 * values.length := length_flatMap values
  have spare : missing 6 ((values.flatMap (bitsOf 6)).length / 8 * 8) +
      (values.flatMap (bitsOf 6)).length / 8 * 8 = 6 * values.length := by
    rw [bits]
    exact missing_bytes (by omega)
  have pads : padding = List.replicate (missing 4 front.length) pad := by
    refine List.eq_replicate_iff.mpr ⟨?_, fun c mem => ?_⟩
    · unfold missing
      omega
    · exact of_decide_eq_true (List.all_eq_true.mp only c mem)
  have again := letters_of_bits small (Nat.dvd_mul_left 8 _) spare (of_guard unset)
  rw [text, again, same, ← pads, parts]

/-- The texts are what the reader accepts, and each is read as the bytes it was made from. -/
theorem decodeText_eq_some {input data : List UInt8} :
    decodeText input = some data ↔ input = text data := by
  constructor
  · exact text_of_decodeText
  · rintro rfl
    exact decodeText_text data

end Decoding

section Encoder

/-- The encoder reads and asserts nothing wrong and returns the text of its bytes, which reads as
these bytes and as no others. It writes every character, in order, except for a last padding, which
is there from the beginning. -/
theorem encodeChecked_writes_text (data : List UInt8) :
    ∃ out, encodeChecked data = .ok out ∧
      out.result.length = 4 * ((data.length + 2) / 3) ∧
      out.written =
        List.range (4 * ((data.length + 2) / 3) - if data.length % 3 = 0 then 0 else 1) ∧
      out.result = text data ∧
      decodeText out.result = some data ∧
      ∀ other copy, encodeChecked other = .ok copy → copy.result = out.result → other = data := by
  have length : (encode data).length = 4 * ((data.length + 2) / 3) := by
    rw [length_encode, Nat.mul_comm]
  have read : decodeText (encode data) = some data :=
    decodeText_eq_some.mpr (encode_eq_text data)
  refine ⟨_, encodeChecked_eq data, length, ?_, encode_eq_text data, read, ?_⟩
  · rw [length]
  · intro other copy returned same
    rw [encodeChecked_eq] at returned
    cases returned
    have again : decodeText (encode data) = some other :=
      decodeText_eq_some.mpr (same.symm.trans (encode_eq_text other))
    exact Option.some.inj (again.symm.trans read)

/-- One byte: the last of the four characters is never written. -/
theorem one_byte_padding_not_written :
    ∃ out, encodeChecked [0] = .ok out ∧ out.result.length = 4 * ((1 + 2) / 3) ∧
      out.written ≠ List.range (4 * ((1 + 2) / 3)) :=
  ⟨⟨[65, 65, pad, pad], 3, [0, 1, 2]⟩, by decide +kernel, by decide, by decide⟩

end Encoder

end RoqSamples.Import.Base64
