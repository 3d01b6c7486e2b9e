/- Import/FileFormat
   digest: The file has the format that its encoding asks for only when the encoding is binary. -/
import RoqSamples.Execution.Framing
import RoqSamples.Import.Base64
import RoqSamples.Import.Processor

set_option autoImplicit false
set_option relaxedAutoImplicit false

namespace RoqSamples.Import.FileFormat

open RoqSamples.Client (uint64)
open RoqSamples.Execution.Framing

/-- The content of a file with the messages, one after the other. -/
def contentOf : Encoding → List (List UInt8) → List UInt8
  | .binary, messages => messages.flatten
  | .base64, messages => (messages.map Base64.encode).flatten

/-- A reader that is told the encoding; `frame` takes the first message off a binary stream. -/
def read (frame : List UInt8 → Option (List UInt8 × List UInt8)) :
    Encoding → List UInt8 → Option (List (List UInt8))
  | .binary, content => split frame content
  | .base64, content => (Base64.decode content).bind (split frame)

section Files

variable {Value : Type} (encoder : Encoder Value)

/-- The messages that the processor has encoded for the values. -/
def messages (p : Processor) (values : List (Value × Int)) : List (List UInt8) :=
  (p.events encoder values).map fun event => (encoder event).bytes

/-- The format of what the processor writes for the values. -/
structure Formatted (p : Processor) (values : List (Value × Int)) : Prop where
  content : (p.processAll encoder values).file = contentOf p.encoding (messages encoder p values)
  readable : ∀ frame, (∀ event, Frames frame (encoder event).bytes) →
    read frame p.encoding (p.processAll encoder values).file = some (messages encoder p values)
  consecutive : ∀ (i : Nat) (event : Event Value), (p.events encoder values)[i]? = some event →
    event.messageInfo.sourceSeqno = i + 1

private theorem nonempty_messages {p : Processor} {values : List (Value × Int)} :
    ∀ message ∈ messages encoder p values, message ≠ [] := by
  intro message mem
  obtain ⟨event, _, rfl⟩ := List.mem_map.mp mem
  exact (encoder event).nonempty

/-- What the processor writes, whatever its encoding. -/
theorem processAll_file (p : Processor) (values : List (Value × Int)) :
    (p.processAll encoder values).file = p.file ++ (messages encoder p values).flatten := by
  induction values generalizing p with
  | nil => simp [Processor.processAll, messages, Processor.events]
  | cons first values ih =>
      obtain ⟨value, timestampUtc⟩ := first
      rw [Processor.processAll, ih, messages, messages, Processor.events, List.map_cons,
        List.flatten_cons, ← List.append_assoc]
      rfl

private theorem events_length (p : Processor) (values : List (Value × Int)) :
    (p.events encoder values).length = values.length := by
  induction values generalizing p with
  | nil => rfl
  | cons first values ih => rw [Processor.events, List.length_cons, ih, List.length_cons]

/-- The sequence numbers are consecutive as far as a `uint64_t` goes. -/
theorem events_seqno {p : Processor} {values : List (Value × Int)} {i : Nat} {event : Event Value}
    (found : (p.events encoder values)[i]? = some event) :
    event.messageInfo.sourceSeqno = uint64 (p.seqno + (i + 1)) := by
  induction values generalizing p i with
  | nil => cases found
  | cons first values ih =>
      obtain ⟨value, timestampUtc⟩ := first
      cases i with
      | zero =>
          cases found
          rfl
      | succ i =>
          have later := ih found
          have counted : (p.process encoder value timestampUtc).seqno = uint64 (p.seqno + 1) := rfl
          rw [later, counted, uint64, uint64, uint64, Nat.mod_add_mod]
          congr 1
          omega

private theorem consecutive_iff {p : Processor} (fresh : p.seqno = 0)
    (values : List (Value × Int)) :
    (∀ (i : Nat) (event : Event Value), (p.events encoder values)[i]? = some event →
      event.messageInfo.sourceSeqno = i + 1) ↔ values.length < 2 ^ 64 := by
  constructor
  · intro consecutive
    by_contra many
    have inside : 2 ^ 64 - 1 < (p.events encoder values).length := by
      rw [events_length]
      omega
    have found := List.getElem?_eq_getElem inside
    have wraps := events_seqno encoder found
    rw [consecutive _ _ found] at wraps
    have small : uint64 (p.seqno + (2 ^ 64 - 1 + 1)) < 2 ^ 64 := Nat.mod_lt _ (by decide)
    omega
  · intro few i event found
    have below : i < values.length := by
      rw [← events_length encoder p]
      exact (List.getElem?_eq_some_iff.mp found).1
    rw [events_seqno encoder found, fresh, Nat.zero_add]
    exact Nat.mod_eq_of_lt (by omega)

/-- The expected content is read as the messages, for both encodings. -/
theorem read_contentOf {frame : List UInt8 → Option (List UInt8 × List UInt8)}
    {sent : List (List UInt8)} (nonempty : ∀ message ∈ sent, message ≠ [])
    (framed : ∀ message ∈ sent, Frames frame message) (encoding : Encoding) :
    read frame encoding (contentOf encoding sent) = some sent := by
  cases encoding with
  | binary => exact split_flatten nonempty framed
  | base64 =>
      rw [contentOf, read, Base64.decode_flatten, Option.bind_some]
      exact split_flatten nonempty framed

private theorem flatten_le_encoded (sent : List (List UInt8)) :
    sent.flatten.length ≤ (sent.map Base64.encode).flatten.length := by
  induction sent with
  | nil => exact Nat.le_refl _
  | cons message sent ih =>
      simp only [List.map_cons, List.flatten_cons, List.length_append, Base64.length_encode]
      omega

/-- The base64 content is longer than the bytes, unless there are none. -/
private theorem base64_ne_bytes {sent : List (List UInt8)} (written : sent ≠ [])
    (nonempty : ∀ message ∈ sent, message ≠ []) :
    sent.flatten ≠ contentOf .base64 sent := by
  intro same
  obtain ⟨message, others, rfl⟩ := List.exists_cons_of_ne_nil written
  have longer := Base64.length_lt_encode (nonempty message List.mem_cons_self)
  have rest := flatten_le_encoded others
  have lengths := congrArg List.length same
  simp only [contentOf, List.map_cons, List.flatten_cons, List.length_append] at lengths
  omega

private theorem content_iff {p : Processor} (fresh : p.file = []) (values : List (Value × Int)) :
    (p.processAll encoder values).file = contentOf p.encoding (messages encoder p values) ↔
      p.encoding = .binary ∨ values = [] := by
  rw [processAll_file, fresh, List.nil_append]
  cases p.encoding with
  | binary => exact iff_of_true rfl (.inl rfl)
  | base64 =>
      cases values with
      | nil => exact iff_of_true rfl (.inr rfl)
      | cons first values =>
          refine iff_of_false (base64_ne_bytes ?_ (nonempty_messages encoder)) (by simp)
          simp [messages, Processor.events]

private theorem new_spec {compare : String → String → Ordering} {encoding path : String}
    {opened : Bool} {p : Processor} (created : Processor.new compare encoding path opened = .ok p) :
    p.seqno = 0 ∧ p.file = [] ∧ (p.encoding = .binary ↔ compare encoding "binary" = .eq) := by
  unfold Processor.new useBase64 at created
  by_cases binary : compare encoding "binary" = .eq
  · cases opened with
    | false => simp [binary] at created
    | true =>
        simp only [binary, if_true] at created
        cases created
        exact ⟨rfl, rfl, by simp [binary]⟩
  · by_cases base64 : compare encoding "base64" = .eq
    · cases opened with
      | false => simp [binary, base64] at created
      | true =>
          simp only [binary, base64, if_true, if_false] at created
          cases created
          exact ⟨rfl, rfl, by simp [binary]⟩
    · simp [binary, base64] at created

/-- The file has the format exactly when the encoding is binary or nothing has been written, and
the sequence numbers have not wrapped around. -/
theorem formatted_iff {compare : String → String → Ordering} {encoding path : String}
    {opened : Bool} {p : Processor} (created : Processor.new compare encoding path opened = .ok p)
    (values : List (Value × Int)) :
    Formatted encoder p values ↔
      (compare encoding "binary" = .eq ∨ values = []) ∧ values.length < 2 ^ 64 := by
  obtain ⟨counter, empty, binary⟩ := new_spec created
  rw [← binary]
  constructor
  · intro formatted
    exact ⟨(content_iff encoder empty values).mp formatted.content,
      (consecutive_iff encoder counter values).mp formatted.consecutive⟩
  · rintro ⟨written, few⟩
    have content := (content_iff encoder empty values).mpr written
    refine ⟨content, fun frame framed => ?_, (consecutive_iff encoder counter values).mpr few⟩
    rw [content]
    refine read_contentOf (nonempty_messages encoder) (fun message mem => ?_) p.encoding
    obtain ⟨event, _, rfl⟩ := List.mem_map.mp mem
    exact framed event

end Files

section Examples

/-- A message is a length and as many bytes, here only the value. -/
private def sizePrefixed : Encoder UInt8 := fun event => ⟨[1, event.value], by simp⟩

private def compareNames (x y : String) : Ordering :=
  if x = y then .eq else if x < y then .lt else .gt

theorem formatted_binary :
    ∃ p, Processor.new compareNames "binary" "my_tmp_file" true = .ok p ∧
      Formatted sizePrefixed p [(7, 1), (8, 2)] := by
  refine ⟨{ encoding := .binary }, rfl, ?_⟩
  exact (@formatted_iff _ sizePrefixed compareNames "binary" "my_tmp_file" true
    { encoding := .binary } rfl [(7, 1), (8, 2)]).mpr ⟨.inl rfl, by decide⟩

/-- The file for base64 holds raw bytes. -/
theorem raw_bytes_for_base64 :
    ¬ ∀ (compare : String → String → Ordering) (encoder : Encoder UInt8)
      (encoding path : String) (p : Processor) (values : List (UInt8 × Int)),
      Processor.new compare encoding path true = .ok p → Formatted encoder p values := by
  intro formatted
  have content := (formatted compareNames sizePrefixed "base64" "my_tmp_file"
    { encoding := .base64 } [(7, 1)] rfl).content
  revert content
  decide

end Examples

end RoqSamples.Import.FileFormat
