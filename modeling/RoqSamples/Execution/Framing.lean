/- Execution/Framing
   digest: A stream of messages that tell where they end is cut into the messages again. -/
import Mathlib.Data.List.Basic

set_option autoImplicit false
set_option relaxedAutoImplicit false

namespace RoqSamples.Execution.Framing

universe u

variable {B : Type u}

/-- Cut a stream into messages; `frame` takes the first message off. -/
def cut (frame : List B → Option (List B × List B)) : Nat → List B → Option (List (List B))
  | _, [] => some []
  | 0, _ :: _ => none
  | fuel + 1, b :: bs =>
      (frame (b :: bs)).bind fun (message, rest) => (cut frame fuel rest).map (message :: ·)

/-- Each message takes at least one element of the stream. -/
def split (frame : List B → Option (List B × List B)) (stream : List B) :
    Option (List (List B)) :=
  cut frame stream.length stream

/-- `frame` finds the end of a message, whatever follows. -/
def Frames (frame : List B → Option (List B × List B)) (message : List B) : Prop :=
  ∀ rest, frame (message ++ rest) = some (message, rest)

private theorem cut_flatten {frame : List B → Option (List B × List B)}
    {messages : List (List B)} (nonempty : ∀ message ∈ messages, message ≠ [])
    (framed : ∀ message ∈ messages, Frames frame message) {fuel : Nat}
    (enough : messages.flatten.length ≤ fuel) :
    cut frame fuel messages.flatten = some messages := by
  induction messages generalizing fuel with
  | nil => simp [cut]
  | cons message messages ih =>
      rw [List.flatten_cons] at enough ⊢
      have first := framed message List.mem_cons_self messages.flatten
      obtain ⟨b, bs, rfl⟩ := List.exists_cons_of_ne_nil (nonempty message List.mem_cons_self)
      rw [List.length_append, List.length_cons] at enough
      cases fuel with
      | zero => omega
      | succ fuel =>
          have later := @ih (fun m mem => nonempty m (List.mem_cons_of_mem _ mem))
            (fun m mem => framed m (List.mem_cons_of_mem _ mem)) fuel (by omega)
          rw [List.cons_append] at first ⊢
          rw [cut, first, Option.bind_some]
          show (cut frame fuel messages.flatten).map _ = _
          rw [later]
          rfl

theorem split_flatten {frame : List B → Option (List B × List B)} {messages : List (List B)}
    (nonempty : ∀ message ∈ messages, message ≠ [])
    (framed : ∀ message ∈ messages, Frames frame message) :
    split frame messages.flatten = some messages :=
  cut_flatten nonempty framed (Nat.le_refl _)

end RoqSamples.Execution.Framing
