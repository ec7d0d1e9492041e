import Mathlib.Data.List.Basic

/-! One direction of a network: which of the messages under way may arrive next. -/

namespace BacPy.Library

/-- What a network does to the messages of one direction. -/
inductive Discipline where
  /-- everything ever sent may arrive at any time, any number of times, or never -/
  | hostile
  /-- messages arrive once, in the order in which they were sent -/
  | fifo

namespace Discipline

variable {Message : Type*}

/-- The message that arrives when the network picks a position, and what stays under way. -/
def take : Discipline → List Message → Nat → Option (Message × List Message)
  | .hostile, messages, index => messages[index]?.map fun message => (message, messages)
  | .fifo, message :: rest, 0 => some (message, rest)
  | .fifo, _, _ => none

variable {discipline : Discipline} {messages rest : List Message} {index : Nat}
  {message other : Message}

/-- Only messages under way arrive. -/
theorem mem_of_take (taken : discipline.take messages index = some (message, rest))
    : message ∈ messages := by
  unfold take at taken
  split at taken
  · obtain ⟨found, present, same⟩ := Option.map_eq_some_iff.mp taken
    cases same
    exact List.mem_of_getElem? present
  · cases taken
    exact List.mem_cons_self
  · cases taken

/-- What stays under way was under way before. -/
theorem mem_of_mem_rest (taken : discipline.take messages index = some (message, rest))
    (member : other ∈ rest)
    : other ∈ messages := by
  unfold take at taken
  split at taken
  · obtain ⟨found, present, same⟩ := Option.map_eq_some_iff.mp taken
    cases same
    exact member
  · cases taken
    exact List.mem_cons_of_mem _ member
  · cases taken

end Discipline

end BacPy.Library
