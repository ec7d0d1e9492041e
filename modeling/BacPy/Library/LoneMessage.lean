import Mathlib.Data.List.Perm.Basic

/-! A network in which one message in flight matters, and all others are harmless. -/

namespace BacPy.Library

variable {Message : Type*} {special harmless : Message → Prop} {inFlight sent : List Message}
  {message : Message}

/-- Of the messages in flight exactly one is special; it may be anywhere. -/
def Lone (special harmless : Message → Prop) (inFlight : List Message) : Prop :=
  ∃ message rest, inFlight.Perm (message :: rest) ∧ special message ∧ ∀ other ∈ rest, harmless other

namespace Lone

/-- A message among harmless ones. -/
theorem of_append (others : ∀ other ∈ inFlight, harmless other) (matters : special message)
    : Lone special harmless (inFlight ++ [message]) :=
  ⟨message, inFlight, List.perm_append_singleton message inFlight, matters, others⟩

/-- One message for each of several nodes, where that for one of them is special. -/
theorem of_map {Node : Type*} {nodes : List Node} {lead : Node} {send : Node → Message}
    (nodup : nodes.Nodup) (member : lead ∈ nodes) (matters : special (send lead))
    (others : ∀ node ∈ nodes, node ≠ lead → harmless (send node))
    : Lone special harmless (nodes.map send) := by
  obtain ⟨before, after, rfl⟩ := List.append_of_mem member
  have moved : (before ++ lead :: after).Perm (lead :: (before ++ after)) := List.perm_middle
  have once := (List.nodup_cons.mp (moved.nodup nodup)).1
  refine ⟨send lead, (before ++ after).map send, moved.map send, matters, fun other sent => ?_⟩
  obtain ⟨node, listed, rfl⟩ := List.mem_map.mp sent
  exact others node (moved.mem_iff.mpr (List.mem_cons_of_mem _ listed)) fun same =>
    once (same ▸ listed)

theorem append (lone : Lone special harmless inFlight) (others : ∀ other ∈ sent, harmless other)
    : Lone special harmless (inFlight ++ sent) := by
  obtain ⟨message, rest, same, matters, before⟩ := lone
  refine ⟨message, rest ++ sent, same.append_right sent, matters, fun other member => ?_⟩
  exact (List.mem_append.mp member).elim (before other) (others other)

theorem ne_nil (lone : Lone special harmless inFlight) : inFlight ≠ [] := by
  obtain ⟨message, rest, same, -, -⟩ := lone
  rintro rfl
  exact absurd same.length_eq (by simp)

/-- The message that is taken out is the special one, and all that is left is harmless; or it is a
harmless one, and the special one is left.
-/
theorem taken (lone : Lone special harmless inFlight) {index}
    (there : inFlight[index]? = some message)
    : (special message ∧ ∀ other ∈ inFlight.eraseIdx index, harmless other)
      ∨ (harmless message ∧ Lone special harmless (inFlight.eraseIdx index)) := by
  obtain ⟨lead, rest, same, matters, others⟩ := lone
  obtain ⟨inside, rfl⟩ := List.getElem?_eq_some_iff.mp there
  have split := (List.getElem_cons_eraseIdx_perm inside).trans same
  rcases List.mem_cons.mp (split.subset List.mem_cons_self) with found | found
  · rw [found] at split ⊢
    exact .inl ⟨matters, fun other member => others other (split.cons_inv.subset member)⟩
  · obtain ⟨before, after, parts⟩ := List.append_of_mem found
    -- The special message is moved behind the one that is taken out.
    have moved : rest.Perm (inFlight[index] :: (before ++ after)) :=
      parts ▸ List.perm_middle
    have left := (split.trans ((moved.cons lead).trans (List.Perm.swap _ _ _))).cons_inv
    refine .inr ⟨others _ found, lead, before ++ after, left, matters, fun other member => ?_⟩
    exact others other (moved.mem_iff.mpr (List.mem_cons_of_mem _ member))

end Lone

end BacPy.Library
