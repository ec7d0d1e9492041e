import BacPy.Services.ReadPropertyAnswers

/-! `traverse_hierarchy`: a search through the Structured Views of a device, limited in its depth, that
goes down from each of them once.
-/

namespace BacPy

def ObjectType.structuredView : ObjectType := ⟨29⟩

/-- What a traversal has found and which Structured Views it has read. That each was read with so many
levels left, and whether one was passed over though more levels were left, is not kept by the code.
-/
structure Traversal where
  result : List ObjectIdentifier := []
  visited : List (ObjectIdentifier × Nat) := []
  passedOver : Bool := false

namespace Traversal

section Search

variable [JapaneseCodec]

/-- The loop over a subordinate list. -/
def visitAll (below : ObjectIdentifier → Traversal → Except PyException Traversal)
    : List Value → Traversal → Except PyException Traversal
  | [], traversal => .ok traversal
  | .objectIdentifier sub :: rest, traversal => do
      let traversal := { traversal with result := traversal.result ++ [sub] }
      let traversal ←
        if sub.objectType = .structuredView then below sub traversal else .ok traversal
      visitAll below rest traversal
  | _ :: rest, traversal => visitAll below rest traversal

/-- `_traverse_hierarchy_recursive`, with what a read of SUBORDINATE_LIST gives: nothing where it
raises a BACnetError or a time-out.
-/
def traverseRecursive (readSubordinates : ObjectIdentifier → Option Bytes)
    : Nat → ObjectIdentifier → Traversal → Except PyException Traversal
  | 0, _, traversal => .ok traversal
  | depth + 1, node, traversal =>
    match traversal.visited.find? fun entry => entry.1 = node with
    | some entry =>
      .ok { traversal with passedOver := traversal.passedOver || decide (entry.2 < depth + 1) }
    | none =>
      let traversal := { traversal with visited := (node, depth + 1) :: traversal.visited }
      match readSubordinates node with
      | none => .ok traversal
      | some propertyValue => do
          let rawSubordinates ← decodeAllApplicationValues propertyValue
          visitAll (traverseRecursive readSubordinates depth) rawSubordinates traversal

def traverseHierarchy (readSubordinates : ObjectIdentifier → Option Bytes) (root : ObjectIdentifier)
    (maxDepth : Int)
    : Except PyException Traversal :=
  traverseRecursive readSubordinates maxDepth.toNat root {}

omit [JapaneseCodec] in
theorem visitAll_cons {below sub rest} {traversal middle}
    (ran : (if sub.objectType = .structuredView then
        below sub { traversal with result := traversal.result ++ [sub] }
      else .ok { traversal with result := traversal.result ++ [sub] }) = .ok middle)
    : visitAll below (.objectIdentifier sub :: rest) traversal = visitAll below rest middle := by
  rw [visitAll]
  split
  · next view =>
      rw [if_pos view] at ran
      rw [ran]
      rfl
  · next other =>
      rw [if_neg other] at ran
      rw [ran]
      rfl

end Search

-- Graphs

/-- The subordinates of each object, if it can be read. -/
abbrev Graph := ObjectIdentifier → Option (List ObjectIdentifier)

/-- A device with these Structured Views. -/
def serve (graph : Graph) (node : ObjectIdentifier) : Option Bytes :=
  (graph node).bind fun subs => (ApplicationValue.encodings (subs.map .objectIdentifier)).toOption

/-- An object is at the end of a path of so many links at most. -/
inductive Within (graph : Graph) : Nat → ObjectIdentifier → ObjectIdentifier → Prop
  | here {depth node sub} (listed : sub ∈ (graph node).getD []) : Within graph (depth + 1) node sub
  | through {depth node sub object} (listed : sub ∈ (graph node).getD [])
      (view : sub.objectType = .structuredView) (within : Within graph depth sub object)
      : Within graph (depth + 1) node object

/-- A Structured View that is read on the way: the first one, or one that levels are left for. -/
def Opens (graph : Graph) (depth : Nat) (root node : ObjectIdentifier) : Prop :=
  0 < depth ∧ (node = root ∨ node.objectType = .structuredView ∧ Within graph (depth - 1) root node)

theorem decode_serve [JapaneseCodec] {graph} {node subs} (there : graph node = some subs)
    (few : subs.length ≤ maxDecodedValues)
    : ∃ octets, serve graph node = some octets
      ∧ decodeAllApplicationValues octets = .ok (subs.map .objectIdentifier) := by
  have short : ∀ value ∈ subs.map ApplicationValue.objectIdentifier, value.tagLength ≤ 1048576 := by
    intro value member
    obtain ⟨sub, _, rfl⟩ := List.mem_map.mp member
    exact Nat.le_of_ble_eq_true rfl
  obtain ⟨octets, encoded⟩ := ApplicationValue.exists_encodings short
  refine ⟨octets, by simp [serve, there, encoded, Except.toOption], ?_⟩
  refine (ApplicationValue.decodeValuesFrom_encodings [] encoded (Nat.lt_succ_self _)).mpr
    ⟨⟨short, .inr (by simpa using few)⟩, ?_⟩
  rw [List.map_map]
  rfl

-- What a traversal adds

/-- What is read is read completely: its subordinates are found, and the Structured Views among them
were read with all the levels that are left, or more.
-/
def Complete (graph : Graph) (traversal : Traversal) (entry : ObjectIdentifier × Nat) : Prop :=
  ∀ sub ∈ (graph entry.1).getD [], sub ∈ traversal.result
    ∧ (sub.objectType = .structuredView → 1 < entry.2 →
        ∃ levels, entry.2 ≤ levels + 1 ∧ (sub, levels) ∈ traversal.visited)

/-- A traversal goes on; unless it passes over something, it reads completely what it reads. -/
structure Extends (graph : Graph) (before after : Traversal) : Prop where
  result : before.result ⊆ after.result
  visited : before.visited ⊆ after.visited
  passedOver : after.passedOver = false → before.passedOver = false
  complete : after.passedOver = false →
    ∀ entry ∈ after.visited, entry ∈ before.visited ∨ Complete graph after entry

variable {graph : Graph} {before middle after : Traversal}

theorem Complete.mono {entry} (complete : Complete graph before entry)
    (result : before.result ⊆ after.result) (visited : before.visited ⊆ after.visited)
    : Complete graph after entry := by
  intro sub listed
  obtain ⟨found, deeper⟩ := complete sub listed
  refine ⟨result found, fun view left => ?_⟩
  obtain ⟨levels, enough, read⟩ := deeper view left
  exact ⟨levels, enough, visited read⟩

theorem Extends.refl (graph : Graph) (traversal : Traversal) : Extends graph traversal traversal :=
  ⟨fun _ => id, fun _ => id, id, fun _ _ => .inl⟩

theorem Extends.trans (first : Extends graph before middle) (second : Extends graph middle after)
    : Extends graph before after where
  result := List.Subset.trans first.result second.result
  visited := List.Subset.trans first.visited second.visited
  passedOver := fun none => first.passedOver (second.passedOver none)
  complete := by
    intro none entry read
    rcases second.complete none entry read with earlier | complete
    · exact (first.complete (second.passedOver none) entry earlier).imp_right
        fun complete => complete.mono second.result second.visited
    · exact .inr complete

/-- What the traversal from a node adds: what can be reached from it, and the node itself with all the
levels left, or more.
-/
structure Reads (graph : Graph) (depth : Nat) (node : ObjectIdentifier) (before after : Traversal)
    : Prop where
  extends' : Extends graph before after
  sound : ∀ object ∈ after.result, object ∈ before.result ∨ Within graph depth node object
  node : after.passedOver = false → 0 < depth → ∃ levels ≥ depth, (node, levels) ∈ after.visited

/-- The traversal of a list, by induction on it, if the traversal from each of its objects is known. -/
theorem visitAll_reads [JapaneseCodec] {depth readSubordinates} {subs : List ObjectIdentifier}
    (each : ∀ sub ∈ subs, sub.objectType = .structuredView → ∀ before, ∃ after,
      traverseRecursive readSubordinates depth sub before = .ok after
        ∧ Reads graph depth sub before after)
    (before : Traversal)
    : ∃ after, visitAll (traverseRecursive readSubordinates depth) (subs.map .objectIdentifier) before
        = .ok after
      ∧ Extends graph before after
      ∧ (∀ object ∈ after.result, object ∈ before.result
          ∨ ∃ sub ∈ subs, object = sub
              ∨ sub.objectType = .structuredView ∧ Within graph depth sub object)
      ∧ (after.passedOver = false → ∀ sub ∈ subs, sub ∈ after.result
          ∧ (sub.objectType = .structuredView → 0 < depth →
              ∃ levels ≥ depth, (sub, levels) ∈ after.visited)) := by
  induction subs generalizing before with
  | nil => exact ⟨before, rfl, .refl graph before, fun _ => .inl, fun _ _ member => absurd member List.not_mem_nil⟩
  | cons sub rest ih =>
    let found := { before with result := before.result ++ [sub] }
    have grown : Extends graph before found :=
      ⟨List.subset_append_left _ _, fun _ => id, id, fun _ _ => .inl⟩
    have mine : sub ∈ found.result := by simp [found]
    obtain ⟨middle, ran, extends', sound, node⟩ : ∃ middle,
        (if sub.objectType = .structuredView then
          traverseRecursive readSubordinates depth sub found else .ok found) = .ok middle
        ∧ Extends graph found middle
        ∧ (∀ object ∈ middle.result, object ∈ found.result
            ∨ sub.objectType = .structuredView ∧ Within graph depth sub object)
        ∧ (middle.passedOver = false → sub.objectType = .structuredView → 0 < depth →
            ∃ levels ≥ depth, (sub, levels) ∈ middle.visited) := by
      by_cases view : sub.objectType = .structuredView
      · obtain ⟨middle, ran, reads⟩ := each sub List.mem_cons_self view found
        refine ⟨middle, by rw [if_pos view, ran], reads.extends', fun object listed => ?_, ?_⟩
        · exact (reads.sound object listed).imp_right fun within => ⟨view, within⟩
        · exact fun none _ => reads.node none
      · exact ⟨found, if_neg view, .refl graph found, fun _ => .inl, fun _ is => absurd is view⟩
    obtain ⟨after, later, further, soundLater, restComplete⟩ :=
      ih (fun other listed => each other (List.mem_cons_of_mem _ listed)) middle
    refine ⟨after, ?_, grown.trans (extends'.trans further), fun object listed => ?_, ?_⟩
    · rw [List.map_cons, visitAll_cons ran]
      exact later
    · rcases soundLater object listed with old | ⟨other, member, why⟩
      · rcases sound object old with old | through
        · rcases List.mem_append.mp old with old | new
          · exact .inl old
          · exact .inr ⟨sub, List.mem_cons_self, .inl (List.mem_singleton.mp new)⟩
        · exact .inr ⟨sub, List.mem_cons_self, .inr through⟩
      · exact .inr ⟨other, List.mem_cons_of_mem _ member, why⟩
    · intro none
      refine List.forall_mem_cons.mpr ⟨⟨?_, fun view left => ?_⟩, restComplete none⟩
      · exact further.result (extends'.result mine)
      · obtain ⟨levels, enough, read⟩ := node (further.passedOver none) view left
        exact ⟨levels, enough, further.visited read⟩

/-- The traversal from a node, by induction on the depth, if all lists on the way are short enough to
be decoded.
-/
theorem traverseRecursive_reads [JapaneseCodec] {depth root}
    (few : ∀ node, Opens graph depth root node → ((graph node).getD []).length ≤ maxDecodedValues)
    (before : Traversal)
    : ∃ after, traverseRecursive (serve graph) depth root before = .ok after
      ∧ Reads graph depth root before after := by
  induction depth generalizing root before with
  | zero => exact ⟨before, rfl, .refl graph before, fun _ => .inl, fun _ left => absurd left (by decide)⟩
  | succ depth ih =>
    unfold traverseRecursive
    split
    · next entry seen =>
        have same := List.find?_some seen
        have read := List.mem_of_find?_eq_some seen
        refine ⟨_, rfl, ⟨fun _ => id, fun _ => id, ?_, fun _ _ => .inl⟩, fun _ => .inl, ?_⟩
        · exact fun none => (Bool.or_eq_false_iff.mp none).1
        · intro none _
          have enough := of_decide_eq_false (Bool.or_eq_false_iff.mp none).2
          exact ⟨entry.2, Nat.not_lt.mp enough, of_decide_eq_true same ▸ read⟩
    · let started := { before with visited := (root, depth + 1) :: before.visited }
      have short := few root ⟨Nat.succ_pos depth, .inl rfl⟩
      cases listed : graph root with
      | none =>
        have empty : serve graph root = none := by simp [serve, listed]
        simp only [empty]
        refine ⟨started, rfl, ⟨fun _ => id, List.subset_cons_self _ _, id, ?_⟩, fun _ => .inl, ?_⟩
        · intro _ entry read
          rcases List.mem_cons.mp read with rfl | read
          · refine .inr fun sub member => ?_
            simp [listed] at member
          · exact .inl read
        · exact fun _ _ => ⟨depth + 1, Nat.le_refl _, List.mem_cons_self⟩
      | some subs =>
        rw [listed] at short
        obtain ⟨octets, served, decoded⟩ := decode_serve listed short
        have each : ∀ sub ∈ subs, sub.objectType = .structuredView → ∀ before, ∃ after,
            traverseRecursive (serve graph) depth sub before = .ok after
              ∧ Reads graph depth sub before after := by
          intro sub member view before
          refine ih (fun node opened => few node ⟨Nat.succ_pos depth, .inr ?_⟩) before
          obtain ⟨left, rfl | ⟨isView, within⟩⟩ := opened
          · obtain ⟨less, rfl⟩ := Nat.exists_eq_add_of_le' left
            exact ⟨view, .here (by simpa [listed] using member)⟩
          · obtain ⟨less, rfl⟩ := Nat.exists_eq_add_of_le' left
            exact ⟨isView, .through (by simpa [listed] using member) view within⟩
        obtain ⟨after, ran, further, sound, complete⟩ := visitAll_reads each started
        have mine : (root, depth + 1) ∈ after.visited := further.visited List.mem_cons_self
        refine ⟨after, by simp only [served, decoded]; exact ran,
          ⟨further.result, fun _ read => further.visited (List.mem_cons_of_mem _ read),
            further.passedOver, ?_⟩, fun object member => ?_, fun _ _ => ⟨_, Nat.le_refl _, mine⟩⟩
        · intro none entry read
          rcases further.complete none entry read with old | complete
          · rcases List.mem_cons.mp old with rfl | old
            · refine .inr fun sub member => ?_
              obtain ⟨found, deeper⟩ := complete none sub (by simpa [listed] using member)
              refine ⟨found, fun view left => ?_⟩
              obtain ⟨levels, enough, read⟩ := deeper view (Nat.lt_of_succ_lt_succ left)
              exact ⟨levels, Nat.succ_le_succ enough, read⟩
            · exact .inl old
          · exact .inr complete
        · refine (sound object member).imp_right fun ⟨sub, there, why⟩ => ?_
          have there : sub ∈ (graph root).getD [] := by simpa [listed] using there
          rcases why with rfl | ⟨view, within⟩
          · exact .here there
          · exact .through there view within

/-- What is read completely reaches as far as it has levels left, by induction on the path. -/
theorem mem_result_of_within {traversal}
    (complete : ∀ entry ∈ traversal.visited, Complete graph traversal entry) {depth node object}
    (within : Within graph depth node object) {levels} (enough : depth ≤ levels)
    (read : (node, levels) ∈ traversal.visited)
    : object ∈ traversal.result := by
  induction within generalizing levels with
  | here listed => exact (complete _ read _ listed).1
  | @through depth node sub object listed view rest ih =>
    have left : 0 < depth := by cases rest <;> exact Nat.succ_pos _
    obtain ⟨next, more, there⟩ := (complete _ read sub listed).2 view (by dsimp only; omega)
    exact ih (by dsimp only at more; omega) there

/-- A traversal ends with objects that can all be reached in so many links, and with all of them
unless a Structured View was passed over that had been read with fewer levels left.
-/
def Finds [JapaneseCodec] (graph : Graph) (root : ObjectIdentifier) (maxDepth : Int) : Prop :=
  ∃ traversal, traverseHierarchy (serve graph) root maxDepth = .ok traversal
    ∧ (∀ object ∈ traversal.result, Within graph maxDepth.toNat root object)
    ∧ (traversal.passedOver = false →
        ∀ object, object ∈ traversal.result ↔ Within graph maxDepth.toNat root object)

/-- Every graph is searched so, if the lists that are read can be decoded. -/
theorem finds_within [JapaneseCodec] (graph : Graph) (root : ObjectIdentifier) (maxDepth : Int)
    (few : ∀ node, Opens graph maxDepth.toNat root node →
      ((graph node).getD []).length ≤ maxDecodedValues)
    : Finds graph root maxDepth := by
  obtain ⟨after, ran, reads⟩ := traverseRecursive_reads few {}
  have sound : ∀ object ∈ after.result, Within graph maxDepth.toNat root object :=
    fun object member => (reads.sound object member).resolve_left (by simp)
  refine ⟨after, ran, sound, fun none object => ⟨sound object, fun within => ?_⟩⟩
  have left : 0 < maxDepth.toNat := by
    generalize maxDepth.toNat = depth at within
    cases within <;> exact Nat.succ_pos _
  obtain ⟨levels, enough, read⟩ := reads.node none left
  refine mem_result_of_within (fun entry there => ?_) within enough read
  exact (reads.extends'.complete none entry there).resolve_left (by simp)

/-- Four Structured Views, of which the third is below the first and below the second. -/
def shared : Graph := fun node =>
  if node = ⟨.structuredView, 1⟩ then some [⟨.structuredView, 2⟩, ⟨.structuredView, 3⟩]
  else if node = ⟨.structuredView, 2⟩ then some [⟨.structuredView, 3⟩]
  else if node = ⟨.structuredView, 3⟩ then some [⟨.structuredView, 4⟩]
  else if node = ⟨.structuredView, 4⟩ then some [⟨.analogInput, 1⟩]
  else none

/-- In two levels everything is found but the last object. -/
theorem finds_within_two : ∃ _ : JapaneseCodec, Finds shared ⟨.structuredView, 1⟩ 2 := by
  let codec : JapaneseCodec := ⟨fun _ => none⟩
  refine ⟨codec, finds_within shared _ 2 fun node _ => ?_⟩
  unfold shared
  split_ifs <;> decide

/-- The third is read on the long way, with one level left, and not again on the short way. -/
theorem shared_view_cut
    : ∃ _ : JapaneseCodec,
        (traverseHierarchy (serve shared) ⟨.structuredView, 1⟩ 3).map Traversal.result
            = .ok [⟨.structuredView, 2⟩, ⟨.structuredView, 3⟩, ⟨.structuredView, 4⟩,
                ⟨.structuredView, 3⟩]
          ∧ Within shared 3 ⟨.structuredView, 1⟩ ⟨.analogInput, 1⟩ := by
  let codec : JapaneseCodec := ⟨fun _ => none⟩
  refine ⟨codec, by decide +kernel, ?_⟩
  have third : ⟨.structuredView, 3⟩ ∈ (shared ⟨.structuredView, 1⟩).getD [] := by decide
  have fourth : ⟨.structuredView, 4⟩ ∈ (shared ⟨.structuredView, 3⟩).getD [] := by decide
  exact .through third rfl (.through fourth rfl (.here (by decide)))

end Traversal

end BacPy
