import Mathlib.Data.List.Basic

/-! Reading a list in pages: each query starts behind the last item of the page before it. -/

namespace BacPy.Library

variable {Item : Type*} (key : Item → Nat) (items : List Item)

def itemsFrom : Option Nat → List Item
  | none => items
  | some start => items.filter fun item => start ≤ key item

/-- `items[:count]`, where a negative count leaves out items at the end. -/
def upTo (items : List Item) (count : Int) : List Item :=
  if 0 ≤ count then items.take count.toNat else items.take (items.length - count.natAbs)

/-- One query: at most `count` items from a key on, and whether there are no more. -/
def page (startAt : Option Nat) (count : Int) : List Item × Bool :=
  let filtered := itemsFrom key items startAt
  (upTo filtered count, decide ((filtered.length : Int) ≤ count))

/-- Queries until there are no more items, each from behind the last item returned. There is no
result if they do not come to an end.
-/
def pages (count : Int) : (fuel : Nat) → Option Nat → Option (List Item)
  | 0, _ => none
  | fuel + 1, startAt =>
    let (result, noMore) := page key items startAt count
    if noMore then some result
    else
      let next := (result.getLast?.map fun last => key last + 1).or startAt
      (pages count fuel next).map (result ++ ·)

variable {key items} {startAt : Option Nat} {count : Int}

/-- The last page has all the items that are left. -/
theorem pages_of_noMore (few : ((itemsFrom key items startAt).length : Int) ≤ count) (fuel : Nat)
    : pages key items count (fuel + 1) startAt = some (itemsFrom key items startAt) := by
  have enough : (itemsFrom key items startAt).length ≤ count.toNat := by omega
  have natural : 0 ≤ count := by omega
  simp [pages, page, few, upTo, natural, List.take_of_length_le enough]

/-- Behind a page of items with increasing keys are the items that it does not have. -/
theorem itemsFrom_next {last size}
    (increasing : items.Pairwise fun one other => key one < key other)
    (ended : ((itemsFrom key items startAt).take size).getLast? = some last)
    : itemsFrom key items (some (key last + 1)) = (itemsFrom key items startAt).drop size := by
  obtain ⟨front, whole⟩ := List.getLast?_eq_some_iff.mp ended
  have sublist : (itemsFrom key items startAt).Sublist items := by
    cases startAt with
    | none => exact List.Sublist.refl _
    | some start => exact List.filter_sublist
  have sorted := increasing.sublist sublist
  rw [← List.take_append_drop size (itemsFrom key items startAt), whole] at sorted
  obtain ⟨taken, _, across⟩ := List.pairwise_append.mp sorted
  have before : ∀ item ∈ front ++ [last], key item ≤ key last := by
    intro item member
    rcases List.mem_append.mp member with earlier | here
    · exact Nat.le_of_lt ((List.pairwise_append.mp taken).2.2 item earlier last (by simp))
    · exact Nat.le_of_eq (congrArg key (List.mem_singleton.mp here))
  have behind : ∀ item ∈ (itemsFrom key items startAt).drop size, key last < key item :=
    across last (by simp)
  have started : ∀ start ∈ startAt, start ≤ key last := by
    rintro start rfl
    have member : last ∈ itemsFrom key items (some start) := by
      apply List.mem_of_mem_take (i := size)
      rw [whole]
      simp
    simpa using (List.mem_filter.mp member).2
  have narrowed : itemsFrom key items (some (key last + 1))
      = (itemsFrom key items startAt).filter fun item => key last + 1 ≤ key item := by
    cases startAt with
    | none => rfl
    | some start =>
      have above := started start rfl
      simp only [itemsFrom, List.filter_filter]
      apply List.filter_congr
      intro item _
      rw [Bool.eq_iff_iff, Bool.and_eq_true, decide_eq_true_iff, decide_eq_true_iff]
      omega
  rw [narrowed]
  conv => lhs; rw [← List.take_append_drop size (itemsFrom key items startAt), whole]
  rw [List.filter_append, List.filter_eq_nil_iff.mpr, List.filter_eq_self.mpr, List.nil_append]
  · intro item member
    have := behind item member
    rw [decide_eq_true_iff]
    omega
  · intro item member
    have := before item member
    rw [decide_eq_true_iff]
    omega

/-- Pages of a positive size yield the items from the start on, each of them once, by induction on
the number of items that are left.
-/
theorem exists_pages (increasing : items.Pairwise fun one other => key one < key other)
    (positive : 0 < count) (startAt : Option Nat)
    : ∃ fuel, pages key items count fuel startAt = some (itemsFrom key items startAt) := by
  induction left : (itemsFrom key items startAt).length using Nat.strongRecOn
    generalizing startAt with
  | _ size ih =>
    by_cases few : ((itemsFrom key items startAt).length : Int) ≤ count
    · exact ⟨1, pages_of_noMore few 0⟩
    · have natural : 0 ≤ count := by omega
      have nonempty : (itemsFrom key items startAt).take count.toNat ≠ [] := by
        rw [← List.length_pos_iff, List.length_take]
        omega
      obtain ⟨last, ended⟩ : ∃ last,
          ((itemsFrom key items startAt).take count.toNat).getLast? = some last :=
        ⟨_, List.getLast?_eq_some_getLast nonempty⟩
      have next := itemsFrom_next increasing ended
      obtain ⟨fuel, later⟩ := ih _ (by rw [next, List.length_drop]; omega)
        (some (key last + 1)) rfl
      refine ⟨fuel + 1, ?_⟩
      simp only [pages, page, upTo, natural, if_true, few, decide_false, Bool.false_eq_true,
        if_false, ended, Option.map_some, Option.some_or, later, next, List.take_append_drop]

/-- A count that is not positive yields nothing, by induction on the queries. -/
theorem pages_eq_none (notPositive : count ≤ 0)
    (some : ¬ (count = 0 ∧ itemsFrom key items startAt = [])) (fuel : Nat)
    : pages key items count fuel startAt = none := by
  induction fuel generalizing startAt with
  | zero => rfl
  | succ fuel ih =>
    have more : ¬ ((itemsFrom key items startAt).length : Int) ≤ count := by
      intro few
      have zero : count = 0 := by omega
      exact some ⟨zero, List.length_eq_zero_iff.mp (by omega)⟩
    simp only [pages, page, more, decide_false, Bool.false_eq_true, if_false,
      Option.map_eq_none_iff]
    apply ih
    rintro ⟨rfl, empty⟩
    exact some ⟨rfl, by simpa [upTo] using empty⟩

/-- Reading in pages comes to an end with the items from the start on exactly if the count is
positive, or zero and there is none.
-/
theorem exists_pages_iff (increasing : items.Pairwise fun one other => key one < key other)
    : (∃ fuel, pages key items count fuel startAt = some (itemsFrom key items startAt))
      ↔ 0 < count ∨ count = 0 ∧ itemsFrom key items startAt = [] := by
  constructor
  · rintro ⟨fuel, ended⟩
    by_contra stuck
    rw [not_or] at stuck
    rw [pages_eq_none (by omega) stuck.2 fuel] at ended
    cases ended
  · rintro (positive | ⟨rfl, empty⟩)
    · exact exists_pages increasing positive startAt
    · exact ⟨1, pages_of_noMore (by simp [empty]) 0⟩

end BacPy.Library
