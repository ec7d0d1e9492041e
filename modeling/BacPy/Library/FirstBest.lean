import Mathlib.Order.Lattice

/-! The loop that keeps the best of the items it has seen, and among equals the first one.

Looking at an item may fail, and only items better than the best one so far are looked at.
-/

namespace BacPy.Library.FirstBest

variable {Item Rank Found Failure : Type} [LinearOrder Rank]

/-- Go through the items with a bound that only items of a smaller rank are below. An item that has
something becomes the best one, and its rank the bound.
-/
def search (rank : Item → Rank) (look : Item → Except Failure (Option Found))
    : List Item → Option Rank → Option Found → Except Failure (Option Found)
  | [], _, best => .ok best
  | item :: rest, bound, best =>
    if ∃ most ∈ bound, most ≤ rank item then search rank look rest bound best
    else
      match look item with
      | .error failure => .error failure
      | .ok none => search rank look rest bound best
      | .ok (some found) => search rank look rest (some (rank item)) (some found)

variable {rank : Item → Rank} {look : Item → Except Failure (Option Found)} {items rest : List Item}
  {item : Item} {bound : Option Rank} {best result : Option Found} {found : Found}

def Below (rank : Item → Rank) (bound : Option Rank) (item : Item) : Prop :=
  ∀ most ∈ bound, rank item < most

/-- The item at a place has something to find, no other one that has is of a smaller rank, and
those in front of it are of a larger one.
-/
structure IsFirst (rank : Item → Rank) (look : Item → Except Failure (Option Found))
    (items : List Item) (bound : Option Rank) (found : Found) (place : Nat) (item : Item)
    : Prop where
  there : items[place]? = some item
  has : look item = .ok (some found)
  below : Below rank bound item
  least : ∀ (other : Nat) another something, items[other]? = some another
    → look another = .ok (some something)
    → rank item ≤ rank another ∧ (other < place → rank item < rank another)

def NoneBelow (rank : Item → Rank) (look : Item → Except Failure (Option Found))
    (items : List Item) (bound : Option Rank)
    : Prop :=
  ∀ item ∈ items, ∀ something, look item = .ok (some something) → ¬ Below rank bound item

/-- Looking does not fail at an item that is below the bound and below all items in front of it that
have something.
-/
def Readable (rank : Item → Rank) (look : Item → Except Failure (Option Found))
    (items : List Item) (bound : Option Rank)
    : Prop :=
  ∀ (place : Nat) item, items[place]? = some item → Below rank bound item
    → (∀ other < place, ∀ another something, items[other]? = some another
      → look another = .ok (some something) → rank item < rank another)
    → ∃ seen, look item = .ok seen

-- One more item

theorem Below.lt {other} (below : Below rank bound item) (above : ¬ Below rank bound other)
    : rank item < rank other := by
  simp only [Below, not_forall, not_lt] at above
  obtain ⟨most, member, less⟩ := above
  exact lt_of_lt_of_le (below most member) less

/-- The first best item comes after one that is worse. -/
theorem IsFirst.cons {place chosen other} (first : IsFirst rank look rest bound found place chosen)
    (below : Below rank other chosen)
    (worse : ∀ something, look item = .ok (some something) → rank chosen < rank item)
    : IsFirst rank look (item :: rest) other found (place + 1) chosen := by
  refine ⟨first.there, first.has, below, ?_⟩
  intro other another something there looked
  cases other with
  | zero =>
    obtain rfl : item = another := by simpa using there
    exact ⟨(worse something looked).le, fun _ => worse something looked⟩
  | succ other =>
    have later := first.least other another something there looked
    exact ⟨later.1, fun earlier => later.2 (by omega)⟩

/-- An item in front of others that are not better is the first best one. -/
theorem IsFirst.head (has : look item = .ok (some found)) (below : Below rank bound item)
    (others : NoneBelow rank look rest (some (rank item)))
    : IsFirst rank look (item :: rest) bound found 0 item := by
  refine ⟨rfl, has, below, ?_⟩
  intro other another something there looked
  cases other with
  | zero =>
    obtain rfl : item = another := by simpa using there
    exact ⟨le_refl _, fun earlier => absurd earlier (by omega)⟩
  | succ other =>
    have above := others another (List.mem_of_getElem? there) something looked
    exact ⟨by simpa [Below] using above, fun earlier => absurd earlier (by omega)⟩

/-- What the first best item has is determined. -/
theorem IsFirst.unique {other place place' item'}
    (first : IsFirst rank look items bound found place item)
    (second : IsFirst rank look items bound other place' item')
    : found = other := by
  have forth := first.least place' item' other second.there second.has
  have back := second.least place item found first.there first.has
  rcases Nat.lt_trichotomy place place' with before | same | after
  · exact absurd (back.2 before) forth.1.not_gt
  · subst same
    obtain rfl : item = item' := Option.some.inj (first.there.symm.trans second.there)
    exact Option.some.inj (Except.ok.inj (first.has.symm.trans second.has))
  · exact absurd (forth.2 after) back.1.not_gt

theorem NoneBelow.not_first {place} (none_ : NoneBelow rank look items bound)
    (first : IsFirst rank look items bound found place item)
    : False :=
  none_ item (List.mem_of_getElem? first.there) found first.has first.below

/-- The items after a worse one are read under the same bound. -/
theorem Readable.tail (readable : Readable rank look (item :: rest) bound)
    (nothing : ∀ something, look item = .ok (some something) → ¬ Below rank bound item)
    : Readable rank look rest bound := by
  intro place another there below smaller
  apply readable (place + 1) another there below
  intro other earlier before something there' looked
  cases other with
  | zero =>
    obtain rfl : item = before := by simpa using there'
    exact below.lt (nothing something looked)
  | succ other => exact smaller other (by omega) before something there' looked

/-- The items after a better one are read under its rank. -/
theorem Readable.improve (readable : Readable rank look (item :: rest) bound)
    (below : Below rank bound item)
    : Readable rank look rest (some (rank item)) := by
  intro place another there less smaller
  have smallest : rank another < rank item := less (rank item) rfl
  apply readable (place + 1) another there fun most member => smallest.trans (below most member)
  intro other earlier before something there' looked
  cases other with
  | zero =>
    obtain rfl : item = before := by simpa using there'
    exact smallest
  | succ other => exact smaller other (by omega) before something there' looked

/-- A worse item that can be read, if it is read, in front of others. -/
theorem Readable.cons_worse (readable : Readable rank look rest bound)
    (seen : Below rank bound item → ∃ seen, look item = .ok seen)
    : Readable rank look (item :: rest) bound := by
  intro place another there below smaller
  cases place with
  | zero =>
    obtain rfl : item = another := by simpa using there
    exact seen below
  | succ place =>
    exact readable place another there below fun other earlier =>
      smaller (other + 1) (by omega)

theorem Readable.cons_better (looked : look item = .ok (some found))
    (readable : Readable rank look rest (some (rank item)))
    : Readable rank look (item :: rest) bound := by
  intro place another there below smaller
  cases place with
  | zero =>
    obtain rfl : item = another := by simpa using there
    exact ⟨_, looked⟩
  | succ place =>
    apply readable place another there
    · intro most member
      cases member
      exact smaller 0 (by omega) item found rfl looked
    · intro other earlier
      exact smaller (other + 1) (by omega)

-- The whole loop

/-- The loop does not fail if the items it looks at can be read, by induction on the items. -/
theorem search_ok (readable : Readable rank look items bound)
    : ∃ result, search rank look items bound best = .ok result := by
  induction items generalizing bound best with
  | nil => exact ⟨best, rfl⟩
  | cons item rest ih =>
    simp only [search]
    by_cases skipped : ∃ most ∈ bound, most ≤ rank item
    · have above : ¬ Below rank bound item := by
        simpa [Below] using skipped
      simp only [if_pos skipped]
      exact ih (readable.tail fun _ _ => above)
    · have below : Below rank bound item := by
        simpa [Below] using skipped
      obtain ⟨seen, looked⟩ := readable 0 item rfl below fun _ earlier => absurd earlier (by omega)
      simp only [if_neg skipped, looked]
      cases seen with
      | none => exact ih (readable.tail fun something has => by simp [looked] at has)
      | some found => exact ih (readable.improve below)

/-- What the loop finds: what the first best item has, or what it started with. -/
structure Outcome (rank : Item → Rank) (look : Item → Except Failure (Option Found))
    (items : List Item) (bound : Option Rank) (best result : Option Found)
    : Prop where
  readable : Readable rank look items bound
  finds : (∃ found place item, result = some found ∧ IsFirst rank look items bound found place item)
    ∨ (result = best ∧ NoneBelow rank look items bound)

theorem Outcome.cons_worse (outcome : Outcome rank look rest bound best result)
    (seen : Below rank bound item → ∃ seen, look item = .ok seen)
    (nothing : ∀ something, look item = .ok (some something) → ¬ Below rank bound item)
    : Outcome rank look (item :: rest) bound best result where
  readable := outcome.readable.cons_worse seen
  finds := by
    rcases outcome.finds with ⟨found, place, chosen, same, first⟩ | ⟨same, others⟩
    · exact .inl ⟨found, place + 1, chosen, same, first.cons first.below fun something looked =>
        first.below.lt (nothing something looked)⟩
    · refine .inr ⟨same, ?_⟩
      intro another member something looked
      rcases List.mem_cons.mp member with rfl | later
      · exact nothing something looked
      · exact others another later something looked

/-- An item that becomes the best one, in front of the others. -/
theorem Outcome.cons_better
    (outcome : Outcome rank look rest (some (rank item)) (some found) result)
    (below : Below rank bound item) (looked : look item = .ok (some found))
    : Outcome rank look (item :: rest) bound best result where
  readable := outcome.readable.cons_better looked
  finds := by
    rcases outcome.finds with ⟨other, place, chosen, same, first⟩ | ⟨same, others⟩
    · have smaller : rank chosen < rank item := first.below (rank item) rfl
      exact .inl ⟨other, place + 1, chosen, same,
        first.cons (fun most member => smaller.trans (below most member)) fun _ _ => smaller⟩
    · exact .inl ⟨found, 0, item, same, .head looked below others⟩

/-- A loop that does not fail finds the first best item, by induction on the items. -/
theorem outcome_of_search (searched : search rank look items bound best = .ok result)
    : Outcome rank look items bound best result := by
  induction items generalizing bound best with
  | nil =>
    refine ⟨fun place item there => by simp at there, .inr ⟨(Except.ok.inj searched).symm, ?_⟩⟩
    intro item member
    simp at member
  | cons item rest ih =>
    simp only [search] at searched
    by_cases skipped : ∃ most ∈ bound, most ≤ rank item
    · have above : ¬ Below rank bound item := by
        simpa [Below] using skipped
      rw [if_pos skipped] at searched
      exact (ih searched).cons_worse (fun below => absurd below above) fun _ _ => above
    · have below : Below rank bound item := by
        simpa [Below] using skipped
      rw [if_neg skipped] at searched
      cases looked : look item with
      | error failure => simp [looked] at searched
      | ok seen =>
        rw [looked] at searched
        cases seen with
        | none =>
          exact (ih searched).cons_worse (fun _ => ⟨_, looked⟩) fun something has => by
            simp [looked] at has
        | some found => exact (ih searched).cons_better below looked

end BacPy.Library.FirstBest
