import Mathlib.Data.List.Basic

/-! Patterns with groups, as regular expressions have them. All ways to match a part of a text are
tried in their order, and the first one that takes the whole text counts. Which ways there are does
not depend on their order: it is a relation between patterns, texts and what their groups have kept.
-/

namespace BacPy.Library

/-- A pattern: a symbol of a class, patterns in a row or in the order of preference, as many
repetitions as possible, and a group that keeps what it has matched.
-/
inductive Pattern (Symbol : Type) where
  | nothing
  | one (allowed : Symbol → Bool)
  | seq (first rest : Pattern Symbol)
  | alt (first other : Pattern Symbol)
  | many (item : Pattern Symbol)
  | group (number : Nat) (inner : Pattern Symbol)

/-- What the groups of a pattern have kept. -/
abbrev Captures (Symbol : Type) : Type := List (Nat × List Symbol)

/-- What a group has kept last. -/
def Captures.get {Symbol : Type} (captures : Captures Symbol) (number : Nat)
    : Option (List Symbol) :=
  ((captures.filter fun kept => kept.1 = number).getLast?).map Prod.snd

namespace Pattern

variable {Symbol : Type} {pattern first other item inner : Pattern Symbol}
  {text part rest : List Symbol} {captures : Captures Symbol} {allowed : Symbol → Bool}

def literal [DecidableEq Symbol] (symbol : Symbol) : Pattern Symbol := one fun other => other = symbol

/-- One or more. -/
def plus (item : Pattern Symbol) : Pattern Symbol := seq item (many item)

/-- One, if possible. -/
def opt (item : Pattern Symbol) : Pattern Symbol := alt item nothing

-- Matching

/-- As many rounds as possible, each of which takes a part of the text. -/
def rounds (ways : List Symbol → List (Captures Symbol × List Symbol))
    : Nat → List Symbol → List (Captures Symbol × List Symbol)
  | 0, text => [([], text)]
  | fuel + 1, text =>
    ((ways text).filter fun way => way.2.length < text.length).flatMap (fun way =>
      (rounds ways fuel way.2).map fun later => (way.1 ++ later.1, later.2)) ++ [([], text)]

/-- The ways to match a beginning of the text, in the order in which they are tried: what the groups
have kept, and the rest of the text.
-/
def ways : Pattern Symbol → List Symbol → List (Captures Symbol × List Symbol)
  | nothing, text => [([], text)]
  | one _, [] => []
  | one allowed, symbol :: rest => if allowed symbol then [([], rest)] else []
  | seq first rest, text =>
    (ways first text).flatMap fun way =>
      (ways rest way.2).map fun later => (way.1 ++ later.1, later.2)
  | alt first other, text => ways first text ++ ways other text
  | many item, text => rounds (ways item) text.length text
  | group number inner, text =>
    (ways inner text).map fun way =>
      ((number, text.take (text.length - way.2.length)) :: way.1, way.2)

/-- What the groups have kept where the pattern matches the whole text first. -/
def fullMatch (pattern : Pattern Symbol) (text : List Symbol) : Option (Captures Symbol) :=
  (pattern.ways text).findSome? fun way => if way.2.isEmpty then some way.1 else none

/-- The pattern can match the whole text, with these captures. -/
inductive Matches : Pattern Symbol → List Symbol → Captures Symbol → Prop where
  | nothing : Matches nothing [] []
  | one {allowed : Symbol → Bool} {symbol : Symbol} (is : allowed symbol)
      : Matches (one allowed) [symbol] []
  | seq {first rest : Pattern Symbol} {part later : List Symbol} {kept more : Captures Symbol}
      (before : Matches first part kept) (behind : Matches rest later more)
      : Matches (seq first rest) (part ++ later) (kept ++ more)
  | first {first other : Pattern Symbol} {text : List Symbol} {kept : Captures Symbol}
      (matched : Matches first text kept)
      : Matches (alt first other) text kept
  | other {first other : Pattern Symbol} {text : List Symbol} {kept : Captures Symbol}
      (matched : Matches other text kept)
      : Matches (alt first other) text kept
  | done {item : Pattern Symbol} : Matches (many item) [] []
  | round {item : Pattern Symbol} {part later : List Symbol} {kept more : Captures Symbol}
      (something : part ≠ []) (before : Matches item part kept)
      (behind : Matches (many item) later more)
      : Matches (many item) (part ++ later) (kept ++ more)
  | group {number : Nat} {inner : Pattern Symbol} {text : List Symbol} {kept : Captures Symbol}
      (matched : Matches inner text kept)
      : Matches (group number inner) text ((number, text) :: kept)

-- Inversion

theorem matches_nothing_iff : Matches nothing text captures ↔ text = [] ∧ captures = [] := by
  constructor
  · intro matched
    cases matched with
    | nothing => exact ⟨rfl, rfl⟩
  · rintro ⟨rfl, rfl⟩
    exact .nothing

theorem matches_one_iff
    : Matches (one allowed) text captures
      ↔ ∃ symbol, allowed symbol ∧ text = [symbol] ∧ captures = [] := by
  constructor
  · intro matched
    cases matched with
    | one is => exact ⟨_, is, rfl, rfl⟩
  · rintro ⟨symbol, is, rfl, rfl⟩
    exact .one is

theorem matches_literal_iff [DecidableEq Symbol] {symbol}
    : Matches (literal symbol) text captures ↔ text = [symbol] ∧ captures = [] := by
  rw [literal, matches_one_iff]
  simp

theorem matches_seq_iff
    : Matches (seq first other) text captures
      ↔ ∃ part later kept more, text = part ++ later ∧ captures = kept ++ more
        ∧ Matches first part kept ∧ Matches other later more := by
  constructor
  · intro matched
    cases matched with
    | seq before behind => exact ⟨_, _, _, _, rfl, rfl, before, behind⟩
  · rintro ⟨part, later, kept, more, rfl, rfl, before, behind⟩
    exact .seq before behind

theorem matches_alt_iff
    : Matches (alt first other) text captures
      ↔ Matches first text captures ∨ Matches other text captures := by
  constructor
  · intro matched
    cases matched with
    | first matched => exact Or.inl matched
    | other matched => exact Or.inr matched
  · rintro (matched | matched)
    · exact .first matched
    · exact .other matched

theorem matches_opt_iff
    : Matches (opt item) text captures ↔ Matches item text captures ∨ text = [] ∧ captures = [] := by
  rw [opt, matches_alt_iff, matches_nothing_iff]

theorem matches_many_iff
    : Matches (many item) text captures
      ↔ text = [] ∧ captures = []
        ∨ ∃ part later kept more, part ≠ [] ∧ text = part ++ later ∧ captures = kept ++ more
          ∧ Matches item part kept ∧ Matches (many item) later more := by
  constructor
  · intro matched
    cases matched with
    | done => exact Or.inl ⟨rfl, rfl⟩
    | round something before behind =>
      exact Or.inr ⟨_, _, _, _, something, rfl, rfl, before, behind⟩
  · rintro (⟨rfl, rfl⟩ | ⟨part, later, kept, more, something, rfl, rfl, before, behind⟩)
    · exact .done
    · exact .round something before behind

theorem matches_group_iff {number}
    : Matches (group number inner) text captures
      ↔ ∃ kept, captures = (number, text) :: kept ∧ Matches inner text kept := by
  constructor
  · intro matched
    cases matched with
    | group matched => exact ⟨_, rfl, matched⟩
  · rintro ⟨kept, rfl, matched⟩
    exact .group matched

/-- Repetitions of a symbol class are the texts of that class. -/
theorem matches_many_one_iff
    : Matches (many (one allowed)) text captures
      ↔ (∀ symbol ∈ text, allowed symbol) ∧ captures = [] := by
  induction text generalizing captures with
  | nil =>
    rw [matches_many_iff]
    constructor
    · rintro (⟨_, rfl⟩ | ⟨part, later, _, _, something, same, _⟩)
      · exact ⟨fun _ member => absurd member List.not_mem_nil, rfl⟩
      · exact absurd (List.append_eq_nil_iff.mp same.symm).1 something
    · rintro ⟨_, rfl⟩
      exact Or.inl ⟨rfl, rfl⟩
  | cons symbol text ih =>
    rw [matches_many_iff]
    constructor
    · rintro (⟨same, _⟩ | ⟨part, later, kept, more, _, same, rfl, before, behind⟩)
      · cases same
      · obtain ⟨single, is, rfl, rfl⟩ := matches_one_iff.mp before
        obtain ⟨rfl, rfl⟩ := List.cons.inj same
        obtain ⟨others, rfl⟩ := ih.mp behind
        exact ⟨List.forall_mem_cons.mpr ⟨is, others⟩, rfl⟩
    · rintro ⟨all, rfl⟩
      obtain ⟨is, others⟩ := List.forall_mem_cons.mp all
      exact Or.inr ⟨[symbol], text, [], [], List.cons_ne_nil _ _, rfl, rfl,
        matches_one_iff.mpr ⟨symbol, is, rfl, rfl⟩, ih.mpr ⟨others, rfl⟩⟩

/-- One or more of a symbol class are the texts of that class with something in them. -/
theorem matches_plus_one_iff
    : Matches (plus (one allowed)) text captures
      ↔ text ≠ [] ∧ (∀ symbol ∈ text, allowed symbol) ∧ captures = [] := by
  rw [plus, matches_seq_iff]
  constructor
  · rintro ⟨part, later, kept, more, rfl, rfl, before, behind⟩
    obtain ⟨symbol, is, rfl, rfl⟩ := matches_one_iff.mp before
    obtain ⟨others, rfl⟩ := matches_many_one_iff.mp behind
    exact ⟨List.cons_ne_nil _ _, List.forall_mem_cons.mpr ⟨is, others⟩, rfl⟩
  · rintro ⟨something, all, rfl⟩
    obtain ⟨symbol, others, rfl⟩ := List.exists_cons_of_ne_nil something
    obtain ⟨is, all⟩ := List.forall_mem_cons.mp all
    exact ⟨[symbol], others, [], [], rfl, rfl, matches_one_iff.mpr ⟨symbol, is, rfl, rfl⟩,
      matches_many_one_iff.mpr ⟨all, rfl⟩⟩

-- The ways are the matches

/-- The rounds that can be made are the repetitions, if there are rounds enough for the text. -/
theorem mem_rounds {ways}
    (found : ∀ text captures rest, (captures, rest) ∈ ways text
      ↔ ∃ part, text = part ++ rest ∧ Matches item part captures) (fuel : Nat) (text : List Symbol)
    (enough : text.length ≤ fuel) (captures) (rest : List Symbol)
    : (captures, rest) ∈ rounds ways fuel text
      ↔ ∃ part, text = part ++ rest ∧ Matches (many item) part captures := by
  induction fuel generalizing text captures with
  | zero =>
    obtain rfl := List.length_eq_zero_iff.mp (Nat.le_zero.mp enough)
    rw [rounds, List.mem_singleton]
    constructor
    · intro same
      obtain ⟨rfl, rfl⟩ := Prod.mk.inj same
      exact ⟨[], rfl, .done⟩
    · rintro ⟨part, same, matched⟩
      obtain ⟨rfl, rfl⟩ := List.append_eq_nil_iff.mp same.symm
      obtain ⟨_, rfl⟩ | ⟨part, later, _, _, something, same, _⟩ := matches_many_iff.mp matched
      · rfl
      · exact absurd (List.append_eq_nil_iff.mp same.symm).1 something
  | succ fuel ih =>
    rw [rounds, List.mem_append, List.mem_singleton]
    constructor
    · rintro (again | same)
      · obtain ⟨⟨kept, behind⟩, way, again⟩ := List.mem_flatMap.mp again
        obtain ⟨way, progress⟩ := List.mem_filter.mp way
        obtain ⟨⟨more, last⟩, later, same⟩ := List.mem_map.mp again
        obtain ⟨rfl, rfl⟩ := Prod.mk.inj same
        obtain ⟨part, rfl, before⟩ := (found _ _ _).mp way
        have shorter : behind.length < (part ++ behind).length := of_decide_eq_true progress
        obtain ⟨others, rfl, after⟩ := (ih behind (by omega) more).mp later
        refine ⟨part ++ others, (List.append_assoc ..).symm, .round ?_ before after⟩
        rintro rfl
        exact absurd shorter (Nat.lt_irrefl _)
      · obtain ⟨rfl, rfl⟩ := Prod.mk.inj same
        exact ⟨[], rfl, .done⟩
    · rintro ⟨part, rfl, matched⟩
      obtain ⟨rfl, rfl⟩ | ⟨part, later, kept, more, something, rfl, rfl, before, behind⟩ :=
        matches_many_iff.mp matched
      · exact Or.inr rfl
      · left
        have size := List.length_pos_iff.mpr something
        simp only [List.length_append] at enough
        refine List.mem_flatMap.mpr ⟨(kept, later ++ rest), List.mem_filter.mpr ⟨?_, ?_⟩, ?_⟩
        · exact (found _ _ _).mpr ⟨part, List.append_assoc .., before⟩
        · refine decide_eq_true ?_
          simp only [List.length_append]
          omega
        · refine List.mem_map.mpr ⟨(more, rest), (ih (later ++ rest) ?_ more).mpr
            ⟨later, rfl, behind⟩, rfl⟩
          rw [List.length_append]
          omega

/-- The ways that are tried are the matches of the beginnings of the text. -/
theorem mem_ways (pattern) (text : List Symbol) (captures) (rest : List Symbol)
    : (captures, rest) ∈ pattern.ways text
      ↔ ∃ part, text = part ++ rest ∧ Matches pattern part captures := by
  induction pattern generalizing text captures rest with
  | nothing =>
    rw [ways, List.mem_singleton]
    simp only [Prod.mk.injEq, matches_nothing_iff]
    constructor
    · rintro ⟨rfl, rfl⟩
      exact ⟨[], rfl, rfl, rfl⟩
    · rintro ⟨part, rfl, rfl, rfl⟩
      exact ⟨rfl, rfl⟩
  | one allowed =>
    simp only [matches_one_iff]
    cases text with
    | nil =>
      constructor
      · exact fun member => absurd member List.not_mem_nil
      · rintro ⟨part, same, symbol, _, rfl, _⟩
        cases same
    | cons symbol text =>
      rw [ways]
      split
      · next is =>
          rw [List.mem_singleton]
          constructor
          · intro same
            obtain ⟨rfl, rfl⟩ := Prod.mk.inj same
            exact ⟨[symbol], rfl, symbol, is, rfl, rfl⟩
          · rintro ⟨part, same, other, _, rfl, rfl⟩
            rw [(List.cons.inj same).2]
            rfl
      · next isNot =>
          constructor
          · exact fun member => absurd member List.not_mem_nil
          · rintro ⟨part, same, other, is, rfl, _⟩
            obtain ⟨rfl, _⟩ := List.cons.inj same
            exact absurd is isNot
  | seq first other firstIh otherIh =>
    rw [ways, List.mem_flatMap]
    constructor
    · rintro ⟨⟨kept, behind⟩, way, further⟩
      obtain ⟨⟨more, last⟩, later, same⟩ := List.mem_map.mp further
      obtain ⟨rfl, rfl⟩ := Prod.mk.inj same
      obtain ⟨part, rfl, before⟩ := (firstIh _ _ _).mp way
      obtain ⟨others, rfl, after⟩ := (otherIh _ _ _).mp later
      exact ⟨part ++ others, (List.append_assoc ..).symm, .seq before after⟩
    · rintro ⟨_, rfl, matched⟩
      obtain ⟨part, later, kept, more, rfl, rfl, before, behind⟩ := matches_seq_iff.mp matched
      exact ⟨(kept, later ++ rest), (firstIh _ _ _).mpr ⟨part, List.append_assoc .., before⟩,
        List.mem_map.mpr ⟨(more, rest), (otherIh _ _ _).mpr ⟨later, rfl, behind⟩, rfl⟩⟩
  | alt first other firstIh otherIh =>
    rw [ways, List.mem_append, firstIh, otherIh]
    constructor
    · rintro (⟨part, rfl, matched⟩ | ⟨part, rfl, matched⟩)
      · exact ⟨part, rfl, .first matched⟩
      · exact ⟨part, rfl, .other matched⟩
    · rintro ⟨part, rfl, matched⟩
      exact (matches_alt_iff.mp matched).imp (fun matched => ⟨part, rfl, matched⟩)
        fun matched => ⟨part, rfl, matched⟩
  | many item ih => exact mem_rounds ih text.length text (Nat.le_refl _) captures rest
  | group number inner ih =>
    rw [ways, List.mem_map]
    constructor
    · rintro ⟨⟨kept, behind⟩, way, same⟩
      obtain ⟨rfl, rfl⟩ := Prod.mk.inj same
      obtain ⟨part, rfl, matched⟩ := (ih _ _ _).mp way
      refine ⟨part, rfl, ?_⟩
      rw [List.length_append, Nat.add_sub_cancel, List.take_left]
      exact .group matched
    · rintro ⟨part, rfl, matched⟩
      obtain ⟨kept, rfl, inside⟩ := matches_group_iff.mp matched
      refine ⟨(kept, rest), (ih _ _ _).mpr ⟨part, rfl, inside⟩, ?_⟩
      rw [List.length_append, Nat.add_sub_cancel, List.take_left]

theorem matches_of_fullMatch (found : pattern.fullMatch text = some captures)
    : Matches pattern text captures := by
  obtain ⟨⟨kept, rest⟩, way, complete⟩ := List.exists_of_findSome?_eq_some found
  dsimp only at complete
  split at complete
  · next nothing =>
      obtain rfl := List.isEmpty_iff.mp nothing
      cases complete
      obtain ⟨part, rfl, matched⟩ := (mem_ways _ _ _ _).mp way
      rw [List.append_nil]
      exact matched
  · cases complete

theorem fullMatch_eq_none_iff
    : pattern.fullMatch text = none ↔ ∀ captures, ¬ Matches pattern text captures := by
  constructor
  · intro none captures matched
    have way := (mem_ways pattern text captures []).mpr ⟨text, (List.append_nil _).symm, matched⟩
    exact absurd (List.findSome?_eq_none_iff.mp none _ way) (by simp)
  · intro none
    cases found : pattern.fullMatch text with
    | none => rfl
    | some captures => exact absurd (matches_of_fullMatch found) (none captures)

/-- The only match is found. -/
theorem fullMatch_eq_some (matched : Matches pattern text captures)
    (unique : ∀ others, Matches pattern text others → others = captures)
    : pattern.fullMatch text = some captures := by
  cases found : pattern.fullMatch text with
  | none => exact absurd matched (fullMatch_eq_none_iff.mp found captures)
  | some others => rw [unique others (matches_of_fullMatch found)]

-- What a pattern says of its texts

/-- Every symbol that the pattern allows anywhere is as `good` says. -/
def Within (good : Symbol → Prop) : Pattern Symbol → Prop
  | nothing => True
  | one allowed => ∀ symbol, allowed symbol → good symbol
  | seq first rest => first.Within good ∧ rest.Within good
  | alt first other => first.Within good ∧ other.Within good
  | many item => item.Within good
  | group _ inner => inner.Within good

/-- The pattern matches no text without a symbol that is as `good` says. -/
def Mentions (good : Symbol → Prop) : Pattern Symbol → Prop
  | nothing => False
  | one allowed => ∀ symbol, allowed symbol → good symbol
  | seq first rest => first.Mentions good ∨ rest.Mentions good
  | alt first other => first.Mentions good ∧ other.Mentions good
  | many _ => False
  | group _ inner => inner.Mentions good

theorem Matches.within {good} (matched : Matches pattern text captures)
    (within : pattern.Within good)
    : ∀ symbol ∈ text, good symbol := by
  induction matched with
  | nothing => exact fun _ member => absurd member List.not_mem_nil
  | one is =>
    intro symbol member
    rw [List.mem_singleton.mp member]
    exact within _ is
  | seq _ _ beforeIh behindIh =>
    exact List.forall_mem_append.mpr ⟨beforeIh within.1, behindIh within.2⟩
  | first _ ih => exact ih within.1
  | other _ ih => exact ih within.2
  | done => exact fun _ member => absurd member List.not_mem_nil
  | round _ _ _ beforeIh behindIh =>
    exact List.forall_mem_append.mpr ⟨beforeIh within, behindIh within⟩
  | group _ ih => exact ih within

theorem Matches.mentions {good} (matched : Matches pattern text captures)
    (mentions : pattern.Mentions good)
    : ∃ symbol ∈ text, good symbol := by
  induction matched with
  | nothing => exact mentions.elim
  | one is => exact ⟨_, List.mem_singleton_self _, mentions _ is⟩
  | seq _ _ beforeIh behindIh =>
    rcases mentions with mentions | mentions
    · obtain ⟨symbol, member, is⟩ := beforeIh mentions
      exact ⟨symbol, List.mem_append_left _ member, is⟩
    · obtain ⟨symbol, member, is⟩ := behindIh mentions
      exact ⟨symbol, List.mem_append_right _ member, is⟩
  | first _ ih => exact ih mentions.1
  | other _ ih => exact ih mentions.2
  | done => exact mentions.elim
  | round _ _ _ _ _ => exact mentions.elim
  | group _ ih => exact ih mentions

def Silent : Pattern Symbol → Prop
  | nothing | one _ => True
  | seq first rest => first.Silent ∧ rest.Silent
  | alt first other => first.Silent ∧ other.Silent
  | many item => item.Silent
  | group _ _ => False

theorem Matches.silent (matched : Matches pattern text captures) (silent : pattern.Silent)
    : captures = [] := by
  induction matched with
  | nothing | one _ | done => rfl
  | seq _ _ beforeIh behindIh => rw [beforeIh silent.1, behindIh silent.2, List.append_nil]
  | first _ ih => exact ih silent.1
  | other _ ih => exact ih silent.2
  | round _ _ _ beforeIh behindIh => rw [beforeIh silent, behindIh silent, List.append_nil]
  | group _ _ => exact silent.elim

/-- Texts without a symbol in front of its first occurrence are told apart by it. -/
theorem split_at_first {separator : Symbol} {before other : List Symbol}
    {behind later : List Symbol} (free : separator ∉ before) (otherFree : separator ∉ other)
    (same : before ++ separator :: behind = other ++ separator :: later)
    : before = other ∧ behind = later := by
  induction before generalizing other with
  | nil =>
    cases other with
    | nil => exact ⟨rfl, (List.cons.inj same).2⟩
    | cons symbol other =>
      rw [(List.cons.inj same).1] at otherFree
      exact absurd (List.mem_cons_self ..) otherFree
  | cons symbol before ih =>
    cases other with
    | nil =>
      rw [← (List.cons.inj same).1] at free
      exact absurd (List.mem_cons_self ..) free
    | cons another other =>
      obtain ⟨rfl, tails⟩ := List.cons.inj same
      obtain ⟨rfl, rfl⟩ := ih (fun member => free (List.mem_cons_of_mem _ member))
        (fun member => otherFree (List.mem_cons_of_mem _ member)) tails
      exact ⟨rfl, rfl⟩

end Pattern

end BacPy.Library
