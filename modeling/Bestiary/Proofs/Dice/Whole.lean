import Bestiary.Dice.Cup
/-!
# Whole — notations that come to whole totals

A notation is whole if all its numbers are whole and nothing in it divides.  Whatever its dice show, it comes to a whole
total (`Rolled.Whole.total`), its members can be compared, and the only faults in throwing it are those of its dice
(`Notation.Whole.thrown`).  So it is rolled or it is refused as invalid, and never broken (`Cup.roll_not_broken`).
-/
namespace Bestiary.Dice

/-- Whether the operation divides. -/
def Operation.divides : Operation → Bool
  | .div | .floorDiv | .floorMod => true
  | _ => false

theorem Amount.join_whole {op : Operation} (whole : op.divides = false) (a b : Int) :
    ∃ n, Amount.join op (.whole a) (.whole b) = .ok (.whole n) := by
  cases op <;> first | exact ⟨_, rfl⟩ | cases whole

/-- **Numbers are whole and nothing divides.** -/
inductive Notation.Whole : Notation → Prop
  | number (n : Int) : Whole (.number (.whole n))
  | dice (count : Nat) (sides : Sides) (as : List Adjustment) : Whole (.dice count sides as)
  | group {inner : Notation} (as : List Adjustment) : Whole inner → Whole (.group inner as)
  | set {ns : List Notation} (as : List Adjustment) : (∀ n ∈ ns, Whole n) → Whole (.set ns as)
  | signed (negative : Bool) {inner : Notation} : Whole inner → Whole (.signed negative inner)
  | binary {left right : Notation} {op : Operation} : Whole left → op.divides = false → Whole right →
      Whole (.binary left op right)

/-- What a whole notation comes to. -/
inductive Rolled.Whole : Rolled → Prop
  | number (kept : Bool) (n : Int) : Whole (.number kept (.whole n))
  | dice (kept : Bool) (dice : List Die) : Whole (.dice kept dice)
  | group (kept : Bool) {inner : Rolled} : Whole inner → Whole (.group kept inner)
  | set (kept : Bool) {rs : List Rolled} : (∀ r ∈ rs, Whole r) → Whole (.set kept rs)
  | signed (kept negative : Bool) {inner : Rolled} : Whole inner → Whole (.signed kept negative inner)
  | binary (kept : Bool) {left right : Rolled} {op : Operation} : Whole left → op.divides = false → Whole right →
      Whole (.binary kept left op right)

namespace Rolled

theorem sumFrom_whole : ∀ {rs : List Rolled}, (∀ r ∈ rs, ∃ n, r.total = .ok (.whole n)) → ∀ a : Int,
    ∃ n, sumFrom (.whole a) rs = .ok (.whole n)
  | [], _, a => ⟨a, rfl⟩
  | r :: rs, all, a => by
    obtain ⟨b, hb⟩ := all r List.mem_cons_self
    have rest := sumFrom_whole fun x hx => all x (List.mem_cons_of_mem r hx)
    rw [sumFrom]
    by_cases kept : r.kept
    · rw [if_pos kept, hb]
      exact rest (a + b)
    · rw [if_neg kept]
      exact rest a

/-- **Whatever the dice show, the total is whole.** -/
theorem Whole.total {r : Rolled} (whole : r.Whole) : ∃ n, r.total = .ok (.whole n) := by
  induction whole with
  | number kept n => cases kept <;> exact ⟨_, rfl⟩
  | dice kept dice => cases kept <;> exact ⟨_, rfl⟩
  | group kept _ ih =>
    obtain ⟨n, hn⟩ := ih
    cases kept
    · exact ⟨0, rfl⟩
    · exact ⟨n, by rw [Rolled.total, if_pos rfl, hn]⟩
  | set kept _ ih =>
    cases kept
    · exact ⟨0, rfl⟩
    · obtain ⟨n, hn⟩ := sumFrom_whole ih 0
      exact ⟨n, by rw [Rolled.total, if_pos rfl]; exact hn⟩
  | signed kept negative _ ih =>
    obtain ⟨n, hn⟩ := ih
    cases kept
    · exact ⟨0, rfl⟩
    · refine ⟨if negative then -n else n, ?_⟩
      rw [Rolled.total, if_pos rfl, hn]
      cases negative <;> rfl
  | @binary kept left right op _ undivided _ ihl ihr =>
    obtain ⟨a, ha⟩ := ihl
    obtain ⟨b, hb⟩ := ihr
    cases kept
    · exact ⟨0, rfl⟩
    · obtain ⟨n, hn⟩ := Amount.join_whole undivided a b
      refine ⟨n, ?_⟩
      rw [Rolled.total, if_pos rfl, ha, hb]
      exact hn

theorem Whole.setKept {r : Rolled} (whole : r.Whole) (kept : Bool) : (r.setKept kept).Whole := by
  cases whole with
  | number _ n => exact .number kept n
  | dice _ dice => exact .dice kept dice
  | group _ inner => exact .group kept inner
  | set _ members => exact .set kept members
  | signed _ negative inner => exact .signed kept negative inner
  | binary _ left undivided right => exact .binary kept left undivided right

theorem Whole.keepOnly {r : Rolled} (whole : r.Whole) (kept : Kept) : (r.keepOnly kept).Whole := by
  induction whole with
  | number k n => exact .number _ n
  | dice k dice => exact .dice _ _
  | group k _ ih => exact .group k ih
  | @set k rs members _ =>
    refine .set k fun r hr => ?_
    obtain ⟨⟨m, place⟩, hm, rfl⟩ := List.mem_map.1 hr
    exact (members m (List.fst_mem_of_mem_zipIdx hm)).setKept _
  | signed k negative inner _ => exact .signed _ negative inner
  | binary k left undivided right _ _ => exact .binary _ left undivided right

theorem Whole.member {r : Rolled} (whole : r.Whole) (alone : r.members = [(r.kept, r.total)]) :
    ∀ m ∈ r.members, ∃ a, m.2 = .ok a := by
  intro m hm
  rw [alone, List.mem_singleton] at hm
  obtain ⟨n, hn⟩ := whole.total
  subst hm
  exact ⟨_, hn⟩

theorem Whole.members {r : Rolled} (whole : r.Whole) : ∀ m ∈ r.members, ∃ a, m.2 = .ok a := by
  induction whole with
  | dice k dice =>
    intro m hm
    obtain ⟨die, -, rfl⟩ := List.mem_map.1 hm
    exact ⟨_, rfl⟩
  | group k _ ih => exact ih
  | set k members _ =>
    intro m hm
    obtain ⟨r, hr, rfl⟩ := List.mem_map.1 hm
    obtain ⟨n, hn⟩ := (members r hr).total
    exact ⟨_, hn⟩
  | number k n => exact (Whole.number k n).member rfl
  | signed k negative inner _ => exact (Whole.signed k negative inner).member rfl
  | binary k left undivided right _ _ => exact (Whole.binary k left undivided right).member rfl

/-- The members of what is whole can be compared. -/
theorem Whole.keptMembers {r : Rolled} (whole : r.Whole) : ∃ kept, r.keptMembers = .ok kept := by
  have each : ∀ ms : List ((Bool × Except Amount.Flaw Amount) × Nat), (∀ m ∈ ms, ∃ a, m.1.2 = .ok a) →
      ∃ kept, (ms.mapM fun m => do
        let a ← m.1.2
        return (m.2, a)) = Except.ok (ε := Amount.Flaw) kept := by
    intro ms
    induction ms with
    | nil => exact fun _ => ⟨[], rfl⟩
    | cons m ms ih =>
      intro all
      obtain ⟨a, ha⟩ := all m List.mem_cons_self
      obtain ⟨kept, hk⟩ := ih fun x hx => all x (List.mem_cons_of_mem m hx)
      refine ⟨(m.2, a) :: kept, ?_⟩
      rw [List.mapM_cons, hk, ha]
      rfl
  refine each _ fun m hm => ?_
  exact whole.members m.1 (List.fst_mem_of_mem_zipIdx (List.mem_filter.1 hm).1)

theorem Whole.adjust {r : Rolled} (whole : r.Whole) (a : Adjustment) : ∃ s, r.adjust a = .ok s ∧ s.Whole := by
  obtain ⟨kept, hk⟩ := whole.keptMembers
  obtain ⟨kind, selectors⟩ := a
  unfold Rolled.adjust
  rw [hk]
  cases kind with
  | keep => exact ⟨_, rfl, whole.keepOnly _⟩
  | drop => exact ⟨_, rfl, whole.keepOnly _⟩
  | _ => exact ⟨r, rfl, whole⟩

theorem Whole.adjustAll : ∀ (as : List Adjustment) {r : Rolled}, r.Whole → ∃ s, Rolled.adjustAll as r = .ok s ∧ s.Whole
  | [], r, whole => ⟨r, rfl, whole⟩
  | a :: as, r, whole => by
    obtain ⟨s, hs, whole'⟩ := whole.adjust a
    rw [Rolled.adjustAll, hs]
    exact whole'.adjustAll as

end Rolled

/-! ## Throwing -/

/-- A step that answers what `Q` says, or fails for the dice and not for a number. -/
def Throws {α : Type} (d : Act Hand Throw.Fault α) (Q : α → Prop) : Prop :=
  ∀ h, (∃ a, (d.run h).1 = .ok a ∧ Q a) ∨ ∃ fault, (d.run h).1 = .error fault ∧ ∀ flaw, fault ≠ .flaw flaw

namespace Throws

variable {α β : Type} {Q : α → Prop} {R : β → Prop}

theorem pure {a : α} (h : Q a) : Throws (pure a) Q := fun _ => .inl ⟨a, rfl, h⟩

theorem mono {P : α → Prop} {d : Act Hand Throw.Fault α} (h : Throws d P) (more : ∀ a, P a → Q a) : Throws d Q := by
  intro hand
  rcases h hand with ⟨a, run, ha⟩ | failed
  · exact .inl ⟨a, run, more a ha⟩
  · exact .inr failed

theorem bind {d : Act Hand Throw.Fault α} {next : α → Act Hand Throw.Fault β} (first : Throws d Q)
    (second : ∀ a, Q a → Throws (next a) R) : Throws (d >>= next) R := by
  intro h
  rw [Act.run_bind]
  rcases run : d.run h with ⟨fault | a, h'⟩
  · rcases first h with ⟨a, ha, -⟩ | ⟨f, hf, plain⟩
    · rw [run] at ha
      cases ha
    · rw [run] at hf
      cases hf
      exact .inr ⟨fault, rfl, plain⟩
  · rcases first h with ⟨b, hb, hq⟩ | ⟨f, hf, -⟩
    · rw [run] at hb
      cases hb
      exact second a hq h'
    · rw [run] at hf
      cases hf

theorem each {d : α → Act Hand Throw.Fault β} (step : ∀ a, Throws (d a) fun _ => True) : ∀ as : List α,
    Throws (Act.each d as) fun _ => True
  | [] => fun _ => .inl ⟨[], rfl, trivial⟩
  | a :: as => bind (step a) fun _ _ => bind (each step as) fun _ _ => pure trivial

theorem die (sides : Sides) : Throws (Hand.throwDie sides) fun _ => True := by
  intro h
  unfold Hand.throwDie Act.run
  dsimp only
  split
  · exact .inr ⟨_, rfl, nofun⟩
  · split
    · exact .inr ⟨_, rfl, nofun⟩
    · exact .inl ⟨_, rfl, trivial⟩

theorem dice (sides : Sides) : ∀ n : Nat, Throws (Hand.throwDice sides n) fun _ => True
  | 0 => pure trivial
  | n + 1 => bind (die sides) fun _ _ => bind (dice sides n) fun _ _ => pure trivial

theorem rethrow (sides : Sides) (places : List Nat) (dice : List Die) :
    Throws (Die.rethrow sides places dice) fun _ => True := by
  refine each (fun (held, place) => ?_) _
  dsimp only
  split
  · exact bind (die sides) fun _ _ => pure trivial
  · exact pure trivial

theorem rethrowAll (sides : Sides) (selectors : List Selector) : ∀ (fuel : Nat) (dice : List Die),
    Throws (Die.rethrowAll sides selectors fuel dice) fun _ => True
  | 0, _ => pure trivial
  | fuel + 1, dice => by
    unfold Die.rethrowAll
    split
    · exact pure trivial
    · exact bind (rethrow sides _ dice) fun again _ => rethrowAll sides selectors fuel again

theorem explodeAll (sides : Sides) (selectors : List Selector) : ∀ (fuel : Nat) (exploded : List Nat)
    (held : List Die), Throws (Die.explodeAll sides selectors fuel exploded held) fun _ => True
  | 0, _, _ => pure trivial
  | fuel + 1, exploded, held => by
    unfold Die.explodeAll
    split
    · exact pure trivial
    · exact bind (dice sides _) fun further _ => explodeAll sides selectors fuel _ (held ++ further)

theorem bound (least : Bool) (selectors : List Selector) :
    Throws (Act.ofExcept (Die.bound least selectors)) fun _ => True := by
  unfold Die.bound
  split
  · exact pure trivial
  · split
    · exact pure trivial
    · exact fun _ => .inr ⟨_, rfl, nofun⟩

theorem adjust (sides : Sides) (a : Adjustment) (held : List Die) :
    Throws (Die.adjust sides a held) fun _ => True := by
  unfold Die.adjust
  split
  · exact pure trivial
  · exact pure trivial
  · exact rethrowAll sides _ _ held
  · exact rethrow sides _ held
  · split
    · exact pure trivial
    · exact bind (die sides) fun _ _ => pure trivial
  · exact explodeAll sides _ _ _ held
  · exact bind (bound true _) fun _ _ => pure trivial
  · exact bind (bound false _) fun _ _ => pure trivial

theorem adjustAll (sides : Sides) : ∀ (as : List Adjustment) (held : List Die),
    Throws (Die.adjustAll sides as held) fun _ => True
  | [], _ => pure trivial
  | a :: as, held => bind (adjust sides a held) fun again _ => adjustAll sides as again

end Throws

theorem thrownEach_whole : ∀ {ns : List Notation}, (∀ n ∈ ns, Throws n.thrown Rolled.Whole) →
    Throws (Notation.thrownEach ns) fun rs => ∀ r ∈ rs, r.Whole
  | [], _ => Throws.pure nofun
  | n :: ns, all => by
    rw [Notation.thrownEach]
    refine Throws.bind (all n List.mem_cons_self) fun r hr => ?_
    refine Throws.bind (thrownEach_whole fun x hx => all x (List.mem_cons_of_mem n hx)) fun rs hrs => Throws.pure ?_
    intro x hx
    rcases List.mem_cons.1 hx with rfl | hx
    · exact hr
    · exact hrs x hx

theorem throws_adjustAll (as : List Adjustment) {r : Rolled} (whole : r.Whole) :
    Throws (Act.ofExcept ((Rolled.adjustAll as r).mapError Throw.Fault.flaw)) Rolled.Whole := by
  obtain ⟨s, hs, whole'⟩ := whole.adjustAll as
  rw [hs]
  exact Throws.pure whole'

/-- **A whole notation is thrown whole**, unless its dice cannot be thrown. -/
theorem Notation.Whole.thrown {n : Notation} (whole : n.Whole) : Throws n.thrown Rolled.Whole := by
  induction whole with
  | number n =>
    rw [Notation.thrown]
    exact Throws.pure (.number true n)
  | dice count sides as =>
    rw [Notation.thrown]
    refine Throws.bind (Throws.dice sides count) fun held _ => ?_
    exact Throws.bind (Throws.adjustAll sides as held) fun held _ => Throws.pure (.dice true held)
  | group as _ ih =>
    rw [Notation.thrown]
    exact Throws.bind ih fun r hr => throws_adjustAll as (.group true hr)
  | set as _ ih =>
    rw [Notation.thrown]
    exact Throws.bind (thrownEach_whole ih) fun rs hrs => throws_adjustAll as (.set true hrs)
  | signed negative _ ih =>
    rw [Notation.thrown]
    exact Throws.bind ih fun r hr => Throws.pure (.signed true negative hr)
  | binary _ undivided _ ihl ihr =>
    rw [Notation.thrown]
    refine Throws.bind ihl fun a ha => Throws.bind ihr fun b hb => ?_
    exact Throws.pure (.binary true ha undivided hb)

namespace Cup

theorem settle_whole (text : String) {r : Rolled} (whole : r.Whole) : ∃ roll, settle text r = .ok roll := by
  obtain ⟨n, hn⟩ := whole.total
  unfold settle
  rw [hn]
  exact ⟨_, rfl⟩

/-- **What is read as a whole notation is rolled or refused**, whatever the faces, and never broken. -/
theorem roll_not_broken (text : String) (cup : Cup) (whole : ∀ n, cup.read text = .ok n → n.Whole)
    (grammar : ∀ fault, cup.read text = .error fault → fault = .grammar) (cause : Cause) :
    ((roll text).run cup).1 ≠ .error (.broken cause) := by
  unfold roll Act.run
  dsimp only
  split
  · nofun
  · split
    · rename_i fault read
      rw [grammar fault read]
      nofun
    · rename_i n read
      rcases (whole n read).thrown ⟨cup.faces, cup.shown, 0⟩ with ⟨r, run, hr⟩ | ⟨fault, run, plain⟩
      · simp only [Act.run] at run
        rw [run]
        obtain ⟨roll, settled⟩ := settle_whole text hr
        dsimp only
        rw [settled]
        nofun
      · simp only [Act.run] at run
        rw [run]
        dsimp only
        cases fault with
        | flaw flaw => exact absurd rfl (plain flaw)
        | _ => nofun

end Cup

end Bestiary.Dice
