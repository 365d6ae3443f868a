import Bestiary.Proofs.Dice.Die
import Bestiary.Proofs.Encounter.Reach
/-!
# Fortune — what helps a save never spoils it

One die of the stream counts for a save (`Save.counted`), and it alone decides: a twenty makes the save, a one does not,
and any other die has to meet the difficulty with the bonus.  So on the same stream a higher bonus or a lower difficulty
never loses a save that was made, disadvantage never makes one that was lost, and advantage never loses one that was
made where advantage and disadvantage cancel (`rollSave_fair`).
-/
namespace Bestiary

namespace Save

/-- The die of a stream that counts for a save. -/
def counted (s : Save) (rule : AdvantageRule) (dice : Nat → Int) : Int :=
  if s.advantage then
    if s.disadvantage then
      match rule with
      | .cancel => dice 0
      | .sequential => min (max (dice 0) (dice 1)) (dice 2)
    else max (dice 0) (dice 1)
  else if s.disadvantage then min (dice 0) (dice 1)
  else dice 0

theorem natural_counted (s : Save) (rule : AdvantageRule) (dice : Nat → Int) :
    (AdvantageRule.natural s.advantage s.disadvantage
      ((List.range (rule.dice s.advantage s.disadvantage)).map dice)).1 = s.counted rule dice := by
  unfold counted
  cases s.advantage <;> cases s.disadvantage <;> cases rule <;> rfl

theorem counted_mem (s : Save) (rule : AdvantageRule) (dice : Nat → Int) :
    s.counted rule dice ∈ (List.range (rule.dice s.advantage s.disadvantage)).map dice := by
  have higher : ∀ a b : Int, max a b = a ∨ max a b = b := fun a b => by omega
  have lower : ∀ a b : Int, min a b = a ∨ min a b = b := fun a b => by omega
  unfold counted
  cases s.advantage <;> cases s.disadvantage <;> cases rule <;> simp [AdvantageRule.dice, List.range_succ]
  all_goals omega

section Order

variable {dice : Nat → Int}

/-- Another die that is met with disadvantage can only be lower. -/
theorem counted_disadvantage (s : Save) (rule : AdvantageRule) :
    { s with disadvantage := true }.counted rule dice ≤ s.counted rule dice := by
  unfold counted
  cases s.advantage <;> cases s.disadvantage <;> cases rule <;> simp
  all_goals omega

/-- Where the two cancel, advantage drops the lower die or keeps the only one. -/
theorem counted_advantage (s : Save) : s.counted .cancel dice ≤ { s with advantage := true }.counted .cancel dice := by
  unfold counted
  cases s.advantage <;> cases s.disadvantage <;> simp

theorem made_iff {natural bonus dc : Int} :
    made natural bonus dc = true ↔ natural = 20 ∨ natural ≠ 1 ∧ dc ≤ natural + bonus := by
  unfold made
  by_cases twenty : natural = 20
  · simp [twenty]
  · by_cases one : natural = 1 <;> simp [twenty, one]

/-- **A die, a bonus and a difficulty that are no worse make the save again.** -/
theorem made_mono {n m bonus bonus' dc dc' : Int} (low : 1 ≤ n) (high : m ≤ 20) (better : n ≤ m) (more : bonus ≤ bonus')
    (easier : dc' ≤ dc) (h : made n bonus dc = true) : made m bonus' dc' = true := by
  rw [made_iff] at h ⊢
  rcases h with rfl | ⟨other, meets⟩
  · left
    omega
  · right
    constructor <;> omega

end Order

end Save

/-- **One combatant is no worse than another one at saves with an ability**: both have bonuses of their own, or both
have none and go by their scores. -/
inductive Combatant.Bolstered (a : Ability) (c c' : Combatant) : Prop where
  | bonus {b b' : Int} (own : c.savingThrows.get? a = some b) (own' : c'.savingThrows.get? a = some b') (more : b ≤ b')
  | score (bare : c.savingThrows.get? a = none) (bare' : c'.savingThrows.get? a = none)
      (more : c.abilityScore a ≤ c'.abilityScore a)

namespace Combatant.Bolstered

variable {a : Ability} {c c' : Combatant}

theorem refl (a : Ability) (c : Combatant) : Bolstered a c c := by
  cases own : c.savingThrows.get? a with
  | none => exact .score own own (Int.le_refl _)
  | some b => exact .bonus own own (Int.le_refl b)

theorem savingThrowBonus_le (h : Bolstered a c c') : c.savingThrowBonus a ≤ c'.savingThrowBonus a := by
  cases h with
  | bonus own own' more => simpa [savingThrowBonus, own, own'] using more
  | score bare bare' more =>
    simp only [savingThrowBonus, bare, bare', Option.getD_none]
    omega

end Combatant.Bolstered

namespace Encounter

open Dice (rollable_twenty)

/-- Whether a combatant makes a save by a rule. -/
def saves (c : Combatant) (s : Save) (rule : AdvantageRule) (e : Encounter) : Bool := (rollSave c s rule e).1.any (·.saved)

section Roll

variable {s : Save} {ability : Ability} {dc : Int} (able : s.ability = some ability)
  (difficult : s.dc = some dc)
include able difficult

/-- **What a save comes to**, read off the stream of the table's dice. -/
theorem rollSave_shows (c : Combatant) (rule : AdvantageRule) (e : Encounter) :
    ∃ kind, (rollSave c s rule e).1 =
        some ⟨ability, dc, (List.range (rule.dice s.advantage s.disadvantage)).map (e.shows 20),
          s.counted rule (e.shows 20), c.savingThrowBonus ability, kind,
          Save.made (s.counted rule (e.shows 20)) (c.savingThrowBonus ability) dc⟩ ∧
      (rollSave c s rule e).2.cup.shown = e.cup.shown + rule.dice s.advantage s.disadvantage := by
  obtain ⟨rolls, -, shown⟩ := rollDice_shows rollable_twenty (rule.dice s.advantage s.disadvantage) e
  have natural := s.natural_counted rule (e.shows 20)
  simp only [rollSave, able, difficult, rolls]
  generalize AdvantageRule.natural s.advantage s.disadvantage _ = picked at natural
  obtain ⟨die, kind⟩ := picked
  obtain rfl := natural
  exact ⟨kind, rfl, shown⟩

theorem saves_iff (c : Combatant) (rule : AdvantageRule) (e : Encounter) :
    saves c s rule e = Save.made (s.counted rule (e.shows 20)) (c.savingThrowBonus ability) dc := by
  obtain ⟨kind, rolled, -⟩ := rollSave_shows able difficult c rule e
  rw [saves, rolled]
  rfl

end Roll

theorem counted_range (s : Save) (rule : AdvantageRule) (e : Encounter) :
    1 ≤ s.counted rule (e.shows 20) ∧ s.counted rule (e.shows 20) ≤ 20 := by
  obtain ⟨n, -, die⟩ := List.mem_map.1 (s.counted_mem rule (e.shows 20))
  rw [← die]
  exact shows_range (by decide) e n

/-- **How a save with an ability and a difficulty goes.**  A run is compared with any other on the same stream. -/
structure Fair (c : Combatant) (s : Save) (rule : AdvantageRule) (e : Encounter) (ability : Ability) (dc : Int) :
    Prop where
  /-- The dice are the next of the stream, and no others are used up.  One of them counts and decides alone. -/
  decided : ∃ roll, (rollSave c s rule e).1 = some roll ∧
    roll.rolls = (List.range (rule.dice s.advantage s.disadvantage)).map (e.shows 20) ∧
    (rollSave c s rule e).2.cup.shown = e.cup.shown + roll.rolls.length ∧
    roll.natural = s.counted rule (e.shows 20) ∧ roll.natural ∈ roll.rolls ∧
    (saves c s rule e = true ↔
      roll.natural = 20 ∨ roll.natural ≠ 1 ∧ dc ≤ roll.natural + c.savingThrowBonus ability)
  /-- A higher bonus or a lower difficulty never loses a save that was made. -/
  eased : ∀ {c' : Combatant} {dc' : Int} {e' : Encounter}, c.Bolstered ability c' → dc' ≤ dc →
    e'.shows 20 = e.shows 20 → saves c s rule e = true → saves c' { s with dc := some dc' } rule e' = true
  /-- Disadvantage never makes a save that was lost. -/
  hindered : ∀ {e' : Encounter}, e'.shows 20 = e.shows 20 → saves c s rule e = false →
    saves c { s with disadvantage := true } rule e' = false
  /-- Advantage never loses a save that was made, where it cancels with disadvantage. -/
  aided : ∀ {e' : Encounter}, rule = .cancel → e'.shows 20 = e.shows 20 → saves c s rule e = true →
    saves c { s with advantage := true } rule e' = true

theorem fair_of_complete {s : Save} {ability : Ability} {dc : Int} (able : s.ability = some ability)
    (difficult : s.dc = some dc) (c : Combatant) (rule : AdvantageRule) (e : Encounter) :
    Fair c s rule e ability dc where
  decided := by
    obtain ⟨kind, rolled, shown⟩ := rollSave_shows able difficult c rule e
    refine ⟨_, rolled, rfl, ?_, rfl, s.counted_mem rule _, ?_⟩
    · simp [shown]
    · rw [saves_iff able difficult, Save.made_iff]
  eased := by
    intro c' dc' e' bolstered easier same made
    rw [saves_iff able difficult] at made
    rw [saves_iff (s := { s with dc := some dc' }) able rfl, same]
    exact Save.made_mono (counted_range s rule e).1 (counted_range s rule e).2 (Int.le_refl _)
      bolstered.savingThrowBonus_le easier made
  hindered := by
    intro e' same lost
    rw [saves_iff able difficult] at lost
    rw [saves_iff (s := { s with disadvantage := true }) able difficult, same]
    apply Bool.eq_false_iff.2
    intro made
    -- Were it made, the die that counts without disadvantage would make it too, as it is no lower.
    have range := counted_range { s with disadvantage := true } rule e
    have again := Save.made_mono range.1 (counted_range s rule e).2 (s.counted_disadvantage rule) (Int.le_refl _)
      (Int.le_refl dc) made
    rw [lost] at again
    cases again
  aided := by
    rintro e' rfl same made
    rw [saves_iff able difficult] at made
    rw [saves_iff (s := { s with advantage := true }) able difficult, same]
    exact Save.made_mono (counted_range s .cancel e).1 (counted_range { s with advantage := true } .cancel e).2
      s.counted_advantage (Int.le_refl _) (Int.le_refl dc) made

/-- **Saves are fair**, and one without an ability or a difficulty fails and uses up no die.  Whether a combatant makes
a save is told by the rule of the table. -/
theorem rollSave_fair (c : Combatant) (s : Save) (rule : AdvantageRule) (e : Encounter) :
    (∀ ability dc, s.ability = some ability → s.dc = some dc → Fair c s rule e ability dc) ∧
    (s.ability = none ∨ s.dc = none →
      (rollSave c s rule e).1 = none ∧ saves c s rule e = false ∧ (rollSave c s rule e).2.cup = e.cup) ∧
    (checkSave c s e).1 = saves c s e.rule e := by
  refine ⟨fun ability dc able difficult => fair_of_complete able difficult c rule e, fun lacks => ?_, rfl⟩
  have unrolled : rollSave c s rule e = (none, note (.saveIncomplete c.id) e) := by
    rcases lacks with lacks | lacks
    · simp [rollSave, lacks]
    · cases able : s.ability <;> simp [rollSave, lacks, able]
  rw [saves, unrolled]
  exact ⟨rfl, rfl, rfl⟩

/-- A knight of great constitution. -/
def stalwart : Combatant := { fighter "knight" .player with abilities := ⟨[(.constitution, 18)], by decide⟩ }

/-- The knight loses the save on a three; a sturdier one at a lower difficulty makes it with advantage on an
eighteen. -/
theorem rollSave_fair_stalwart :
    saves (fighter "knight" .player) footing .cancel skirmish = false ∧
    saves (fighter "knight" .player) { footing with disadvantage := true } .cancel skirmish = false ∧
    saves (fighter "knight" .player) { footing with advantage := true } .cancel skirmish = true ∧
    saves stalwart { footing with advantage := true, dc := some 10 } .cancel skirmish = true := by
  have lost : saves (fighter "knight" .player) footing .cancel skirmish = false := by decide +kernel
  have made : saves (fighter "knight" .player) { footing with advantage := true } .cancel skirmish = true := by
    decide +kernel
  have hindered := ((rollSave_fair (fighter "knight" .player) footing .cancel skirmish).1 _ _ rfl rfl).hindered rfl lost
  have fair := (rollSave_fair (fighter "knight" .player) { footing with advantage := true } .cancel skirmish).1
  exact ⟨lost, hindered, made, (fair _ _ rfl rfl).eased (.score rfl rfl (by decide)) (by decide) rfl made⟩

end Encounter
end Bestiary
