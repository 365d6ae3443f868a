import Mathlib.Algebra.Order.BigOperators.Group.List
import Mathlib.Algebra.Order.Ring.Int
import Bestiary.Proofs.Encounter.Isolation
/-!
# Tally — what the total of an area counts

The total of an area adds up what is dealt in it and in the areas below it, and passes over the branches of saves.  So
it falls short of the damage anywhere below the area by what those branches dealt (`totalDamage_add_behindSaves`): it
counts all of it exactly when they dealt nothing, and always when the area nests no save (`totalDamage_area`).
-/
namespace Bestiary

namespace Outcome

/-- The damage to each target that an outcome records itself. -/
def blows : Outcome → List DamageLine
  | .damage _ lines => lines
  | _ => []

/-- The damage that outcomes record themselves, added up. -/
def tally (os : List Outcome) : Int := ((os.flatMap blows).map (·.damage)).sum

mutual

/-- What an outcome nests in the branches of saves, at any depth. -/
def behindSaves : Outcome → List Outcome
  | .area _ effects => behindSavesOfAll effects
  | .save branches => nodesOfBranches branches
  | _ => []

def behindSavesOfAll : List Outcome → List Outcome
  | [] => []
  | o :: os => behindSaves o ++ behindSavesOfAll os

end

theorem tally_nil : tally [] = 0 := rfl

theorem tally_append (xs ys : List Outcome) : tally (xs ++ ys) = tally xs + tally ys := by
  simp only [tally, List.flatMap_append, List.map_append, List.sum_append]

theorem tally_cons (o : Outcome) (os : List Outcome) :
    tally (o :: os) = (o.blows.map (·.damage)).sum + tally os := by
  simp only [tally, List.flatMap_cons, List.map_append, List.sum_append]

theorem total_of_lines (kind : Option String) (lines : List DamageLine) :
    totalDamage (.damage kind lines) = (lines.map (·.damage)).sum := rfl

theorem total_of_area (ids : List String) (os : List Outcome) : totalDamage (.area ids os) = damageOfAll os := rfl

theorem total_of_save (branches : List (SaveLine × List Outcome)) : totalDamage (.save branches) = 0 := rfl

mutual

/-- **The total and what was dealt behind saves make up the damage of the whole tree.** -/
theorem totalDamage_add_behindSaves : ∀ o : Outcome, o.totalDamage + tally (behindSaves o) = tally (nodes o)
  | .area ids os => by
    have nested := damageOfAll_add_behindSaves os
    simpa only [total_of_area, behindSaves, nodes, tally_cons, blows, List.map_nil, List.sum_nil, zero_add] using nested
  | .save branches => by
    simp only [total_of_save, behindSaves, nodes, tally_cons, blows, List.map_nil, List.sum_nil]
  | .damage kind lines => by
    simp only [total_of_lines, behindSaves, nodes, tally_cons, blows, tally_nil]
  | .failed .. | .healing _ | .condition .. | .movement _ | .summon .. | .custom _ => rfl

theorem damageOfAll_add_behindSaves : ∀ os : List Outcome,
    damageOfAll os + tally (behindSavesOfAll os) = tally (nodesOfAll os)
  | [] => rfl
  | o :: os => by
    have first := totalDamage_add_behindSaves o
    have rest := damageOfAll_add_behindSaves os
    rw [damageOfAll, behindSavesOfAll, nodesOfAll, tally_append, tally_append, ← first, ← rest]
    exact add_add_add_comm _ _ _ _

end

mutual

theorem behindSaves_subset : ∀ o : Outcome, behindSaves o ⊆ nodes o
  | .area ids os => by
    rw [behindSaves, nodes]
    exact List.subset_cons_of_subset _ (behindSavesOfAll_subset os)
  | .save branches => by
    rw [behindSaves, nodes]
    exact List.subset_cons_self _ _
  | .damage .. | .failed .. | .healing _ | .condition .. | .movement _ | .summon .. | .custom _ =>
    List.nil_subset _

theorem behindSavesOfAll_subset : ∀ os : List Outcome, behindSavesOfAll os ⊆ nodesOfAll os
  | [] => List.nil_subset _
  | o :: os => by
    rw [behindSavesOfAll, nodesOfAll]
    exact List.append_subset.2 ⟨List.subset_append_of_subset_left _ (behindSaves_subset o),
      List.subset_append_of_subset_right _ (behindSavesOfAll_subset os)⟩

end

/-- Where no damage is below zero, it adds up to nothing only if all of it is nothing. -/
theorem tally_eq_zero_iff {os : List Outcome} (dealt : ∀ x ∈ os, ∀ l ∈ x.blows, 0 ≤ l.damage) :
    tally os = 0 ↔ ∀ x ∈ os, ∀ l ∈ x.blows, l.damage = 0 := by
  have all (P : Int → Prop) : (∀ n ∈ (os.flatMap blows).map (·.damage), P n) ↔ ∀ x ∈ os, ∀ l ∈ x.blows, P l.damage := by
    simp only [List.forall_mem_map, List.mem_flatMap, forall_exists_index, and_imp]
    exact ⟨fun h x hx l hl => h l x hx hl, fun h l x hx hl => h x hx l hl⟩
  constructor
  · intro none
    exact (all (· = 0)).1 fun n hn => List.all_zero_of_le_zero_le_of_sum_eq_zero ((all (0 ≤ ·)).2 dealt) none hn
  · intro none
    exact List.sum_eq_zero ((all (· = 0)).2 none)

end Outcome

mutual

/-- Whether there is no save in an effect. -/
def Effect.saveless : Effect → Bool
  | .impact _ _ => true
  | .area _ _ effects => allSaveless effects
  | .save .. => false

def Effect.allSaveless : List Effect → Bool
  | [] => true
  | effect :: effects => saveless effect && allSaveless effects

end

namespace Encounter

open Outcome (nodes nodesOfAll nodesOfAll_append nodesOfBranches_eq blows behindSaves behindSavesOfAll tally)
open Effect (saveless allSaveless)

/-! ## No damage is below zero -/

namespace Answers

variable {α β : Type} {P : α → Prop} {Q : β → Prop}

theorem after {d : Deed α} {next : α → Deed β} (h : Answers P d) (k : ∀ a, P a → Answers Q (next a)) :
    Answers Q (d >>= next) := by
  intro e b run
  rw [Act.run_bind] at run
  split at run
  · rename_i a f first
    exact k a (h e a (by rw [first])) f b run
  · cases run

theorem each {act : α → Deed β} (h : ∀ a, Answers Q (act a)) :
    ∀ as : List α, Answers (fun bs => ∀ b ∈ bs, Q b) (Act.each act as)
  | [] => .pure (List.forall_mem_nil _)
  | a :: as => (h a).after fun _ first => (each h as).after fun _ rest => .pure (List.forall_mem_cons.2 ⟨first, rest⟩)

end Answers

theorem answers_damage (t : Target) (n : Int) (kind : Option String) (saved : Option Bool) :
    Answers (fun l => 0 ≤ l.damage) (damage t n kind saved) := by
  intro e l run
  simp only [damage, Act.run] at run
  split at run
  · cases run
  · cases run
    exact le_max_left 0 _

theorem answers_strikeDamage (n : Int) (kind : Option String) (save : Option Save) (half : Bool) (t : Target) :
    Answers (fun l => 0 ≤ l.damage) (strikeDamage n kind save half t) :=
  .bind fun saved => answers_damage t (dealt n half saved save) kind saved

/-- An impact deals no damage below zero. -/
theorem dealt_strike (o : Options) (half : Bool) (targeting : Option Targeting) (i : Impact) :
    Answers (fun outcome => ∀ x ∈ nodes outcome, ∀ l ∈ x.blows, 0 ≤ l.damage) (strike o half targeting i) := by
  cases i with
  | damage quantity kind save =>
    have each (n : Int) (ts : List Target) := Answers.each (answers_strikeDamage n kind save half) ts
    exact .bind fun ts => .bind fun n => (each n ts).after fun lines dealt => .pure (List.forall_mem_singleton.2 dealt)
  | healing => exact .bind fun ts => .bind fun n => .bind fun lines => .pure (by simp [nodes, blows])
  | condition => exact .bind fun ts => .bind fun lines => .pure (by simp [nodes, blows])
  | movement => exact .bind fun ts => .bind fun lines => .pure (by simp [nodes, blows])
  | summon =>
    simp only [strike]
    split
    · exact .fail _
    · exact .bind fun came => .pure (by simp [nodes, blows])
  | custom => exact .bind fun dumped => .pure (by simp [nodes, blows])

theorem traced_dealt (o : Options) :
    Traced o fun _ os _ => ∀ x ∈ nodesOfAll os, ∀ l ∈ x.blows, 0 ≤ l.damage where
  nothing _ := List.forall_mem_nil _
  andThen h k := by
    rw [nodesOfAll_append]
    exact List.forall_mem_append.2 ⟨h, k⟩
  reporting _ _ := List.forall_mem_nil _
  aiming _ _ := List.forall_mem_nil _
  rolling _ _ _ := List.forall_mem_nil _
  striking half targeting i e := by
    have failed (message : String) : ∀ x ∈ nodes (.failed i.kind message), ∀ l ∈ x.blows, 0 ≤ l.damage := by
      simp [nodes, blows]
    simpa [nodesOfAll] using answers_guarded (dealt_strike o half targeting i) failed e
  failing _ := by simp [nodesOfAll, nodes, blows]
  nesting h := by
    simpa [nodesOfAll, nodes, blows] using h
  branching h := by
    rw [← nodesOfBranches_eq] at h
    simpa [nodesOfAll, nodes, blows] using h

/-! ## Areas without saves -/

mutual

theorem behindSaves_of_mirrors {o : Options} : ∀ (effect : Effect) {aim : Option (List String)} {half : Bool}
    {e : Encounter} {outcome : Outcome}, Mirrors o aim half effect e outcome → effect.saveless = true →
      behindSaves outcome = []
  | .impact _ i, _, _, _, outcome, h, _ => by
    have kind : outcome.kind = i.kind := h.kind
    cases outcome with
    | area => cases i <;> cases kind
    | save => cases i <;> cases kind
    | _ => rfl
  | .area _ _ effects, _, _, _, _, h, free => by
    cases h with
    | failed => rfl
    | area _ nested => exact behindSavesOfAll_of_mirror effects nested free
  | .save .., _, _, _, _, _, free => by cases free

theorem behindSavesOfAll_of_mirror {o : Options} : ∀ (effects : List Effect) {aim : Option (List String)} {half : Bool}
    {e : Encounter} {outcomes : List Outcome}, AllMirror o aim half effects e outcomes → allSaveless effects = true →
      behindSavesOfAll outcomes = []
  | [], _, _, _, _, .done, _ => rfl
  | effect :: effects, _, _, _, _, .next first rest, free => by
    rw [allSaveless, Bool.and_eq_true] at free
    rw [behindSavesOfAll, behindSaves_of_mirrors effect first free.1, behindSavesOfAll_of_mirror effects rest free.2]
    rfl

end

/-- **The total of an area passes over what saves nest.**  With what was dealt in the branches of saves it is the damage
anywhere below the area; so it is all of that damage exactly when those branches dealt none, and always when no save is
nested in the area. -/
theorem totalDamage_area (o : Options) (aim : Option (List String)) (half : Bool) (targeting : Option Targeting)
    (region : Option Area) (effects : List Effect) (e : Encounter) :
    let outcome := (resolve o aim half (.area targeting region effects) e).1
    outcome.totalDamage + tally (behindSaves outcome) = tally (nodes outcome) ∧
    (outcome.totalDamage = tally (nodes outcome) ↔ ∀ x ∈ behindSaves outcome, ∀ l ∈ x.blows, l.damage = 0) ∧
    (allSaveless effects = true → outcome.totalDamage = tally (nodes outcome)) := by
  intro outcome
  have sum := Outcome.totalDamage_add_behindSaves outcome
  have dealt : ∀ x ∈ nodes outcome, ∀ l ∈ x.blows, 0 ≤ l.damage := by
    have run := resolve_traced (traced_dealt o) (.area targeting region effects) aim half e
    simpa [nodesOfAll] using run
  have nothing := Outcome.tally_eq_zero_iff fun x hx => dealt x (Outcome.behindSaves_subset outcome hx)
  refine ⟨sum, ?_, fun free => ?_⟩
  · rw [← nothing]
    omega
  · have none : behindSaves outcome = [] := behindSaves_of_mirrors _ (resolve_mirrors o _ aim half e) free
    rw [none, Outcome.tally_nil, add_zero] at sum
    exact sum

/-- A wing beat: whoever is in its area and does not save takes damage. -/
def wingBeat : Effect :=
  .area none none
    [.save none { (default : Save) with ability := some .dexterity, dc := some 22 } []
      [.impact none (.damage (.fixed 15) (some "bludgeoning") none)]]

/-- **Damage behind a save is not counted**: the knight in the area takes fifteen, and the total is nothing. -/
theorem wingBeat_uncounted :
    let outcome := (resolve .none none false wingBeat (.opening [fighter "knight" .player] [3])).1
    outcome.totalDamage = 0 ∧ tally (nodes outcome) = 15 ∧ outcome.totalDamage ≠ tally (nodes outcome) := by
  decide +kernel

end Encounter
end Bestiary
