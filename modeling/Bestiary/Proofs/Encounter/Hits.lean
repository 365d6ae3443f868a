import Bestiary.Proofs.Encounter.Inline
import Bestiary.Proofs.Encounter.Reach
import Bestiary.Proofs.Encounter.Tally
/-!
# Hits — everyone who is aimed at is hit

An impact that is aimed at ids has a line for each combatant on the roster who has one, in roster order, and an effect
that nests others aims them at those it found (`resolve_hits`).  An area finds its own, so below it those in the area
count; below a save it is the one who rolled.
-/
namespace Bestiary

namespace Outcome

/-- Those on a roster who have one of these ids, in its order. -/
def among (roster ids : List String) : List String := roster.filter fun id => ids.contains id

mutual

/-- **Whom an outcome hits below an aim**: all on the roster who are aimed at, in its order; below an area, all who are
in it; below a save, the one who rolled it.  A failure has no lines, and summons and custom effects have no targets. -/
def Hits (roster ids : List String) : Outcome → Prop
  | .damage _ lines => lines.map (·.target) = among roster ids
  | .healing lines => lines.map (·.target) = among roster ids
  | .condition _ lines => lines.map (·.target) = among roster ids
  | .movement lines => lines.map (·.target) = among roster ids
  | .area own effects => AllHit roster own effects
  | .save branches => branches.map (·.1.target) = among roster ids ∧ BranchesHit roster branches
  | .failed _ _ | .summon _ _ | .custom _ => True

/-- Whom outcomes hit below an aim. -/
def AllHit (roster ids : List String) : List Outcome → Prop
  | [] => True
  | o :: os => Hits roster ids o ∧ AllHit roster ids os

/-- Whom the branches of a save hit: each the one who rolled. -/
def BranchesHit (roster : List String) : List (SaveLine × List Outcome) → Prop
  | [] => True
  | (line, os) :: rest => AllHit roster [line.target] os ∧ BranchesHit roster rest

end

end Outcome

namespace Encounter

open Outcome

/-! ## Lines for those found -/

namespace Answers

variable {α β γ : Type}

theorem each_map {act : α → Deed β} {name : β → γ} {own : α → γ} (h : ∀ a, Answers (fun b => name b = own a) (act a)) :
    ∀ as : List α, Answers (fun bs => bs.map name = as.map own) (Act.each act as)
  | [] => .pure rfl
  | a :: as => (h a).after fun b first => (each_map h as).after fun bs rest => .pure (by simp [first, rest])

end Answers

theorem answers_strikeDamage_target (n : Int) (kind : Option String) (save : Option Save) (half : Bool) (t : Target) :
    Answers (fun l => l.target = t.id) (strikeDamage n kind save half t) := by
  apply Answers.bind
  intro saved e l run
  simp only [damage, Act.run] at run
  split at run
  · cases run
  · cases run
    rfl

theorem answers_heal_target (n : Int) (t : Target) : Answers (fun l => l.target = t.id) (heal t n) := by
  intro e l run
  simp only [heal, Act.run] at run
  split at run
  · cases run
  · cases run
    rfl

theorem answers_strikeCondition_target (condition : Label) (duration : Option Nat) (save : Option Save) (t : Target) :
    Answers (fun l => l.target = t.id) (strikeCondition condition duration save t) := by
  apply Answers.bind
  intro saved
  dsimp only
  split
  · exact .pure rfl
  · exact .bind fun applied => .pure rfl

theorem answers_strikeMovement_target (distance : Nat) (direction : Option String) (save : Option Save) (t : Target) :
    Answers (fun l => l.target = t.id) (strikeMovement distance direction save t) := by
  apply Answers.bind
  intro saved
  dsimp only
  split
  · exact .pure rfl
  · exact .bind fun moved => .pure rfl

/-- Those found by ids are all on the roster who have one, in its order. -/
theorem id_of_named (e : Encounter) (names : List String) :
    (e.seats.filter fun s => names.contains s.id).map Target.id = among e.ids names := by
  rw [among, ← map_id_seats, List.filter_map]
  rfl

/-- What is done with those found by ids is done with all on the roster who have one, in its order. -/
theorem answer_of_aimed {o : Options} {names : List String} {next : List Target → Deed Outcome} {Q : Outcome → Prop}
    {e : Encounter} (h : ∀ ts, ts.map Target.id = among e.ids names → Answers Q (next ts)) (outcome : Outcome)
    (run : ((targets o (some (.specific names)) >>= next).run e).1 = .ok outcome) : Q outcome :=
  h (e.seats.filter fun s => names.contains s.id) (id_of_named e names) e outcome run

theorem strike_hits (o : Options) (half : Bool) (names : List String) (i : Impact) (e : Encounter) (outcome : Outcome)
    (run : ((strike o half (some (.specific names)) i).run e).1 = .ok outcome) : Hits e.ids names outcome := by
  cases i with
  | damage quantity kind save =>
    refine answer_of_aimed (fun ts found => .bind fun n => ?_) outcome run
    have lines := Answers.each_map (answers_strikeDamage_target n kind save half) ts
    exact lines.after fun lines own => .pure (own.trans found)
  | healing quantity =>
    refine answer_of_aimed (fun ts found => .bind fun n => ?_) outcome run
    exact (Answers.each_map (answers_heal_target n) ts).after fun lines own => .pure (own.trans found)
  | condition condition duration save =>
    refine answer_of_aimed (fun ts found => ?_) outcome run
    have lines := Answers.each_map (answers_strikeCondition_target condition duration save) ts
    exact lines.after fun lines own => .pure (own.trans found)
  | movement distance direction save =>
    refine answer_of_aimed (fun ts found => ?_) outcome run
    have lines := Answers.each_map (answers_strikeMovement_target distance direction save) ts
    exact lines.after fun lines own => .pure (own.trans found)
  | summon creature count position =>
    simp only [strike] at run
    split at run
    · cases run
    · have summoned : Answers (Hits e.ids names) (Act.each (fun _ => summon creature position) (List.range count) >>=
          fun came => Act.pure (.summon count (came.filterMap (·)))) := .bind fun came => .pure trivial
      exact summoned e outcome run
  | custom payload extras =>
    have dumped : Answers (Hits e.ids names) (strike o half (some (.specific names)) (.custom payload extras)) :=
      .bind fun dumped => .pure trivial
    exact dumped e outcome run

theorem guarded_hits (o : Options) (half : Bool) (names : List String) (i : Impact) (e : Encounter) :
    Hits e.ids names (guarded i.kind (strike o half (some (.specific names)) i) e).1 := by
  have hits := strike_hits o half names i e
  unfold guarded
  split
  · rename_i outcome f run
    exact hits outcome (congrArg Prod.fst run)
  · trivial
  · trivial

/-! ## Nested effects -/

theorem ids_of_backdrop {e f : Encounter} (same : f.backdrop = e.backdrop) : f.ids = e.ids :=
  ids_of_undisturbed (undisturbed_of_backdrop same)

theorem ids_rollSave (c : Combatant) (s : Save) (e : Encounter) : (rollSave c s e.rule e).2.ids = e.ids :=
  ids_of_backdrop (backdrop_of_scene (scene_rollSave c s e.rule e))

theorem ids_resolve (o : Options) (effect : Effect) (aim : Option (List String)) (half : Bool) (e : Encounter) :
    (resolve o aim half effect e).2.ids = e.ids :=
  ids_of_backdrop (resolve_traced (traced_backdrop o) effect aim half e)

theorem ids_resolveAll (o : Options) (effects : List Effect) (aim : Option (List String)) (half : Bool)
    (e : Encounter) : (resolveAll o aim half effects e).2.ids = e.ids :=
  ids_of_backdrop (resolveAll_traced (traced_backdrop o) effects aim half e)

theorem ids_branch (o : Options) (half : Bool) (s : Save) (onSuccess onFailure : List Effect) (t : Target)
    (e : Encounter) : (branch o half s onSuccess onFailure t e).2.ids = e.ids := by
  rw [← ids_rollSave t.combatant s e]
  dsimp only [branch]
  split
  · exact ids_resolveAll o onFailure _ half _
  · split
    · exact ids_of_backdrop ((traced_backdrop o).strikeAll _ true (reduced s onFailure) _)
    · exact ids_resolveAll o onSuccess _ half _

theorem strikeAll_hits (o : Options) (names : List String) (half : Bool) : ∀ (is : List Impact) (e : Encounter),
    AllHit e.ids names (strikeAll o (some names) half is e).1
  | [], _ => trivial
  | i :: is, e => by
    simp only [strikeAll]
    refine ⟨guarded_hits o half names i e, ?_⟩
    have rest := strikeAll_hits o names half is (guarded i.kind (strike o half (aimed (some names) none) i) e).2
    rwa [ids_of_backdrop (backdrop_guarded i.kind (leaves_strike o half _ i) e)] at rest

/-- A branch of a save hits the one who rolled. -/
theorem branch_hits {o : Options} {half : Bool} {onSuccess onFailure : List Effect} (s : Save) (t : Target)
    (e : Encounter)
    (success : ∀ e, AllHit e.ids [t.id] (resolveAll o (some [t.id]) half onSuccess e).1)
    (failure : ∀ e, AllHit e.ids [t.id] (resolveAll o (some [t.id]) half onFailure e).1) :
    AllHit e.ids [t.id] (branch o half s onSuccess onFailure t e).1.2 := by
  rw [← ids_rollSave t.combatant s e]
  dsimp only [branch]
  split
  · exact failure _
  · split
    · exact strikeAll_hits o [t.id] true (reduced s onFailure) _
    · exact success _

/-- The branches of a save hit each the one who rolled, if each branch does. -/
theorem forEach_hits {o : Options} {half : Bool} {s : Save} {onSuccess onFailure : List Effect}
    (own : ∀ t e, AllHit e.ids [t.id] (branch o half s onSuccess onFailure t e).1.2) :
    ∀ (found : List Target) (e : Encounter),
      BranchesHit e.ids (forEach (branch o half s onSuccess onFailure) found e).1
  | [], _ => trivial
  | t :: found, e => by
    simp only [forEach]
    refine ⟨own t e, ?_⟩
    have rest := forEach_hits own found (branch o half s onSuccess onFailure t e).2
    rwa [ids_branch] at rest

mutual

/-- **An effect that is aimed at ids hits all on the roster who have one**, each once. -/
theorem resolve_hits (o : Options) : ∀ (effect : Effect) (names : List String) (half : Bool) (e : Encounter),
    Hits e.ids names (resolve o (some names) half effect e).1
  | .impact targeting i, names, half, e => by
    rw [resolve]
    exact guarded_hits o half names i e
  | .area _ region effects, names, half, e => by
    rw [resolve]
    have stays := inArea_state region e
    split
    · trivial
    · rename_i found f run
      rw [run] at stays
      subst stays
      -- An area does not look at what it is aimed at; from here on those in it are the ones aimed at.
      exact resolveAll_hits o effects _ half f
  | .save targeting s onSuccess onFailure, names, half, e => by
    rw [resolve_save]
    have rolling : (targets o (aimed (some names) targeting)).run e =
      (.ok (e.seats.filter fun t => names.contains t.id), e) := rfl
    rw [rolling]
    constructor
    · rw [← id_of_named]
      exact forEach_branch_targets o half s onSuccess onFailure _ e
    · exact forEach_hits (fun t e => branch_hits s t e (resolveAll_hits o onSuccess [t.id] half)
        (resolveAll_hits o onFailure [t.id] half)) _ e

/-- Effects that are aimed at ids hit all on the roster who have one. -/
theorem resolveAll_hits (o : Options) : ∀ (effects : List Effect) (names : List String) (half : Bool) (e : Encounter),
    AllHit e.ids names (resolveAll o (some names) half effects e).1
  | [], _, _, _ => by
    rw [resolveAll]
    trivial
  | effect :: effects, names, half, e => by
    rw [resolveAll]
    refine ⟨resolve_hits o effect names half e, ?_⟩
    have rest := resolveAll_hits o effects names half (resolve o (some names) half effect e).2
    rwa [ids_resolve] at rest

end

/-- **What areas and saves nest hits whom they found**: below an area each effect hits all who are in it, and below a
save each of those found rolls and each branch hits the one who rolled. -/
theorem nested_hits (o : Options) (aim : Option (List String)) (half : Bool) (targeting : Option Targeting)
    (e : Encounter) :
    (∀ region effects ids os f, resolve o aim half (.area targeting region effects) e = (.area ids os, f) →
      AllHit e.ids ids os) ∧
    ∀ s onSuccess onFailure ts f, (targets o (aimed aim targeting)).run e = (.ok ts, f) →
      ∃ branches g, resolve o aim half (.save targeting s onSuccess onFailure) e = (.save branches, g) ∧
        branches.map (·.1.target) = ts.map Target.id ∧ BranchesHit e.ids branches := by
  constructor
  · intro region effects ids os f run
    rw [resolve] at run
    have stays := inArea_state region e
    split at run
    · cases run
    · rename_i found g inside
      rw [inside] at stays
      subst stays
      cases run
      exact resolveAll_hits o effects _ half g
  · intro s onSuccess onFailure ts f found
    have still : f.ids = e.ids := by
      have quiet := ids_of_backdrop (backdrop_of_scene (leaves_targets o (aimed aim targeting) e))
      rwa [found] at quiet
    refine ⟨_, _, by rw [resolve_save, found], forEach_branch_targets o half s onSuccess onFailure ts f, still ▸ ?_⟩
    exact forEach_hits (fun t e => branch_hits s t e (resolveAll_hits o onSuccess [t.id] half)
      (resolveAll_hits o onFailure [t.id] half)) ts f

end Encounter
end Bestiary
