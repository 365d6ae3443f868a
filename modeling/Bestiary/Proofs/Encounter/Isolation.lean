import Bestiary.Proofs.Encounter.Hushed
import Bestiary.Proofs.Encounter.Mirror
import Bestiary.Proofs.Encounter.Replay
/-!
# Isolation — a failing effect fails alone

A summon without a creature always fails.  Put anywhere into an action, at any depth, it leaves an outcome of its own
wherever the list it was put into is applied, and nothing else: the same targets are found, the same dice thrown, the
same combatants changed, and every other outcome is what it was (`perform_isolates`).  The two runs are compared step
by step: they stay alike, which is to differ in what was reported at most.
-/
namespace Bestiary

/-- A summon of nobody. -/
def Effect.hollow (targets : Option Targeting) (count : Nat) (position : Json) : Effect :=
  .impact targets (.summon .null count position)

/-- What comes of a summon of nobody. -/
def Outcome.hollow : Outcome := .failed .summon Mishap.noCreature.message

/-- **Effects with a gap in one of their lists**: in this list, or in a list that one of these effects nests. -/
inductive Gap where
  | here (before after : List Effect)
  | area (before : List Effect) (targets : Option Targeting) (region : Option Area) (gap : Gap) (after : List Effect)
  | success (before : List Effect) (targets : Option Targeting) (s : Save) (gap : Gap) (onFailure after : List Effect)
  | failure (before : List Effect) (targets : Option Targeting) (s : Save) (onSuccess : List Effect) (gap : Gap)
    (after : List Effect)

namespace Gap

/-- The effects, with these in the gap. -/
def fill (xs : List Effect) : Gap → List Effect
  | here before after => before ++ (xs ++ after)
  | area before targets region gap after => before ++ .area targets region (gap.fill xs) :: after
  | success before targets s gap onFailure after => before ++ .save targets s (gap.fill xs) onFailure :: after
  | failure before targets s onSuccess gap after => before ++ .save targets s onSuccess (gap.fill xs) :: after

/-- The action with these effects in the gap. -/
def put (gap : Gap) (xs : List Effect) (a : Action) : Action := { a with effects := gap.fill xs }

/-- Every success branch around the gap is one before anything is put into it. -/
def Sound : Gap → Prop
  | here _ _ => True
  | area _ _ _ gap _ => gap.Sound
  | success _ _ _ gap _ _ => gap.fill [] ≠ [] ∧ gap.Sound
  | failure _ _ _ _ gap _ => gap.Sound

/-- **The outcomes, with one more where the gap is**: below an area, in what it nests; below a save, in the branches of
those to whom the list with the gap is applied. -/
def mark (x : Outcome) : Gap → List Outcome → List Outcome
  | here before _, os => os.take before.length ++ x :: os.drop before.length
  | area before _ _ gap _, os => os.modify before.length (Outcome.underArea (gap.mark x))
  | success before _ _ gap _ _, os => os.modify before.length (Outcome.underSave (gap.mark x) id)
  | failure before _ _ _ gap _, os => os.modify before.length (Outcome.underSave id (gap.mark x))

end Gap

namespace Encounter

open Outcome (nodes nodesOfAll nodesOfBranches nodesOfAll_append)

variable {o : Options}

/-! ## Two runs -/

theorem resolve_hollow (aim : Option (List String)) (half : Bool) (targeting : Option Targeting) (count : Nat)
    (position : Json) (e : Encounter) :
    resolve o aim half (.hollow targeting count position) e =
      (.hollow, note (.effectFailed .summon Mishap.noCreature.message) e) := by
  rw [Effect.hollow, resolve]
  rfl

section Lists

variable {aim : Option (List String)} {half : Bool}

theorem follows_append {xs ys : List Effect} {change : List Outcome → List Outcome}
    (h : Follows change (resolveAll o aim half xs) (resolveAll o aim half ys)) : ∀ before : List Effect,
    Follows (fun os => os.take before.length ++ change (os.drop before.length))
      (resolveAll o aim half (before ++ xs)) (resolveAll o aim half (before ++ ys))
  | [] => by simpa using h
  | x :: before => by
    intro e f alike
    obtain ⟨first, alike'⟩ := deaf_resolve o x aim half _ _ alike
    obtain ⟨rest, alike''⟩ := follows_append h before _ _ alike'
    rw [List.cons_append, List.cons_append, resolveAll, resolveAll]
    dsimp only [List.length_cons, List.take_succ_cons, List.drop_succ_cons]
    exact ⟨by rw [first, rest]; rfl, alike''⟩

theorem follows_cons {x y : Effect} {change : Outcome → Outcome}
    (h : Follows change (resolve o aim half x) (resolve o aim half y)) (after : List Effect) :
    Follows (List.modifyHead change) (resolveAll o aim half (x :: after)) (resolveAll o aim half (y :: after)) := by
  intro e f alike
  obtain ⟨first, alike'⟩ := h _ _ alike
  obtain ⟨rest, alike''⟩ := deaf_resolveAll o after aim half _ _ alike'
  rw [resolveAll, resolveAll]
  dsimp only
  exact ⟨by rw [first, rest]; rfl, alike''⟩

theorem follows_among {x y : Effect} {change : Outcome → Outcome}
    (h : Follows change (resolve o aim half x) (resolve o aim half y)) (before after : List Effect) :
    Follows (fun os => os.modify before.length change) (resolveAll o aim half (before ++ x :: after))
      (resolveAll o aim half (before ++ y :: after)) := by
  have split := follows_append (follows_cons h after) before
  have same : (fun os : List Outcome => os.modify before.length change) =
      fun os => os.take before.length ++ (os.drop before.length).modifyHead change := by
    funext os
    exact List.modify_eq_take_drop change os before.length
  rw [same]
  exact split

end Lists

/-! ## The failure branch of who saved -/

/-- Nothing of what a gap stands in is left of a failure branch, and nothing of a summon. -/
theorem filterMap_reduce_fill (s : Save) (targeting : Option Targeting) (count : Nat) (position : Json) (gap : Gap) :
    (gap.fill [.hollow targeting count position]).filterMap (reduce s) = (gap.fill []).filterMap (reduce s) := by
  cases gap with
  | here before after =>
    rw [Gap.fill, Gap.fill, List.filterMap_append, List.filterMap_append, List.filterMap_append]
    rfl
  | area before _ _ gap after | success before _ _ gap _ after | failure before _ _ _ gap after =>
    rw [Gap.fill, Gap.fill, List.filterMap_append, List.filterMap_append]
    rfl

theorem reduced_fill (s : Save) (targeting : Option Targeting) (count : Nat) (position : Json) (gap : Gap) :
    reduced s (gap.fill [.hollow targeting count position]) = reduced s (gap.fill []) := by
  unfold reduced
  rw [filterMap_reduce_fill]

theorem fill_ne_nil {gap : Gap} {xs : List Effect} (given : gap.fill [] ≠ []) : gap.fill xs ≠ [] := by
  cases gap with
  | here before after =>
    intro none
    simp only [Gap.fill, List.append_eq_nil_iff] at none
    exact given (by simp [Gap.fill, none])
  | _ => simp [Gap.fill]

theorem spared_of_given {half : Bool} {s : Save} {onSuccess : List Effect} (given : onSuccess ≠ [])
    (onFailure : List Effect) (t : Target) :
    spared o half s onSuccess onFailure t = resolveAll o (some [t.id]) half onSuccess := by
  funext e
  simp [spared, given]

/-! ## The gap -/

/-- **The run with the summon goes as the run without it**, with one outcome more wherever the gap is. -/
theorem follows_fill (targeting : Option Targeting) (count : Nat) (position : Json) : ∀ gap : Gap, gap.Sound →
    ∀ (aim : Option (List String)) (half : Bool),
      Follows (gap.mark .hollow) (resolveAll o aim half (gap.fill []))
        (resolveAll o aim half (gap.fill [.hollow targeting count position]))
  | .here before after, _, aim, half => by
    have here : Follows (fun os => .hollow :: os) (resolveAll o aim half after)
        (resolveAll o aim half (.hollow targeting count position :: after)) := by
      intro e f alike
      obtain ⟨rest, alike'⟩ := deaf_resolveAll o after aim half e _
        (alike.note_right (.effectFailed .summon Mishap.noCreature.message))
      rw [resolveAll, resolve_hollow]
      dsimp only
      exact ⟨by rw [rest], alike'⟩
    exact follows_append here before
  | .area before targets region gap after, sound, aim, half =>
    follows_among (follows_area aim targets region fun ids =>
      follows_fill targeting count position gap sound (some ids) half) before after
  | .success before targets s gap onFailure after, sound, aim, half => by
    refine follows_among (follows_save aim targets (fun t => ?_) fun ids => ?_) before after
    · rw [spared_of_given sound.1, spared_of_given (fill_ne_nil sound.1)]
      exact follows_fill targeting count position gap sound.2 _ half
    · exact (deaf_resolveAll o onFailure (some ids) half).follows
  | .failure before targets s onSuccess gap after, sound, aim, half => by
    refine follows_among (follows_save aim targets (fun t => ?_) fun ids => ?_) before after
    · -- Who saved gets the success branch or what is left of the failure branch, and both are as without the summon.
      have same : spared o half s onSuccess (gap.fill [.hollow targeting count position]) t =
          spared o half s onSuccess (gap.fill []) t := by
        unfold spared
        rw [reduced_fill]
      rw [same]
      exact (deaf_spared s _ t (deaf_resolveAll o onSuccess _ half)).follows
    · exact follows_fill targeting count position gap sound (some ids) half

/-! ## What the mark adds -/

/-- **A change that adds an outcome to trees and does nothing else**: what holds no such outcome afterwards was there
before, and where there is none at all nothing was changed. -/
structure Adds (x : Outcome) (change : List Outcome → List Outcome) : Prop where
  old : ∀ os, ∀ y ∈ nodesOfAll (change os), x ∉ nodes y → y ∈ nodesOfAll os
  idle : ∀ os, x ∉ nodesOfAll (change os) → change os = os

namespace Adds

variable {x : Outcome} {c d : List Outcome → List Outcome}

theorem nothing : Adds x id := ⟨fun _ _ h _ => h, fun _ _ => rfl⟩

theorem insert (single : nodes x = [x]) (n : Nat) : Adds x fun os => os.take n ++ x :: os.drop n where
  old os y hy free := by
    rw [← List.take_append_drop n os, nodesOfAll_append]
    rw [nodesOfAll_append, nodesOfAll, single, List.mem_append, List.mem_append, List.mem_singleton] at hy
    rcases hy with hy | rfl | hy
    · exact List.mem_append_left _ hy
    · exact absurd (Outcome.self_mem_nodes _) free
    · exact List.mem_append_right _ hy
  idle os free := by
    rw [nodesOfAll_append, nodesOfAll, single] at free
    exact absurd (by simp) free

/-- Changes to one of some outcomes. -/
theorem modify {f : Outcome → Outcome} (old : ∀ a, ∀ y ∈ nodes (f a), x ∉ nodes y → y ∈ nodes a)
    (idle : ∀ a, x ∉ nodes (f a) → f a = a) (n : Nat) : Adds x fun os => os.modify n f where
  old os := by
    induction os generalizing n with
    | nil => exact fun y hy _ => by simpa using hy
    | cons a os ih =>
      intro y hy free
      cases n with
      | zero =>
        simp only [List.modify_zero_cons, nodesOfAll, List.mem_append] at hy ⊢
        exact hy.imp_left fun hy => old a y hy free
      | succ n =>
        simp only [List.modify_succ_cons, nodesOfAll, List.mem_append] at hy ⊢
        exact hy.imp_right fun hy => ih n y hy free
  idle os := by
    induction os generalizing n with
    | nil => simp
    | cons a os ih =>
      intro free
      cases n with
      | zero =>
        simp only [List.modify_zero_cons, nodesOfAll, List.mem_append, not_or] at free ⊢
        rw [idle a free.1]
      | succ n =>
        simp only [List.modify_succ_cons, nodesOfAll, List.mem_append, not_or] at free ⊢
        rw [ih n free.2]

theorem underArea (h : Adds x c) (n : Nat) : Adds x fun os => os.modify n (Outcome.underArea c) := by
  refine modify (fun a y hy free => ?_) (fun a free => ?_) n
  · cases a with
    | area ids os =>
      rw [Outcome.underArea, nodes, List.mem_cons] at hy
      rw [nodes, List.mem_cons]
      rcases hy with rfl | hy
      · rw [nodes, List.mem_cons, not_or] at free
        exact .inl (by rw [h.idle os free.2])
      · exact .inr (h.old os y hy free)
    | _ => exact hy
  · cases a with
    | area ids os =>
      rw [Outcome.underArea, nodes, List.mem_cons, not_or] at free
      rw [Outcome.underArea, h.idle os free.2]
    | _ => rfl

/-- Below a save, each branch is changed as its verdict says. -/
theorem branch (hc : Adds x c) (hd : Adds x d) (line : SaveLine) :
    Adds x fun os => if line.saved then c os else d os := by
  cases saved : line.saved with
  | false => simpa [saved] using hd
  | true => simpa [saved] using hc

theorem branches (hc : Adds x c) (hd : Adds x d) (bs : List (SaveLine × List Outcome)) :
    (∀ y ∈ nodesOfBranches (bs.map fun b => (b.1, if b.1.saved then c b.2 else d b.2)),
      x ∉ nodes y → y ∈ nodesOfBranches bs) ∧
    (x ∉ nodesOfBranches (bs.map fun b => (b.1, if b.1.saved then c b.2 else d b.2)) →
      (bs.map fun b => (b.1, if b.1.saved then c b.2 else d b.2)) = bs) := by
  induction bs with
  | nil => exact ⟨fun _ h _ => h, fun _ => rfl⟩
  | cons b rest ih =>
    obtain ⟨old, idle⟩ := ih
    have here := hc.branch hd b.1
    rw [List.map_cons, nodesOfBranches, nodesOfBranches]
    constructor
    · intro y hy free
      rw [List.mem_append] at hy ⊢
      exact hy.imp (fun hy => here.old b.2 y hy free) fun hy => old y hy free
    · intro free
      rw [List.mem_append, not_or] at free
      rw [idle free.2, here.idle b.2 free.1]

theorem underSave (hc : Adds x c) (hd : Adds x d) (n : Nat) :
    Adds x fun os => os.modify n (Outcome.underSave c d) := by
  refine modify (fun a y hy free => ?_) (fun a free => ?_) n
  · cases a with
    | save bs =>
      obtain ⟨old, idle⟩ := hc.branches hd bs
      rw [Outcome.underSave, nodes, List.mem_cons] at hy
      rw [nodes, List.mem_cons]
      rcases hy with rfl | hy
      · rw [nodes, List.mem_cons, not_or] at free
        exact .inl (by rw [idle free.2])
      · exact .inr (old y hy free)
    | _ => exact hy
  · cases a with
    | save bs =>
      rw [Outcome.underSave, nodes, List.mem_cons, not_or] at free
      rw [Outcome.underSave, (hc.branches hd bs).2 free.2]
    | _ => rfl

theorem mark (single : nodes x = [x]) : ∀ gap : Gap, Adds x (gap.mark x)
  | .here before _ => .insert single before.length
  | .area before _ _ gap _ => (mark single gap).underArea before.length
  | .success before _ _ gap _ _ => (mark single gap).underSave nothing before.length
  | .failure before _ _ _ gap _ => nothing.underSave (mark single gap) before.length

end Adds

theorem hollow_fails : Outcome.Fails .hollow := trivial

/-- **A summon of nobody fails alone.**  Put into any list of effects of an action, at any depth, but not into a success
branch that is not there, it leaves one outcome more wherever that list is applied.  Combatants, dice and all else but
the journal are as without it.  What holds the new outcome fails, and what does not is in the report without it; a
report in which it is nowhere is the report without it.  For who saves where there is only a failure branch, it does
nothing. -/
theorem perform_isolates (o : Options) (a : Action) (gap : Gap) (split : a.effects = gap.fill []) (sound : gap.Sound)
    (targeting : Option Targeting) (count : Nat) (position : Json) (e : Encounter) :
    let b := gap.put [.hollow targeting count position] a
    (perform o b e).1.effects = gap.mark .hollow (perform o a e).1.effects ∧
    Alike (perform o a e).2 (perform o b e).2 ∧
    (∀ y ∈ nodesOfAll (perform o b e).1.effects, .hollow ∈ nodes y → y.success = false) ∧
    (.hollow ∈ nodesOfAll (perform o b e).1.effects → (perform o b e).1.success = false) ∧
    (∀ y ∈ nodesOfAll (perform o b e).1.effects, .hollow ∉ nodes y → y ∈ nodesOfAll (perform o a e).1.effects) ∧
    (.hollow ∉ nodesOfAll (perform o b e).1.effects → (perform o b e).1 = (perform o a e).1) ∧
    ∀ half s t now, (rollSave t.combatant s now.rule now).1.any (·.saved) = true →
      branch o half s [] (gap.fill [.hollow targeting count position]) t now =
        branch o half s [] (gap.fill []) t now := by
  intro b
  obtain ⟨marked, alike⟩ := follows_fill targeting count position gap sound none false e e (.refl e)
  rw [← split] at marked alike
  have adds : Adds .hollow (gap.mark .hollow) := .mark rfl gap
  have effects : (perform o b e).1.effects = gap.mark .hollow (perform o a e).1.effects := marked
  refine ⟨effects, alike.notes _ _, ?_, ?_, ?_, ?_, ?_⟩
  · intro y _ inside
    rw [← Bool.not_eq_true, Outcome.success_iff]
    exact fun fine => fine _ inside hollow_fails
  · intro inside
    rw [← Bool.not_eq_true, Report.success, Outcome.allSucceed_iff]
    exact fun fine => fine _ inside hollow_fails
  · rw [effects]
    exact adds.old _
  · intro free
    have same : (perform o b e).1.effects = (perform o a e).1.effects := by
      rw [effects] at free ⊢
      exact adds.idle _ free
    exact congrArg (Report.mk a.id.text) same
  · intro half s t now saved
    rw [branch_left rfl half _ saved, branch_left rfl half _ saved, reduced_fill]

/-- A gap between two blows to those who do not save. -/
def tremorGap : Gap :=
  let hold : Save := { (default : Save) with ability := some .constitution, dc := some 12, half := true }
  .area [] none none
    (.failure [] none hold []
      (.here [.impact none (.damage (.fixed 7) none none)] [.impact none (.damage (.fixed 4) none none)]) [])
    [.impact none (.healing (.fixed 9))]

/-- Two blows to everyone, halved for who saves, and healing for the one who was chosen. -/
def tremor : Action :=
  { id := ⟨"tremor", by decide⟩, name := ⟨"Tremor", by decide⟩, description := "", economy := .lair, cost := 0,
    trigger := none, recharge := none, phase := none, effects := tremorGap.fill [] }

/-- The knight, who fails the save, has one outcome more, and the wolf, who makes it, has not. -/
theorem perform_isolates_tremor :
    let b := tremorGap.put [.hollow none 2 .null] tremor
    (nodesOfAll (perform knightChosen tremor skirmish).1.effects).map Outcome.kind =
      [.area, .save, .damage, .damage, .damage, .damage, .healing] ∧
    (nodesOfAll (perform knightChosen b skirmish).1.effects).map Outcome.kind =
      [.area, .save, .damage, .summon, .damage, .damage, .damage, .healing] ∧
    (perform knightChosen b skirmish).1.effects =
      tremorGap.mark .hollow (perform knightChosen tremor skirmish).1.effects ∧
    Alike (perform knightChosen tremor skirmish).2 (perform knightChosen b skirmish).2 := by
  have sound : tremorGap.Sound := trivial
  obtain ⟨marked, alike, -⟩ := perform_isolates knightChosen tremor tremorGap rfl sound none 2 .null skirmish
  exact ⟨by decide +kernel, by decide +kernel, marked, alike⟩

end Encounter
end Bestiary
