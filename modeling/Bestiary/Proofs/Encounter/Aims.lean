import Bestiary.Proofs.Encounter.Draws
import Bestiary.Proofs.Encounter.Hits
/-!
# Aims — nobody who was found is lost

Where ids are distinct, whoever a targeting finds on the roster is found again by id: the same combatants, each once, in
roster order.  So effects that are aimed at those found have a line for each of them (`Hits`) and touch nobody else
(`Confined`), up to the next area, which finds its own.  What each choice finds on the roster, `targets_lossless` says.
-/
namespace Bestiary

/-- Who a target is: a place on the roster and an id. -/
def Target.who (t : Target) : Option Nat × String := (t.seat, t.id)

namespace Encounter

open Outcome

/-! ## What is found on the roster -/

/-- **Different combatants of a roster, in its order.** -/
structure Ordered (e : Encounter) (ts : List Target) : Prop where
  sublist : ts.Sublist e.seats
  distinct : (ts.map Target.id).Nodup

theorem nodup_id_seats {e : Encounter} (distinct : e.ids.Nodup) : (e.seats.map Target.id).Nodup :=
  (map_id_seats e).symm ▸ distinct

theorem ordered_filter {e : Encounter} (distinct : e.ids.Nodup) (p : Target → Bool) : Ordered e (e.seats.filter p) :=
  ⟨List.filter_sublist, (nodup_id_seats distinct).sublist (List.filter_sublist.map _)⟩

/-- A choice that goes through the roster. -/
def Listed : Choice → Prop
  | .all | .players | .monsters | .allies | .enemies | .specific => True
  | .self | .random | .area | .selected => False

/-- Whether a targeting by side or by id describes someone. -/
def Describes (o : Options) (t : Targeting) (s : Target) : Prop :=
  match t.choice with
  | .all => True
  | .players => s.combatant.side = .player
  | .monsters => s.combatant.side = .monster
  | .allies => o.side? = some s.combatant.side
  | .enemies => ∃ side, o.side? = some side ∧ s.combatant.side ≠ side
  | .specific => s.id ∈ t.ids
  | .self | .random | .area | .selected => False

/-- **A choice that goes through the roster finds whom it describes**, each once, in roster order. -/
theorem targets_listed (o : Options) {e : Encounter} (distinct : e.ids.Nodup) (t : Targeting)
    (listed : Listed t.choice) :
    ∃ ts, (targets o (some t)).run e = (.ok ts, e) ∧ Ordered e ts ∧ ∀ s, s ∈ ts ↔ s ∈ e.seats ∧ Describes o t s := by
  have filtered (p : Target → Bool) (describes : ∀ s, p s = true ↔ Describes o t s) :
      Ordered e (e.seats.filter p) ∧ ∀ s, s ∈ e.seats.filter p ↔ s ∈ e.seats ∧ Describes o t s :=
    ⟨ordered_filter distinct p, fun s => by rw [List.mem_filter, describes]⟩
  have nobody : Ordered e [] := ⟨List.nil_sublist _, List.nodup_nil⟩
  obtain ⟨choice, count, names, area⟩ := t
  cases choice with
  | all => exact ⟨_, rfl, ⟨.refl _, nodup_id_seats distinct⟩, fun s => by simp [Describes]⟩
  | players => exact ⟨_, rfl, filtered _ fun s => by simp [Describes]⟩
  | monsters => exact ⟨_, rfl, filtered _ fun s => by simp [Describes]⟩
  | allies =>
    cases side : o.side? with
    | none => exact ⟨[], by simp [targets, Act.run, side], nobody, by simp [Describes, side]⟩
    | some acting =>
      refine ⟨_, by simp only [targets, Act.run, side]; rfl, filtered _ fun s => ?_⟩
      simp [Describes, side, eq_comm]
  | enemies =>
    cases side : o.side? with
    | none => exact ⟨[], by simp [targets, Act.run, side], nobody, by simp [Describes, side]⟩
    | some acting =>
      refine ⟨_, by simp only [targets, Act.run, side]; rfl, filtered _ fun s => ?_⟩
      simp [Describes, side]
  | specific => exact ⟨_, rfl, filtered _ fun s => by simp [Describes]⟩
  | self | random | area | selected => exact listed.elim

/-- **Allies and enemies together are everyone**, each on one side. -/
theorem targets_sides {o : Options} {e : Encounter} (distinct : e.ids.Nodup) {side : Side}
    (acting : o.side? = some side) {allies enemies : Targeting} (ours : allies.choice = .allies)
    (theirs : enemies.choice = .enemies) :
    ∃ xs ys, (targets o (some allies)).run e = (.ok xs, e) ∧ (targets o (some enemies)).run e = (.ok ys, e) ∧
      Ordered e xs ∧ Ordered e ys ∧ (xs ++ ys).Perm e.seats := by
  refine ⟨e.seats.filter fun s => s.combatant.side = side, e.seats.filter fun s => !decide (s.combatant.side = side),
    ?_, ?_, ordered_filter distinct _, ordered_filter distinct _, List.filter_append_perm _ _⟩
  · simp [targets, Act.run, ours, acting]
  · simp [targets, Act.run, theirs, acting]

/-- **Those chosen at random are as many as asked for, or all there are**, and nobody is chosen twice. -/
theorem targets_random (o : Options) {e : Encounter} (distinct : e.ids.Nodup) {t : Targeting}
    (random : t.choice = .random) :
    ∃ ts draws, (targets o (some t)).run e = (.ok ts, { e with draws := draws }) ∧
      ts.length = min t.count e.roster.length ∧ (∀ s ∈ ts, s ∈ e.seats) ∧ (ts.map Target.id).Nodup := by
  have everyone : e.seats.length = e.roster.length := by simp [seats]
  have room : min t.count e.roster.length ≤ e.seats.length := everyone ▸ Nat.min_le_right _ _
  obtain ⟨length, some_seats⟩ := Draws.sample_subperm room e.draws
  refine ⟨_, _, by simp only [targets, Act.run, random]; rfl, length, fun s hs => some_seats.subset hs, ?_⟩
  obtain ⟨chosen, same, in_order⟩ := some_seats
  have once : (chosen.map Target.id).Nodup := (nodup_id_seats distinct).sublist (in_order.map _)
  exact (same.map Target.id).nodup_iff.1 once

/-! ## Those found, found again -/

/-- Where ids are distinct, whoever is seated with an id has the place of that id. -/
theorem Seated.who_eq {e : Encounter} {t u : Target} (distinct : e.ids.Nodup) (ht : Seated e t) (hu : Seated e u)
    (id : u.id = t.id) : u.who = t.who := by
  obtain ⟨n, seat, at_n⟩ := ht
  obtain ⟨m, seat', at_m⟩ := hu
  have place : m = n :=
    (List.getElem?_inj (List.getElem?_eq_some_iff.1 at_m).1 distinct).1 (at_m.trans (id ▸ at_n.symm))
  simp only [Target.who, seat, seat', place, id]

/-- **Whoever stands on the roster is found again by id**, each once and in roster order, and nobody else is. -/
theorem targets_aimed (o : Options) {e g : Encounter} (distinct : e.ids.Nodup) (same : g.ids = e.ids) {ts : List Target}
    (seated : ∀ t ∈ ts, Seated e t) (own : Option Targeting) :
    ∃ again, (targets o (aimed (some (ts.map Target.id)) own)).run g = (.ok again, g) ∧ Ordered g again ∧
      again.map Target.id = among g.ids (ts.map Target.id) ∧
      ∀ who, who ∈ again.map Target.who ↔ who ∈ ts.map Target.who := by
  refine ⟨g.seats.filter fun s => (ts.map Target.id).contains s.id, rfl, ordered_filter (same ▸ distinct) _,
    id_of_named g _, fun who => ⟨fun found => ?_, fun found => ?_⟩⟩
  · obtain ⟨u, hu, rfl⟩ := List.mem_map.1 found
    obtain ⟨seat, named⟩ := List.mem_filter.1 hu
    obtain ⟨t, ht, id⟩ := List.mem_map.1 (List.contains_iff_mem.1 named)
    -- An id is found at one place only, so whoever has it is the one it was taken from.
    rw [(seated t ht).who_eq distinct ((seated_of_mem_seats seat).transfer same.symm) id.symm]
    exact List.mem_map_of_mem ht
  · obtain ⟨t, ht, rfl⟩ := List.mem_map.1 found
    have id_mem : t.id ∈ g.seats.map Target.id := by
      obtain ⟨n, -, at_n⟩ := seated t ht
      rw [map_id_seats, same]
      exact List.mem_of_getElem? at_n
    obtain ⟨u, hu, id⟩ := List.mem_map.1 id_mem
    rw [← (seated t ht).who_eq distinct ((seated_of_mem_seats hu).transfer same.symm) id]
    apply List.mem_map_of_mem
    rw [List.mem_filter, List.contains_iff_mem, id]
    exact ⟨hu, List.mem_map_of_mem ht⟩

/-! ## Sound and lossless -/

/-- **Targets are found soundly and none is lost.**  A side and the others together are the whole roster, each choice by
side or by id finds whom it describes and in roster order, and a random choice finds as many as it can.  Whatever was
found, if it stands on the roster, is found again by id after any effects; and effects aimed at those found hit each of
them and touch nobody else, up to the next area, which finds its own. -/
theorem targets_lossless (o : Options) (e : Encounter) (distinct : e.ids.Nodup) :
    (∀ side, o.side? = some side → ∀ allies enemies : Targeting, allies.choice = .allies → enemies.choice = .enemies →
      ∃ xs ys, (targets o (some allies)).run e = (.ok xs, e) ∧ (targets o (some enemies)).run e = (.ok ys, e) ∧
        Ordered e xs ∧ Ordered e ys ∧ (xs ++ ys).Perm e.seats) ∧
    (∀ t : Targeting, Listed t.choice → ∃ ts, (targets o (some t)).run e = (.ok ts, e) ∧ Ordered e ts ∧
      ∀ s, s ∈ ts ↔ s ∈ e.seats ∧ Describes o t s) ∧
    (∀ t : Targeting, t.choice = .random → ∃ ts draws,
      (targets o (some t)).run e = (.ok ts, { e with draws := draws }) ∧ ts.length = min t.count e.roster.length ∧
        (∀ s ∈ ts, s ∈ e.seats) ∧ (ts.map Target.id).Nodup) ∧
    (∀ targeting ts f, (targets o targeting).run e = (.ok ts, f) → (∀ t ∈ ts, Seated e t) →
      ∀ g : Encounter, g.ids = f.ids → ∀ (o' : Options) (own : Option Targeting),
        (∃ again, (targets o' (aimed (some (ts.map Target.id)) own)).run g = (.ok again, g) ∧ Ordered g again ∧
          again.map Target.id = among g.ids (ts.map Target.id) ∧
          ∀ who, who ∈ again.map Target.who ↔ who ∈ ts.map Target.who) ∧
        ∀ half effects, AllHit g.ids (ts.map Target.id) (resolveAll o' (some (ts.map Target.id)) half effects g).1 ∧
          Confined (ts.map Target.id) g (resolveAll o' (some (ts.map Target.id)) half effects g).1
            (resolveAll o' (some (ts.map Target.id)) half effects g).2) ∧
    ∀ aim half targeting,
      (∀ region effects ids os f, resolve o aim half (.area targeting region effects) e = (.area ids os, f) →
        AllHit e.ids ids os) ∧
      ∀ s onSuccess onFailure ts f, (targets o (aimed aim targeting)).run e = (.ok ts, f) →
        ∃ branches g, resolve o aim half (.save targeting s onSuccess onFailure) e = (.save branches, g) ∧
          branches.map (·.1.target) = ts.map Target.id ∧ BranchesHit e.ids branches := by
  refine ⟨fun side acting allies enemies => targets_sides distinct acting, targets_listed o distinct,
    fun t => targets_random o distinct, ?_, fun aim half targeting => nested_hits o aim half targeting e⟩
  intro targeting ts f found seated g same o' own
  have still : f.ids = e.ids := by
    have quiet := ids_of_backdrop (backdrop_of_scene (leaves_targets o targeting e))
    rwa [found] at quiet
  constructor
  · exact targets_aimed o' distinct (same.trans still) seated own
  · intro half effects
    exact ⟨resolveAll_hits o' effects _ half g, resolveAll_confined o' effects _ half g⟩

/-- The knight acts, and its foes are meant. -/
def foes : Targeting := ⟨.enemies, 1, [], none⟩

/-- The knight acts. -/
def byKnight : Options := ⟨some knight, none, []⟩

theorem targets_lossless_skirmish :
    (∃ xs ys, (targets byKnight (some ⟨.allies, 1, [], none⟩)).run skirmish = (.ok xs, skirmish) ∧
      (targets byKnight (some foes)).run skirmish = (.ok ys, skirmish) ∧ (xs ++ ys).Perm skirmish.seats) ∧
    (∃ ts draws, (targets byKnight (some ⟨.random, 5, [], none⟩)).run skirmish =
      (.ok ts, { skirmish with draws := draws }) ∧ ts.length = 2 ∧ (ts.map Target.id).Nodup) ∧
    (∃ again, (targets .none (some (.specific ["wolf"]))).run skirmish = (.ok again, skirmish) ∧
      Ordered skirmish again ∧ ∀ who, who ∈ again.map Target.who ↔ who = (some 1, "wolf")) ∧
    ∃ branches g, resolve byKnight none false (.save (some foes) footing [] []) skirmish = (.save branches, g) ∧
      branches.map (·.1.target) = ["wolf"] := by
  have distinct : skirmish.ids.Nodup := by decide
  have wolf : (targets byKnight (some foes)).run skirmish = (.ok [⟨some 1, fighter "wolf" .monster⟩], skirmish) := rfl
  have seated : ∀ t ∈ [(⟨some 1, fighter "wolf" .monster⟩ : Target)], Seated skirmish t := by
    rintro t ht
    cases List.mem_singleton.1 ht
    exact ⟨1, rfl, rfl⟩
  obtain ⟨sides, -, random, again, nested⟩ := targets_lossless byKnight skirmish distinct
  refine ⟨?_, ?_, ?_, ?_⟩
  · obtain ⟨xs, ys, ours, theirs, -, -, all⟩ := sides .player rfl ⟨.allies, 1, [], none⟩ foes rfl rfl
    exact ⟨xs, ys, ours, theirs, all⟩
  · obtain ⟨ts, draws, run, length, -, once⟩ := random ⟨.random, 5, [], none⟩ rfl
    exact ⟨ts, draws, run, length, once⟩
  · obtain ⟨ts, run, ordered, -, same⟩ := (again (some foes) _ _ wolf seated skirmish rfl .none none).1
    refine ⟨ts, run, ordered, fun who => (same who).trans ?_⟩
    exact List.mem_singleton
  · obtain ⟨branches, g, run, rolled, -⟩ := (nested none false (some foes)).2 footing [] [] _ _ wolf
    exact ⟨branches, g, run, rolled⟩

/-- Only the wolf is found and rolls, but the area among the effects aimed at it finds the knight too, who is hurt. -/
theorem wolf_found_knight_suffers :
    let run := resolve byKnight none false (.save (some foes) footing [] gust) skirmish
    skirmish.ids.Nodup ∧
    (targets byKnight (some foes)).run skirmish = (.ok [⟨some 1, fighter "wolf" .monster⟩], skirmish) ∧
    run.1.branches.map (fun (line, os) => (line.target, recordedByAll os)) =
      [("wolf", ["knight", "wolf", "knight", "wolf"])] ∧
    skirmish.roster[0]? = some (fighter "knight" .player) ∧
    run.2.roster[0]? = some { fighter "knight" .player with hp := 5 } ∧
    ¬Spares (· = "wolf") skirmish run.2 := by
  refine ⟨by decide, rfl, by decide +kernel, rfl, by decide +kernel, fun spares => ?_⟩
  have stands := spares 0 (fighter "knight" .player) rfl (by decide)
  revert stands
  decide +kernel

end Encounter
end Bestiary
