import Bestiary.Proofs.Encounter.Replay
import Bestiary.Proofs.Table.Play
/-!
# Vitality — hit points over a whole fight

The uses of a play leave one log of changes, and replaying it on the first roster gives the last one
(`roster_after`).  Damage and healing bring hit points within zero and the maximum whatever they were and whatever the
amount is; a condition leaves them alone.  So at each point of the log hit points are those of the start, or within
range (`vitality_of_play`).
-/
namespace Bestiary

open Outcome (changesOfAll)

/-- Whether a change sets the hit points of the combatant with an id. -/
def Change.Touches (id : String) : Change → Prop
  | .wound who _ | .mend who _ => who = id
  | .afflict _ _ _ => False

namespace Combatant

def InRange (c : Combatant) : Prop := 0 ≤ c.hp ∧ c.hp ≤ c.maxHp

/-- The combatant after a change to whoever has the id of it. -/
def meet (c : Combatant) (x : Change) : Combatant := if c.id = x.id then x.on c else c

def through (c : Combatant) (xs : List Change) : Combatant := xs.foldl meet c

theorem meet_id (c : Combatant) (x : Change) : (c.meet x).id = c.id := by
  unfold meet
  split
  · cases x <;> rfl
  · rfl

theorem meet_maxHp (c : Combatant) (x : Change) : (c.meet x).maxHp = c.maxHp := by
  unfold meet
  split
  · cases x <;> rfl
  · rfl

/-- **Whatever touches hit points brings them within range.** -/
theorem inRange_meet_of_touches {c : Combatant} {x : Change} (touched : x.Touches c.id) : (c.meet x).InRange := by
  cases x with
  | wound who damage =>
    have own : c.id = who := Eq.symm touched
    simp only [meet, Change.id, own, if_pos, Change.on, InRange]
    omega
  | mend who healing =>
    have own : c.id = who := Eq.symm touched
    simp only [meet, Change.id, own, if_pos, Change.on, InRange]
    omega
  | afflict => exact touched.elim

theorem hp_meet_of_not_touches {c : Combatant} {x : Change} (untouched : ¬x.Touches c.id) : (c.meet x).hp = c.hp := by
  cases x with
  | wound who damage =>
    have other : c.id ≠ who := fun own => untouched own.symm
    rw [meet, Change.id, if_neg other]
  | mend who healing =>
    have other : c.id ≠ who := fun own => untouched own.symm
    rw [meet, Change.id, if_neg other]
  | afflict =>
    unfold meet
    split <;> rfl

theorem inRange_meet {c : Combatant} (x : Change) (inRange : c.InRange) : (c.meet x).InRange := by
  by_cases touched : x.Touches c.id
  · exact inRange_meet_of_touches touched
  · unfold InRange
    rw [hp_meet_of_not_touches touched, meet_maxHp]
    exact inRange

theorem through_cons (c : Combatant) (x : Change) (xs : List Change) :
    c.through (x :: xs) = (c.meet x).through xs := rfl

theorem through_id : ∀ (xs : List Change) (c : Combatant), (c.through xs).id = c.id
  | [], _ => rfl
  | x :: xs, c => by rw [through_cons, through_id xs, meet_id]

theorem through_maxHp : ∀ (xs : List Change) (c : Combatant), (c.through xs).maxHp = c.maxHp
  | [], _ => rfl
  | x :: xs, c => by rw [through_cons, through_maxHp xs, meet_maxHp]

theorem inRange_through : ∀ (xs : List Change) {c : Combatant}, c.InRange → (c.through xs).InRange
  | [], _, h => h
  | x :: xs, _, h => inRange_through xs (inRange_meet x h)

/-- Once touched, a combatant stays within range. -/
theorem inRange_through_of_touched : ∀ {xs : List Change} {c : Combatant}, (∃ x ∈ xs, x.Touches c.id) →
    (c.through xs).InRange
  | x :: xs, c, touched => by
    rw [through_cons]
    by_cases first : x.Touches c.id
    · exact inRange_through xs (inRange_meet_of_touches first)
    · apply inRange_through_of_touched
      rw [meet_id]
      simpa [first] using touched

theorem hp_through_of_untouched : ∀ {xs : List Change} {c : Combatant}, (∀ x ∈ xs, ¬x.Touches c.id) →
    (c.through xs).hp = c.hp
  | [], _, _ => rfl
  | x :: xs, c, untouched => by
    rw [through_cons, hp_through_of_untouched, hp_meet_of_not_touches (untouched x List.mem_cons_self)]
    rw [meet_id]
    exact fun y hy => untouched y (List.mem_cons_of_mem _ hy)

end Combatant

theorem replay_eq_map : ∀ (xs : List Change) (roster : List Combatant),
    replay xs roster = roster.map fun c => c.through xs
  | [], roster => by simp [replay, Combatant.through]
  | x :: xs, roster => by
    have first : replay (x :: xs) roster = replay xs (roster.map fun c => c.meet x) := rfl
    rw [first, replay_eq_map xs, List.map_map]
    rfl

namespace Table

open Encounter (Seated Ready Undisturbed noteAll ids_of_undisturbed perform_traced traced_replayed)

/-! ## The log of a play -/

def changes (us : List Use) : List Change := us.flatMap fun u => changesOfAll u.report.effects

/-- Those that a move names stand on the roster. -/
def Named (e : Encounter) : Move → Prop
  | .command _ (.use _ o) _ => (∀ x ∈ o.selected, Seated e x) ∧ ∀ x ∈ o.source, Seated e x
  | _ => True

theorem Named.transfer {e f : Encounter} {m : Move} (h : Named e m) (same : f.ids = e.ids) : Named f m := by
  unfold Named at h ⊢
  split
  · exact ⟨fun x hx => (h.1 x hx).transfer same, fun x hx => (h.2 x hx).transfer same⟩
  · trivial

/-- A creature that acts names itself only if it stands on the roster. -/
theorem ready_complete {e : Encounter} (distinct : e.ids.Nodup) (online : e.world.Online) {o : Options}
    (selected : ∀ x ∈ o.selected, Seated e x) (source : ∀ x ∈ o.source, Seated e x) (c : Creature) :
    Ready (c.complete o e) e := by
  refine ⟨distinct, online, selected, fun x hx => ?_⟩
  simp only [Creature.complete] at hx
  rcases Option.or_eq_some_iff.1 hx with own | ⟨-, found⟩
  · exact source x own
  · exact Encounter.seated_of_mem_seats (List.mem_of_find?_eq_some found)

/-- **A move changes the roster by what its use reports**, and nobody leaves it. -/
theorem roster_play {t : Table} (distinct : t.encounter.ids.Nodup) (online : t.encounter.world.Online) {m : Move}
    (named : Named t.encounter m) :
    (t.play m).encounter.roster = replay (changes (t.use? m).toList) t.encounter.roster ∧
    (t.play m).encounter.ids = t.encounter.ids ∧ (t.play m).encounter.world = t.encounter.world := by
  have played := play_played t m
  generalize t.use? m = used at played
  generalize (t.play m).encounter = f at played
  cases played with
  | @used place id o s c a report c' f seated found able carried roster =>
    let e := noteAll (Creature.checkNotices a t.encounter) t.encounter
    have ready : Ready (c.complete o t.encounter) e :=
      (ready_complete distinct online named.1 named.2 c).transfer (Creature.undisturbed_noteAll _ _)
    have ids := ids_of_undisturbed carried.elsewhere
    have replayed := (perform_traced (traced_replayed (c.complete o t.encounter)) a e).2 ready
    refine ⟨?_, ids, carried.elsewhere.world⟩
    rw [roster, replayed, ← carried.performed]
    simp [changes, e, noteAll]
  | aside aside =>
    obtain ⟨cup, journal, rfl⟩ := aside
    exact ⟨rfl, rfl, rfl⟩
  | flag flag used => cases flag <;> exact ⟨rfl, rfl, rfl⟩
  | _ => exact ⟨rfl, rfl, rfl⟩

theorem changes_append (us vs : List Use) : changes (us ++ vs) = changes us ++ changes vs := List.flatMap_append

/-- The roster after a play is the first one with the log of the play replayed. -/
theorem roster_after : ∀ (ms : List Move) {t : Table}, t.encounter.ids.Nodup → t.encounter.world.Online →
    (∀ m ∈ ms, Named t.encounter m) →
    (t.after ms).encounter.roster = replay (changes (t.uses ms)) t.encounter.roster
  | [], _, _, _, _ => rfl
  | m :: ms, t, distinct, online, named => by
    obtain ⟨roster, ids, world⟩ := roster_play distinct online (named m List.mem_cons_self)
    rw [after, uses, changes_append, replay_append, ← roster]
    refine roster_after ms (ids ▸ distinct) (world ▸ online) fun m' hm' => ?_
    exact (named m' (List.mem_cons_of_mem _ hm')).transfer ids

/-- **Hit points stay in range over a whole fight.**  Where ids are distinct and uses name combatants of the roster, the
roster after any play is the first one with every reported change replayed, and after each of these changes every
combatant has the hit points of the start if none touched them, and hit points within zero and the maximum if one did;
who starts within range stays within it, and only those without hit points are unconscious. -/
theorem vitality_of_play (t : Table) (ms : List Move) (distinct : t.encounter.ids.Nodup)
    (online : t.encounter.world.Online) (named : ∀ m ∈ ms, Named t.encounter m) :
    (t.after ms).encounter.roster = replay (changes (t.uses ms)) t.encounter.roster ∧
    ∀ done, done <+: changes (t.uses ms) → ∀ (n : Nat) (c : Combatant), t.encounter.roster[n]? = some c →
      ∃ d, (replay done t.encounter.roster)[n]? = some d ∧ d.id = c.id ∧ d.maxHp = c.maxHp ∧
        ((∀ x ∈ done, ¬x.Touches c.id) → d.hp = c.hp) ∧ ((∃ x ∈ done, x.Touches c.id) → d.InRange) ∧
        (c.InRange → d.InRange) ∧ (d.isConscious = false ↔ d.hp ≤ 0) := by
  refine ⟨roster_after ms distinct online named, fun done _ n c at_n => ⟨c.through done, ?_, ?_⟩⟩
  · rw [replay_eq_map, List.getElem?_map, at_n]
    rfl
  · refine ⟨Combatant.through_id done c, Combatant.through_maxHp done c, Combatant.hp_through_of_untouched,
      Combatant.inRange_through_of_touched, Combatant.inRange_through done, ?_⟩
    simp [Combatant.isConscious]

/-- A blow that takes less than nothing from those selected, and a bite that feeds the one who bites. -/
def feast : Action :=
  { id := ⟨"feast", by decide⟩, name := ⟨"Feast", by decide⟩, description := "", economy := .lair, cost := 0,
    trigger := none, recharge := none, phase := none,
    effects :=
      [.impact none (.damage (.fixed (-3)) none none), .impact (some ⟨.self, 1, [], none⟩) (.healing (.fixed 40))] }

/-- A knight with more hit points than there can be, a wolf that is down and a page with fewer than none; the wolf can
feast. -/
def brawl : Table :=
  let brawler (id : String) (side : Side) (hp : Int) : Combatant := { Encounter.fighter id side with hp := hp }
  ⟨[commoner ⟨"wolf", by decide⟩ [feast]],
    .opening [brawler "knight" .player 30, brawler "wolf" .monster 0, brawler "page" .player (-1)] []⟩

theorem vitality_of_play_brawl :
    let knight := brawl.encounter.seats.take 1
    let ms := [.setRound 2, .command 0 (.use "feast" ⟨none, none, knight⟩) ⟨0, Encounter.evening⟩]
    changes (brawl.uses ms) = [.wound "knight" 0, .mend "wolf" 40] ∧
    (brawl.after ms).encounter.roster.map Combatant.hp = [12, 12, -1] ∧
    (brawl.after ms).encounter.roster = replay (changes (brawl.uses ms)) brawl.encounter.roster := by
  intro knight ms
  have named : ∀ m ∈ ms, Named brawl.encounter m := by
    intro m hm
    simp only [ms, List.mem_cons, List.not_mem_nil, or_false] at hm
    rcases hm with rfl | rfl
    · trivial
    · exact ⟨fun x hx => Encounter.seated_of_mem_seats (List.mem_of_mem_take hx), fun x hx => nomatch hx⟩
  exact ⟨by decide +kernel, by decide +kernel, (vitality_of_play brawl ms (by decide) World.plain_online named).1⟩

end Table
end Bestiary
