import Bestiary.Proofs.Encounter.Halving
import Bestiary.Proofs.Encounter.Hushed
import Bestiary.Proofs.Encounter.Replay
/-!
# Inline — a save of an effect's own, or a save around the effect

A damage or condition effect can roll a save of its own, or a save effect can have it as its failure branch.  The first
way gates each target as it is struck; the second finds each target again by its id and strikes it by itself.  Where ids
are distinct and hit points are within their bounds both ways come to the same (`resolve_inline`): the same encounter
but for what is reported, and the same verdict on each target.  Hit points have to be within their bounds because a save
that negates still deals no damage one way, and does nothing at all the other way.
-/
namespace Bestiary

namespace Outcome

/-- Who rolled a save, in order, and whether it was made. -/
def saves : Outcome → List (String × Option Bool)
  | .damage _ lines => lines.map fun l => (l.target, l.saved)
  | .condition _ lines => lines.map fun l => (l.target, l.saved)
  | .movement lines => lines.map fun l => (l.target, l.saved)
  | .save branches => branches.map fun (l, _) => (l.target, some l.saved)
  | _ => []

end Outcome

namespace Encounter

/-- **An effect without a save, and the same effect with the save of its own.**  A made save has to change it: it
negates, or it halves what the effect has to halve. -/
inductive Inlined (s : Save) : Impact → Impact → Prop
  | damage {n : Int} {kind : Option String} (counts : s.negate ∨ s.half) :
      Inlined s (.damage (.fixed n) kind none) (.damage (.fixed n) kind (some s))
  | condition {name : Label} {duration : Option Nat} (counts : s.negate ∨ s.halfDuration) :
      Inlined s (.condition name duration none) (.condition name duration (some s))

/-- Every combatant has from none to all of its hit points. -/
def Hale (e : Encounter) : Prop := ∀ c ∈ e.roster, 0 ≤ c.hp ∧ c.hp ≤ c.maxHp

theorem Hale.of_roster {e f : Encounter} (hale : Hale e) (same : f.roster = e.roster) : Hale f := by
  unfold Hale
  rwa [same]

theorem Hale.alter {e : Encounter} (hale : Hale e) (t : Target) {change : Combatant → Combatant}
    (keeps : ∀ c, 0 ≤ c.hp ∧ c.hp ≤ c.maxHp → 0 ≤ (change c).hp ∧ (change c).hp ≤ (change c).maxHp) :
    Hale (e.alter t change) := by
  unfold Encounter.alter
  cases t.seat with
  | none => exact hale
  | some n =>
    intro c hc
    obtain ⟨m, hm⟩ := List.getElem?_of_mem hc
    rw [List.getElem?_modify] at hm
    cases at_m : e.roster[m]? with
    | none => simp [at_m] at hm
    | some d =>
      have hd := hale d (List.mem_of_getElem? at_m)
      by_cases own : n = m
      · simp [at_m, own] at hm
        exact hm ▸ keeps d hd
      · simp [at_m, own] at hm
        exact hm ▸ hd

theorem wound_within (n : Int) (c : Combatant) (hc : 0 ≤ c.hp ∧ c.hp ≤ c.maxHp) :
    0 ≤ (wound n c).hp ∧ (wound n c).hp ≤ (wound n c).maxHp := by
  obtain ⟨low, high⟩ := hc
  simp only [wound, bounded]
  omega

/-- No damage leaves whoever is within bounds alone. -/
theorem Hale.wound_zero {e : Encounter} (hale : Hale e) (t : Target) : e.alter t (wound 0) = e := by
  unfold Encounter.alter
  cases t.seat with
  | none => rfl
  | some n =>
    have same : e.roster.modify n (wound 0) = e.roster := by
      apply List.ext_getElem?
      intro m
      rw [List.getElem?_modify]
      cases at_m : e.roster[m]? with
      | none => simp
      | some c =>
        have hc := hale c (List.mem_of_getElem? at_m)
        have whole : wound 0 c = c := by
          have : bounded c (c.hp - 0) = c.hp := by
            unfold bounded
            omega
          simp only [wound, this]
        by_cases own : n = m <;> simp [own, whole]
    simp only [same]

/-! ## Finding one target again -/

theorem map_id_seats (e : Encounter) : e.seats.map Target.id = e.ids := by
  have bare : (Target.id ∘ fun p : Combatant × Nat => Target.mk (some p.2) p.1) = Combatant.id ∘ Prod.fst := rfl
  rw [seats, List.map_map, bare, ← List.map_map, List.zipIdx_map_fst, ids]

theorem filter_id_of_mem : ∀ {ts : List Target}, (ts.map Target.id).Nodup → ∀ {t : Target}, t ∈ ts →
    ts.filter (fun u => [t.id].contains u.id) = [t]
  | u :: us, distinct, t, ht => by
    rw [List.map_cons, List.nodup_cons] at distinct
    obtain ⟨alone, distinct⟩ := distinct
    rcases List.mem_cons.1 ht with rfl | ht
    · have rest : us.filter (fun v => [t.id].contains v.id) = [] := by
        rw [List.filter_eq_nil_iff]
        intro v hv same
        simp at same
        exact alone (same ▸ List.mem_map_of_mem hv)
      rw [List.filter_cons, if_pos (by simp), rest]
    · have other : ¬u.id = t.id := fun same => alone (same ▸ List.mem_map_of_mem ht)
      rw [List.filter_cons, if_neg (by simpa using other)]
      exact filter_id_of_mem distinct ht

/-- **Whoever is seated is found again by its id**, in its seat and nowhere else. -/
theorem targets_again (o : Options) {e : Encounter} {t : Target} (distinct : e.ids.Nodup) (seated : Seated e t) :
    ∃ u : Target, u.seat = t.seat ∧ u.id = t.id ∧
      (targets o (some (.specific [t.id]))).run e = (.ok [u], e) := by
  obtain ⟨n, hn, at_n⟩ := seated
  rw [ids, List.getElem?_map] at at_n
  cases at_c : e.roster[n]? with
  | none => simp [at_c] at at_n
  | some c =>
    simp [at_c] at at_n
    have mem : (⟨some n, c⟩ : Target) ∈ e.seats :=
      List.mem_map.2 ⟨(c, n), List.mem_zipIdx_iff_getElem?.2 at_c, rfl⟩
    have own : (⟨some n, c⟩ : Target).id = t.id := at_n
    refine ⟨⟨some n, c⟩, hn.symm, own, ?_⟩
    have found := filter_id_of_mem ((map_id_seats e).symm ▸ distinct) mem
    rw [own] at found
    simp only [targets, Targeting.specific, Act.run, found]

/-! ## One target -/

theorem guarded_of_run {kind : EffectKind} {d : Deed Outcome} {outcome : Outcome} {e f : Encounter}
    (run : d.run e = (.ok outcome, f)) : guarded kind d e = (outcome, f) := by
  unfold guarded
  rw [run]

theorem guarded_of_fail (kind : EffectKind) {d : Deed Outcome} {mishap : Mishap} {e f : Encounter}
    (run : d.run e = (.error mishap, f)) : Alike (guarded kind d e).2 f ∧ (guarded kind d e).1.saves = [] := by
  unfold guarded
  rw [run]
  cases mishap <;> exact ⟨.note_left _ (.refl f), rfl⟩

/-- An impact that finds targets and has a line for each of them. -/
theorem run_lined {β : Type} {o : Options} {targeting : Option Targeting} {d : Target → Deed β}
    {finish : List β → Outcome} {e f g : Encounter} {ts : List Target} {lines : List β}
    (found : (targets o targeting).run e = (.ok ts, f)) (struck : (Act.each d ts).run f = (.ok lines, g)) :
    (targets o targeting >>= fun ts => Act.each d ts >>= fun lines => Act.pure (finish lines)).run e =
      (.ok (finish lines), g) := by
  rw [Act.run_bind, found]
  dsimp only
  rw [Act.run_bind, struck]
  rfl

theorem strike_damage_eq (o : Options) (half : Bool) (targeting : Option Targeting) (n : Int) (kind : Option String)
    (save : Option Save) : strike o half targeting (.damage (.fixed n) kind save) =
      (targets o targeting >>= fun ts => Act.each (strikeDamage n kind save half) ts >>= fun lines =>
        Act.pure (.damage kind lines)) := rfl

theorem strike_condition_eq (o : Options) (half : Bool) (targeting : Option Targeting) (name : Label)
    (duration : Option Nat) (save : Option Save) : strike o half targeting (.condition name duration save) =
      (targets o targeting >>= fun ts => Act.each (strikeCondition name duration save) ts >>= fun lines =>
        Act.pure (.condition name.text lines)) := rfl

theorem each_one {α β : Type} {d : α → Deed β} {a : α} {b : β} {e f : Encounter} (run : (d a).run e = (.ok b, f)) :
    (Act.each d [a]).run e = (.ok [b], f) := by
  have run' : d a e = (.ok b, f) := run
  simp only [Act.each, Act.run, Act.bind, run']
  rfl

section Step

variable {o : Options} {e : Encounter} {t : Target}

/-- The encounter after damage to a target. -/
def hurt (t : Target) (n : Int) (kind : Option String) (e : Encounter) : Encounter :=
  note (.damaged t.id (max 0 (weigh e.world t.id n).1) kind) (e.alter t (wound (max 0 (weigh e.world t.id n).1)))

/-- The encounter after a condition on a target, if it does not refuse it. -/
def afflict (t : Target) (name : Label) (duration : Option Nat) (e : Encounter) : Encounter :=
  if e.world.refuseConditions.has t.id then e
  else note (.conditionSet t.id name.text (duration.map Int.ofNat))
    (e.alter t fun c => { c with conditions := c.conditions ++ [⟨name, duration.map Int.ofNat, none⟩] })

theorem backdrop_hurt (n : Int) (kind : Option String) : (hurt t n kind e).backdrop = e.backdrop := by
  unfold hurt
  rw [backdrop_note, backdrop_alter t (bare_wound _)]

theorem backdrop_afflict (name : Label) (duration : Option Nat) :
    (afflict t name duration e).backdrop = e.backdrop := by
  unfold afflict
  split
  · rfl
  · rw [backdrop_note]
    apply backdrop_alter
    intro c
    rfl

theorem Hale.hurt (hale : Hale e) (n : Int) (kind : Option String) : Hale (hurt t n kind e) :=
  hale.alter t (wound_within _)

/-- To no damage, whoever is within bounds only listens. -/
theorem Hale.hurt_zero (hale : Hale e) (t : Target) (kind : Option String) : Alike (Encounter.hurt t 0 kind e) e := by
  have nothing : max 0 (weigh e.world t.id 0).1 = 0 := by
    unfold weigh
    split
    · rfl
    · split
      · rfl
      · split <;> rfl
  unfold Encounter.hurt
  rw [nothing, hale.wound_zero]
  exact .note_left _ (.refl e)

theorem Hale.afflict (hale : Hale e) (name : Label) (duration : Option Nat) : Hale (afflict t name duration e) := by
  unfold Encounter.afflict
  split
  · exact hale
  · exact hale.alter t fun _ within => within

theorem damage_run (online : e.world.Online) (n : Int) (kind : Option String) (saved : Option Bool) :
    ∃ l : DamageLine, l.target = t.id ∧ l.saved = saved ∧ (damage t n kind saved).run e = (.ok l, hurt t n kind e) := by
  refine ⟨⟨t.id, max 0 (weigh e.world t.id n).1, (weigh e.world t.id n).2.1, (weigh e.world t.id n).2.2.1,
    (weigh e.world t.id n).2.2.2, saved⟩, rfl, rfl, ?_⟩
  simp [damage, Act.run, online.damage, hurt]

theorem afflict_run (online : e.world.Online) (name : Label) (duration : Option Nat) (saved : Option Bool) :
    (setCondition t ⟨name, duration.map Int.ofNat, none⟩ >>= fun applied =>
      Act.pure (⟨t.id, applied, duration, saved⟩ : ConditionLine)).run e =
      (.ok ⟨t.id, !e.world.refuseConditions.has t.id, duration, saved⟩, afflict t name duration e) := by
  have set : (setCondition t ⟨name, duration.map Int.ofNat, none⟩).run e =
      (.ok (!e.world.refuseConditions.has t.id), afflict t name duration e) := by
    simp only [setCondition, Act.run, online.condition, List.contains_nil, Bool.false_eq_true, if_false, afflict]
    cases e.world.refuseConditions.has t.id <;> rfl
  rw [Act.run_bind, set]
  rfl

/-- **An effect that is struck at one id strikes whoever was found there before.** -/
theorem guarded_again (x : Impact) (half : Bool) (distinct : e.ids.Nodup) (seated : Seated e t)
    (online : e.world.Online) :
    (∀ n kind, x = .damage (.fixed n) kind none →
      (guarded x.kind (strike o half (some (.specific [t.id])) x) e).2 = hurt t (dealt n half none none) kind e) ∧
    (∀ name duration, x = .condition name duration none →
      (guarded x.kind (strike o half (some (.specific [t.id])) x) e).2 = afflict t name duration e) := by
  obtain ⟨u, seat, own, found⟩ := targets_again o distinct seated
  constructor
  · rintro n kind rfl
    obtain ⟨l, -, -, there⟩ := damage_run (t := u) online (dealt n half none none) kind none
    have taken : (strikeDamage n kind none half u).run e = _ := there
    rw [strike_damage_eq, guarded_of_run (run_lined found (each_one taken))]
    simp only [hurt, own, Encounter.alter, seat]
  · rintro name duration rfl
    have taken : (strikeCondition name duration none u).run e = _ := afflict_run online name duration none
    rw [strike_condition_eq, guarded_of_run (run_lined found (each_one taken))]
    simp only [afflict, own, Encounter.alter, seat]

end Step

/-! ## One target, both ways -/

/-- An encounter in which changes are answered and everyone is within bounds, and a target that can be found again. -/
structure Fit (e : Encounter) (t : Target) : Prop where
  distinct : e.ids.Nodup
  online : e.world.Online
  hale : Hale e
  seated : Seated e t

theorem Fit.transfer {e f : Encounter} {t : Target} (h : Fit e t) (same : f.backdrop = e.backdrop) (hale : Hale f) :
    Fit f t where
  distinct := ids_of_undisturbed (undisturbed_of_backdrop same) ▸ h.distinct
  online := (undisturbed_of_backdrop same).world ▸ h.online
  hale := hale
  seated := h.seated.transfer (ids_of_undisturbed (undisturbed_of_backdrop same))

section Both

variable (o : Options) (half : Bool) {s : Save} (own : Option Targeting) {e f : Encounter} {t : Target}
  {roll : Option SaveRoll} (rolls : rollSave t.combatant s e.rule e = (roll, f))
include rolls

theorem saveAgainst_of_rolls : saveAgainst t (some s) e = (some (roll.any (·.saved)), f) := by
  simp only [saveAgainst, checkSave, rolls]

theorem Fit.rolled (fit : Fit e t) : Fit f t ∧ f.backdrop = e.backdrop := by
  have quiet : f.scene = e.scene := by
    have := scene_rollSave t.combatant s e.rule e
    rwa [rolls] at this
  exact ⟨fit.transfer (backdrop_of_scene quiet) (fit.hale.of_roster (roster_of_scene quiet)), backdrop_of_scene quiet⟩

theorem strikeDamage_rolled (online : f.world.Online) (n : Int) (kind : Option String) :
    ∃ l : DamageLine, l.target = t.id ∧ l.saved = some (roll.any (·.saved)) ∧
      (strikeDamage n kind (some s) half t).run e =
        (.ok l, hurt t (dealt n half (some (roll.any (·.saved))) (some s)) kind f) := by
  obtain ⟨l, target, saved, struck⟩ := damage_run (t := t) online
    (dealt n half (some (roll.any (·.saved))) (some s)) kind (some (roll.any (·.saved)))
  refine ⟨l, target, saved, ?_⟩
  rw [strikeDamage, Act.run_bind, Act.run_ofStep, saveAgainst_of_rolls rolls]
  exact struck

theorem strikeCondition_rolled (online : f.world.Online) (name : Label) (duration : Option Nat) :
    ∃ l : ConditionLine, l.target = t.id ∧ l.saved = some (roll.any (·.saved)) ∧
      (strikeCondition name duration (some s) t).run e = (.ok l,
        if roll.any (·.saved) && s.negate then f
        else afflict t name (if roll.any (·.saved) && s.halfDuration then duration.map halfDuration else duration) f) := by
  rw [strikeCondition, Act.run_bind, Act.run_ofStep, saveAgainst_of_rolls rolls]
  simp only [Option.any_some]
  cases made : roll.any (·.saved) with
  | false => exact ⟨_, rfl, rfl, afflict_run online name duration (some false)⟩
  | true =>
    cases negates : s.negate with
    | true => exact ⟨⟨t.id, false, none, some true⟩, rfl, rfl, rfl⟩
    | false => exact ⟨_, rfl, rfl, afflict_run online name _ (some true)⟩

/-- A failed save has its one effect applied whole. -/
theorem branch_one_failed (x : Impact) (failed : roll.any (·.saved) = false) :
    (branch o half s [] [.impact own x] t e).1.1 = ⟨t.id, false, roll⟩ ∧
    (branch o half s [] [.impact own x] t e).2 =
      (guarded x.kind (strike o half (some (.specific [t.id])) x) f).2 := by
  rw [branch_failed rolls half [.impact own x] [] failed]
  simp only [resolveAll, resolve, aimed, and_self]

/-- A made save that negates has nothing applied. -/
theorem branch_one_negated (x : Impact) (made : roll.any (·.saved) = true) (negates : s.negate = true) :
    (branch o half s [] [.impact own x] t e).1.1 = ⟨t.id, true, roll⟩ ∧
    (branch o half s [] [.impact own x] t e).2 = f := by
  rw [branch_left rolls half [.impact own x] made]
  simp only [reduced, negates, if_true, strikeAll, and_self]

/-- A made save that does not negate has what is left of its one effect applied. -/
theorem branch_one_left {x y : Impact} (made : roll.any (·.saved) = true) (stands : s.negate = false)
    (left : reduce s (.impact own x) = some y) :
    (branch o half s [] [.impact own x] t e).1.1 = ⟨t.id, true, roll⟩ ∧
    (branch o half s [] [.impact own x] t e).2 =
      (guarded y.kind (strike o true (some (.specific [t.id])) y) f).2 := by
  rw [branch_left rolls half [.impact own x] made]
  simp [reduced, stands, left, strikeAll, aimed]

end Both

/-- **What one save decides for one target, either way**: a line of its own, or a branch. -/
def Agree {β : Type} (o : Options) (half : Bool) (s : Save) (x : Effect) (d : Target → Deed β)
    (verdict : β → String × Option Bool) (t : Target) (e : Encounter) : Prop :=
  ∃ l f, (d t).run e = (.ok l, f) ∧ f.backdrop = e.backdrop ∧ Hale f ∧
    Alike f (branch o half s [] [x] t e).2 ∧
    verdict l = ((branch o half s [] [x] t e).1.1.target, some (branch o half s [] [x] t e).1.1.saved)

section Agree

variable (o : Options) (half : Bool) {s : Save} (own : Option Targeting) {e : Encounter} {t : Target} (fit : Fit e t)
include fit

theorem agree_damage {n : Int} {kind : Option String} (counts : s.negate ∨ s.half) :
    Agree o half s (.impact own (.damage (.fixed n) kind none)) (strikeDamage n kind (some s) half)
      (fun l => (l.target, l.saved)) t e := by
  obtain ⟨roll, f, rolls⟩ : ∃ roll f, rollSave t.combatant s e.rule e = (roll, f) := ⟨_, _, rfl⟩
  obtain ⟨⟨distinct, online, hale, seated⟩, still⟩ := fit.rolled rolls
  obtain ⟨l, target, saved, run⟩ := strikeDamage_rolled half rolls online n kind
  have again (half : Bool) := (guarded_again (o := o) (.damage (.fixed n) kind none) half distinct seated online).1
    n kind rfl
  refine ⟨l, _, run, (backdrop_hurt _ _).trans still, hale.hurt _ _, ?_⟩
  dsimp only
  rw [target, saved]
  cases made : roll.any (·.saved) with
  | false =>
    obtain ⟨line, state⟩ := branch_one_failed o half own rolls (.damage (.fixed n) kind none)
      made
    have whole : dealt n half (some false) (some s) = dealt n half none none := by simp [dealt]
    rw [line, state, again half, whole]
    exact ⟨.refl _, rfl⟩
  | true =>
    cases negates : s.negate with
    | true =>
      obtain ⟨line, state⟩ := branch_one_negated o half own rolls
        (.damage (.fixed n) kind none) made negates
      have nothing : dealt n half (some true) (some s) = 0 := by simp [dealt, negates]
      rw [line, state, nothing]
      exact ⟨hale.hurt_zero t kind, rfl⟩
    | false =>
      have halves : s.half = true := by simpa [negates] using counts
      have left : reduce s (.impact own (.damage (.fixed n) kind none)) = some (.damage (.fixed n) kind none) := by
        simp [reduce, halves]
      obtain ⟨line, state⟩ := branch_one_left o half own rolls made negates left
      have halved : dealt n half (some true) (some s) = dealt n true none none := by simp [dealt, negates, halves]
      rw [line, state, again true, halved]
      exact ⟨.refl _, rfl⟩

theorem agree_condition {name : Label} {duration : Option Nat} (counts : s.negate ∨ s.halfDuration) :
    Agree o half s (.impact own (.condition name duration none)) (strikeCondition name duration (some s))
      (fun l => (l.target, l.saved)) t e := by
  obtain ⟨roll, f, rolls⟩ : ∃ roll f, rollSave t.combatant s e.rule e = (roll, f) := ⟨_, _, rfl⟩
  obtain ⟨⟨distinct, online, hale, seated⟩, still⟩ := fit.rolled rolls
  obtain ⟨l, target, saved, run⟩ := strikeCondition_rolled rolls online name duration
  have again (half : Bool) (duration : Option Nat) :=
    (guarded_again (o := o) (.condition name duration none) half distinct seated online).2 name duration rfl
  cases made : roll.any (·.saved) with
  | false =>
    obtain ⟨line, state⟩ := branch_one_failed o half own rolls (.condition name duration none)
      made
    simp only [made, Bool.false_and, Bool.false_eq_true, if_false] at run
    refine ⟨l, _, run, (backdrop_afflict _ _).trans still, hale.afflict _ _, ?_⟩
    dsimp only
    rw [target, saved, line, state, again half, made]
    exact ⟨.refl _, rfl⟩
  | true =>
    cases negates : s.negate with
    | true =>
      obtain ⟨line, state⟩ := branch_one_negated o half own rolls
        (.condition name duration none) made negates
      simp only [made, negates, Bool.and_self, if_true] at run
      refine ⟨l, _, run, still, hale, ?_⟩
      dsimp only
      rw [target, saved, line, state, made]
      exact ⟨.refl _, rfl⟩
    | false =>
      have halves : s.halfDuration = true := by simpa [negates] using counts
      have left : reduce s (.impact own (.condition name duration none)) =
          some (.condition name (duration.map halfDuration) none) := by
        simp [reduce, halves]
      obtain ⟨line, state⟩ := branch_one_left o half own rolls made negates left
      simp only [made, negates, halves, Bool.and_false, Bool.and_self, Bool.false_eq_true, if_false, if_true] at run
      refine ⟨l, _, run, (backdrop_afflict _ _).trans still, hale.afflict _ _, ?_⟩
      dsimp only
      rw [target, saved, line, state, again true, made]
      exact ⟨.refl _, rfl⟩

end Agree

/-! ## All targets -/

section All

variable {β : Type} {o : Options} {half : Bool} {s : Save} {x : Effect} {d : Target → Deed β}
  {verdict : β → String × Option Bool} {e₀ : Encounter}

variable (e₀) in
/-- **Two runs over the same targets stay alike**, if what the one decides for each target the other one decides too. -/
theorem each_agrees (agree : ∀ {e t}, e.backdrop = e₀.backdrop → Hale e → Seated e₀ t → Agree o half s x d verdict t e) :
    ∀ (ts : List Target) (e f : Encounter), (∀ t ∈ ts, Seated e₀ t) → e.backdrop = e₀.backdrop → Hale e → Alike e f →
      ∃ ls g, (Act.each d ts).run e = (.ok ls, g) ∧ Alike g (forEach (branch o half s [] [x]) ts f).2 ∧
        ls.map verdict =
          (forEach (branch o half s [] [x]) ts f).1.map fun (l, _) => (l.target, some l.saved)
  | [], e, f, _, _, _, alike => ⟨[], e, rfl, alike, rfl⟩
  | t :: ts, e, f, seated, same, hale, alike => by
    obtain ⟨l, g, run, still, hale', here, decided⟩ := agree same hale (seated t List.mem_cons_self)
    obtain ⟨line, there⟩ := deaf_branch s t (deaf_resolveAll o [] _ half) (deaf_resolveAll o [x] _ half) e f alike
    obtain ⟨ls, h, runs, alike', rest⟩ := each_agrees agree ts g (branch o half s [] [x] t f).2
      (fun u hu => seated u (List.mem_cons_of_mem t hu)) (still.trans same) hale' (here.trans there)
    refine ⟨l :: ls, h, ?_, alike', ?_⟩
    · have unrolled : Act.each d (t :: ts) = d t >>= fun b => Act.each d ts >>= fun bs => Act.pure (b :: bs) := rfl
      rw [unrolled, Act.run_bind, run]
      dsimp only
      rw [Act.run_bind, runs]
      rfl
    · simp only [forEach, List.map_cons]
      rw [rest, decided, line]

variable (o half s) in
/-- A save has a line for each target, in order. -/
theorem forEach_branch_targets (onSuccess onFailure : List Effect) : ∀ (ts : List Target) (e : Encounter),
    (forEach (branch o half s onSuccess onFailure) ts e).1.map (fun b => b.1.target) = ts.map Target.id
  | [], _ => rfl
  | t :: ts, e => by
    simp only [forEach, List.map_cons]
    rw [forEach_branch_targets onSuccess onFailure ts]
    rfl

end All

/-- **A save of an effect's own and a save around the effect come to the same.**  From wherever it starts, with whatever
dice, both ways leave encounters that differ in what was reported at most: the same combatants, dice and random choices.
And both record the same verdicts, in the order of the targets that were found. -/
theorem resolve_inline (o : Options) (aim : Option (List String)) (half : Bool) (targeting own : Option Targeting)
    {s : Save} {x y : Impact} (inlined : Inlined s x y) (e : Encounter) (distinct : (e.roster.map Combatant.id).Nodup)
    (online : e.world.Online) (within : ∀ c ∈ e.roster, 0 ≤ c.hp ∧ c.hp ≤ c.maxHp)
    (selected : ∀ t ∈ o.selected, t ∈ e.seats) (source : ∀ t ∈ o.source, t ∈ e.seats) :
    Alike (resolve o aim half (.impact targeting y) e).2
      (resolve o aim half (.save targeting s [] [.impact own x]) e).2 ∧
    (resolve o aim half (.impact targeting y) e).1.saves =
      (resolve o aim half (.save targeting s [] [.impact own x]) e).1.saves ∧
    ∀ ts f, (targets o (aimed aim targeting)).run e = (.ok ts, f) →
      (resolve o aim half (.impact targeting y) e).1.saves.map Prod.fst = ts.map Target.id := by
  have fit {f : Encounter} {t : Target} (same : f.backdrop = e.backdrop) (hale : Hale f) (seated : Seated e t) :
      Fit f t :=
    have first : Fit e t := ⟨distinct, online, within, seated⟩
    first.transfer same hale
  have quiet := leaves_targets o (aimed aim targeting) e
  rw [resolve_save, resolve]
  rcases found : (targets o (aimed aim targeting)).run e with ⟨mishap | ts, f⟩
  · have lost : (strike o half (aimed aim targeting) y).run e = (.error mishap, f) := by
      cases inlined with
      | damage => rw [strike_damage_eq, Act.run_bind, found]
      | condition => rw [strike_condition_eq, Act.run_bind, found]
    obtain ⟨alike, none_saved⟩ := guarded_of_fail y.kind lost
    exact ⟨alike.note_right _, none_saved, fun _ _ h => nomatch h⟩
  rw [found] at quiet
  have seated := targets_seated _ (fun t ht => seated_of_mem_seats (selected t ht))
    (fun t ht => seated_of_mem_seats (source t ht)) found
  have hale : Hale f := Hale.of_roster within (roster_of_scene quiet)
  obtain ⟨outcome, g, run, alike, verdicts⟩ : ∃ outcome g, (strike o half (aimed aim targeting) y).run e =
      (.ok outcome, g) ∧ Alike g (forEach (branch o half s [] [.impact own x]) ts f).2 ∧ outcome.saves =
        (forEach (branch o half s [] [.impact own x]) ts f).1.map fun (l, _) => (l.target, some l.saved) := by
    cases inlined with
    | damage counts =>
      obtain ⟨lines, g, run, alike, verdicts⟩ := each_agrees e (fun same hale seated =>
        agree_damage o half own (fit same hale seated) counts) ts f f seated (backdrop_of_scene quiet) hale (.refl f)
      exact ⟨_, g, run_lined found run, alike, verdicts⟩
    | condition counts =>
      obtain ⟨lines, g, run, alike, verdicts⟩ := each_agrees e (fun same hale seated =>
        agree_condition o half own (fit same hale seated) counts) ts f f seated (backdrop_of_scene quiet) hale (.refl f)
      exact ⟨_, g, run_lined found run, alike, verdicts⟩
  rw [guarded_of_run run]
  refine ⟨alike, verdicts, fun ts' _ same => ?_⟩
  cases same
  dsimp only
  rw [verdicts, List.map_map, ← forEach_branch_targets o half s [] [.impact own x] ts f]
  rfl

/-- A save that halves, for the knight and the wolf. -/
def brace : Save := { (default : Save) with ability := some .constitution, dc := some 12, half := true }

theorem resolve_inline_skirmish :
    let inline := resolve .none none false (.impact (some ⟨.all, 1, [], none⟩) (.damage (.fixed 7) none (some brace)))
      skirmish
    let around := resolve .none none false
      (.save (some ⟨.all, 1, [], none⟩) brace [] [.impact none (.damage (.fixed 7) none none)]) skirmish
    inline.2.roster.map Combatant.hp = [3, 7] ∧ inline.1.saves = [("knight", some false), ("wolf", some true)] ∧
    Alike inline.2 around.2 ∧ inline.1.saves = around.1.saves :=
  have inlined : Inlined brace (.damage (.fixed 7) none none) (.damage (.fixed 7) none (some brace)) :=
    .damage (.inr rfl)
  have both := resolve_inline .none none false (some ⟨.all, 1, [], none⟩) none inlined skirmish (by decide)
    World.plain_online (by decide) (fun _ ht => nomatch ht) (fun _ ht => nomatch ht)
  ⟨by decide +kernel, by decide +kernel, both.1, both.2.1⟩

end Encounter
end Bestiary
