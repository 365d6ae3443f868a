import Bestiary.Proofs.Table.Play
/-!
# Budget — one reaction and one bonus action for each grant

The flags belong to the table and not to a creature.  A use that draws on a flag finds it unset and sets it, whatever
its effects come to in between, and no other move unsets a flag that is not granted again (`spent_play`); so from one
grant to the next the creatures carry out one such use between them (`uses_once_granted`).
-/
namespace Bestiary

theorem Tag.ofName?_eq_some_iff {α : Type} [Tag α] {s : String} {a : α} :
    Tag.ofName? s = some a ↔ s = Tag.name a := by
  constructor
  · intro found
    have named := List.find?_some (p := fun a => Tag.name a == s) found
    exact (eq_of_beq named).symm
  · rintro rfl
    exact Tag.ofName?_name a

namespace Trigger

/-- **An event that a trigger waits for**: one of its kind that respects the bound of that kind, if there is one. -/
inductive Met (w : Trigger) (v : TriggerEvent) : Prop where
  | attacked (kind : w.kind = Occasion.attacked.name) (same : v.kind = w.kind)
      (within : ∀ most ∈ w.range, ∃ n ∈ v.range, n ≤ (most : Int))
  | damaged (kind : w.kind = Occasion.damaged.name) (same : v.kind = w.kind)
      (type : ∀ d ∈ w.damageType, v.damageType = some d)
  | spellCast (kind : w.kind = Occasion.spellCast.name) (same : v.kind = w.kind)
      (level : ∀ least ∈ w.minLevel, ∃ n ∈ v.spellLevel, (least : Int) ≤ n)
  | movement (kind : w.kind = Occasion.movement.name) (same : v.kind = w.kind)
      (far : ∀ least ∈ w.minDistance, ∃ n ∈ v.distance, (least : Int) ≤ n)

theorem allows_iff (respects : Int → Int → Bool) (bound : Option Nat) (given : Option Int) :
    allows respects (bound.bind fun b => some (b : Int)) given = true ↔
      ∀ b ∈ bound, ∃ n ∈ given, respects n b = true := by
  cases bound <;> cases given <;> simp [allows]

theorem occasion?_eq_some_iff {w : Trigger} {o : Occasion} : w.occasion? = some o ↔ w.kind = o.name :=
  Tag.ofName?_eq_some_iff

theorem answers_iff (w : Trigger) (event : Option TriggerEvent) :
    w.answers event = true ↔ ∃ v ∈ event, w.Met v := by
  cases event with
  | none => simp [answers]
  | some v =>
    simp only [answers, Bool.and_eq_true, beq_iff_eq, Option.mem_some_iff, exists_eq_left']
    constructor
    · rintro ⟨same, bound⟩
      cases occasion : w.occasion? with
      | none => simp [occasion] at bound
      | some o =>
        have kind := occasion?_eq_some_iff.1 occasion
        rw [occasion] at bound
        cases o with
        | attacked => exact .attacked kind same.symm (by simpa [allows_iff] using bound)
        | damaged =>
          refine .damaged kind same.symm fun d hd => ?_
          rw [Option.mem_def] at hd
          simpa [hd] using bound
        | spellCast => exact .spellCast kind same.symm (by simpa [allows_iff] using bound)
        | movement => exact .movement kind same.symm (by simpa [allows_iff] using bound)
    · rintro (⟨kind, same, within⟩ | ⟨kind, same, type⟩ | ⟨kind, same, level⟩ | ⟨kind, same, far⟩)
      all_goals rw [occasion?_eq_some_iff.2 kind]
      · exact ⟨same.symm, by simpa [allows_iff] using within⟩
      · refine ⟨same.symm, ?_⟩
        cases own : w.damageType with
        | none => rfl
        | some d => simp [type d own]
      · exact ⟨same.symm, by simpa [allows_iff] using level⟩
      · exact ⟨same.symm, by simpa [allows_iff] using far⟩

end Trigger

namespace Table
namespace Flag

/-- What must hold beside the flag: the event that a reaction waits for, if it waits for one, or the creature's turn. -/
def Allows : Flag → Action → Encounter → Prop
  | .reaction, a, e => ∀ w ∈ a.trigger, ∃ v ∈ e.trigger, w.Met v
  | .bonus, _, e => e.onTurn = true

/-- The uses that draw on a flag. -/
def drawn (flag : Flag) (us : List Use) : List Use := us.filter fun u => u.action.economy == flag.economy

theorem spent_set (flag : Flag) (used : Bool) (e : Encounter) : flag.spent (flag.set used e) = used := by
  cases flag <;> rfl

theorem spent_set_of_ne {flag other : Flag} (h : other ≠ flag) (used : Bool) (e : Encounter) :
    flag.spent (other.set used e) = flag.spent e := by
  cases flag <;> cases other <;> first | rfl | exact absurd rfl h

/-- **An action that draws on a flag can be used while the flag is unset and the table allows it**, by any creature. -/
theorem canUse_iff {flag : Flag} {a : Action} (draws : a.economy = flag.economy) (c : Creature) (e : Encounter) :
    c.canUse a e = true ↔ flag.spent e = false ∧ flag.Allows a e := by
  unfold Creature.canUse
  rw [draws]
  cases flag with
  | reaction => simp [economy, spent, Allows, Option.all_eq_true, Trigger.answers_iff]
  | bonus => simp [economy, spent, Allows, and_comm]

end Flag

/-! ## One move -/

theorem use?_sound {t : Table} {m : Move} {u : Use} (used : t.use? m = some u) :
    u.encounter = t.encounter ∧ u.creature.canUse u.action u.encounter = true := by
  have played := play_played t m
  rw [used] at played
  cases played with
  | used _ _ able => exact ⟨rfl, able⟩

/-- **A use that draws on a flag sets it, and nothing but a grant unsets it.** -/
theorem spent_play (flag : Flag) (t : Table) {m : Move} (ungranted : m ≠ .setFlag flag false) :
    (flag.drawn (t.use? m).toList).length + (flag.spent t.encounter).toNat ≤
      (flag.spent (t.play m).encounter).toNat := by
  have played := play_played t m
  generalize t.use? m = used at played
  generalize (t.play m).encounter = f at played
  cases played with
  | @used place id o s c a report c' f seated found able carried roster =>
    have sets : flag.spent f = (flag.spent t.encounter || decide (a.economy = flag.economy)) := by
      cases flag
      · exact carried.reaction
      · exact carried.bonus
    rw [sets]
    by_cases draws : a.economy = flag.economy
    · have unset := ((Flag.canUse_iff draws c t.encounter).1 able).1
      simp [Flag.drawn, draws, unset]
    · simp [Flag.drawn, draws]
  | aside aside =>
    obtain ⟨cup, journal, rfl⟩ := aside
    cases flag <;> simp [Flag.drawn, Flag.spent]
  | flag other used =>
    by_cases own : other = flag
    · subst own
      cases used with
      | false => exact absurd rfl ungranted
      | true =>
        rw [Flag.spent_set]
        simpa [Flag.drawn] using Bool.toNat_le (other.spent t.encounter)
    · rw [Flag.spent_set_of_ne own]
      simp [Flag.drawn]
  | _ => cases flag <;> simp [Flag.drawn, Flag.spent]

/-! ## Play -/

theorem drawn_append (flag : Flag) (us vs : List Use) : flag.drawn (us ++ vs) = flag.drawn us ++ flag.drawn vs :=
  List.filter_append us vs

/-- What the uses of a play draw and what was spent before it is not more than one. -/
theorem drawn_uses_le (flag : Flag) : ∀ (ms : List Move) (t : Table), (∀ m ∈ ms, m ≠ .setFlag flag false) →
    (flag.drawn (t.uses ms)).length + (flag.spent t.encounter).toNat ≤ (flag.spent (t.after ms).encounter).toNat
  | [], t, _ => by simp [uses, after, Flag.drawn]
  | m :: ms, t, ungranted => by
    have first := spent_play flag t (ungranted m List.mem_cons_self)
    have rest := drawn_uses_le flag ms (t.play m) fun m hm => ungranted m (List.mem_cons_of_mem _ hm)
    rw [uses, after, drawn_append, List.length_append]
    omega

/-- **One use for each grant, whoever makes it.**  However the creatures of a table are commanded and whatever is set in
between, as long as a flag is not granted again at most one use that draws on it is carried out among all of them, and
none if it was spent before; each found the flag unset, and the event its trigger waits for or the creature's turn.
Nothing else is asked: at every table an action that draws on the flag is carried out exactly then. -/
theorem uses_once_granted (flag : Flag) (t : Table) (ms : List Move) (ungranted : ∀ m ∈ ms, m ≠ .setFlag flag false) :
    (flag.drawn (t.uses ms)).length ≤ 1 ∧
    (flag.spent t.encounter = true → flag.drawn (t.uses ms) = []) ∧
    (∀ before m after u, ms = before ++ m :: after → (t.after before).use? m = some u →
      u.action.economy = flag.economy →
      flag.spent (t.after before).encounter = false ∧ flag.Allows u.action (t.after before).encounter) ∧
    ∀ (t : Table) place c id o s a, t.creatures[place]? = some c → c.action? id = some a → a.economy = flag.economy →
      ((t.use? (.command place (.use id o) s)).isSome ↔ flag.spent t.encounter = false ∧ flag.Allows a t.encounter) := by
  have budget := drawn_uses_le flag ms t ungranted
  have most := Bool.toNat_le (flag.spent (t.after ms).encounter)
  refine ⟨by omega, fun spent => ?_, fun before m after u _ used draws => ?_, ?_⟩
  · rw [spent, Bool.toNat_true] at budget
    exact List.eq_nil_of_length_eq_zero (by omega)
  · obtain ⟨same, able⟩ := use?_sound used
    rw [same] at able
    exact (Flag.canUse_iff draws u.creature _).1 able
  · intro t place c id o s a seated found draws
    rw [use?_use t seated, found, ← Flag.canUse_iff draws c, Option.bind_some, Option.isSome_map]
    cases able : c.canUse a t.encounter with
    | true => simp [Creature.use_of_able o found able]
    | false =>
      have refused := (Creature.use_none_iff id o c t.encounter).2 fun b hb => by
        rw [found] at hb
        cases hb
        exact able
      simp [refused]

/-- A reaction to being hit from close by, which heals. -/
def riposte : Action :=
  { id := ⟨"riposte", by decide⟩, name := ⟨"Riposte", by decide⟩, description := "", economy := .reaction, cost := 0,
    trigger := some ⟨"attacked", some 5, none, none, none, .empty⟩, recharge := none, phase := none,
    effects := [.impact none (.healing (.fixed 2))] }

/-- Two fencers at a table where the reaction is not spent. -/
def fencers : Table :=
  ⟨[commoner ⟨"first", by decide⟩ [riposte], commoner ⟨"second", by decide⟩ [riposte]], .opening [] []⟩

/-- The first is too far away, is hit again and ripostes; in the next round the second is hit. -/
def exchange : List Move :=
  let hit (range : Int) : Move := .setTrigger (some ⟨"attacked", some range, none, none, none, none, .empty⟩)
  let riposte (place : Nat) : Move := .command place (.use "riposte" .none) ⟨0, Encounter.evening⟩
  [hit 30, riposte 0, hit 5, riposte 0, .setRound 2, .setFlag .bonus false, riposte 1]

theorem uses_once_granted_exchange :
    (∀ m ∈ exchange, m ≠ .setFlag .reaction false) ∧
    (fencers.uses exchange).map (fun u => (u.creature.id.text, u.action.id.text)) = [("first", "riposte")] ∧
    (Flag.reaction.drawn (fencers.uses exchange)).length ≤ 1 := by
  have ungranted : ∀ m ∈ exchange, m ≠ .setFlag .reaction false := by simp [exchange]
  exact ⟨ungranted, by decide +kernel, (uses_once_granted .reaction fencers exchange ungranted).1⟩

end Table
end Bestiary
