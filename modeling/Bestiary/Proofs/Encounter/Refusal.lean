import Bestiary.Proofs.Encounter.Replay
import Bestiary.Proofs.Encounter.Sure
/-!
# Refusal — conditions that are not set, and what is told of them

Whether conditions are set is for whoever keeps the table to say, request by request (`Keeper`).  A book in which every
answer is entered shows which requests were refused; it holds no request for a target that negated the condition by its
save.  A condition effect tells of a refusal unless the target made its save (`condition_told`): a target that halves
the duration by its save and is refused all the same is taken for one that saved itself.
-/
namespace Bestiary

/-- Those who keep a table: they roll the saves of targets, and set conditions on them or refuse to. -/
structure Keeper (σ ε : Type) where
  saves : Target → Save → σ → Bool × σ
  sets : Target → AppliedCondition → Act σ ε Bool

namespace Keeper

variable {σ ε : Type}

/-- Whether a target makes a save, if there is one. -/
def saveAgainst (k : Keeper σ ε) (t : Target) : Option Save → σ → Option Bool × σ
  | none, s => (none, s)
  | some save, s =>
    let (saved, s) := k.saves t save s
    (some saved, s)

/-- Has a condition set on a target that does not negate it. -/
def strikeCondition (k : Keeper σ ε) (condition : Label) (duration : Option Nat) (save : Option Save) (t : Target) :
    Act σ ε ConditionLine := do
  let saved ← Act.ofStep (k.saveAgainst t save)
  let made := saved == some true
  if made && save.any (·.negate) then return ⟨t.id, false, none, some true⟩
  else
    let duration := if made && save.any (·.halfDuration) then duration.map Encounter.halfDuration else duration
    let applied ← k.sets t ⟨condition, duration.map Int.ofNat, none⟩
    return ⟨t.id, applied, duration, saved⟩

/-- The keeper of an encounter, who goes by the rules and the world. -/
def table : Keeper Encounter Mishap where
  saves t save e := Encounter.checkSave t.combatant save e
  sets := Encounter.setCondition

theorem strikeCondition_table : table.strikeCondition = Encounter.strikeCondition := by
  funext condition duration save t
  cases save <;> rfl

/-- The keeper who enters in a book, for each request to set a condition, whom it is for and whether it is granted. -/
def booked (k : Keeper σ ε) : Keeper (σ × List (String × Bool)) ε where
  saves t save s :=
    let (saved, now) := k.saves t save s.1
    (saved, now, s.2)
  sets t condition := fun s =>
    match k.sets t condition s.1 with
    | (.ok granted, now) => (.ok granted, now, s.2 ++ [(t.id, granted)])
    | (.error e, now) => (.error e, now, s.2)

end Keeper

namespace ConditionLine

/-- Whether the condition was asked for: the target did not negate it by its save. -/
def asked (save : Option Save) (l : ConditionLine) : Bool := !(l.saved == some true && save.any (·.negate))

/-- The requests that lines tell of, with their answers. -/
def requests (save : Option Save) (lines : List ConditionLine) : List (String × Bool) :=
  (lines.filter (asked save)).map fun l => (l.target, l.applied)

theorem requests_cons (save : Option Save) (l : ConditionLine) (lines : List ConditionLine) :
    requests save (l :: lines) = requests save [l] ++ requests save lines := by
  rw [requests, requests, requests, ← List.map_append, ← List.filter_append, List.singleton_append]

end ConditionLine

namespace Keeper

open ConditionLine (asked requests requests_cons)

variable {σ ε : Type}

/-! ## The book -/

theorem saveAgainst_booked (k : Keeper σ ε) (t : Target) (save : Option Save) (s : σ) (book : List (String × Bool)) :
    k.booked.saveAgainst t save (s, book) = ((k.saveAgainst t save s).1, (k.saveAgainst t save s).2, book) := by
  cases save <;> rfl

/-- **What striking one target answers and enters.**  Without a save no save is told of; keeping a book changes nothing
else; and what is entered is what the line tells. -/
theorem strikeCondition_booked (k : Keeper σ ε) (condition : Label) (duration : Option Nat) (save : Option Save)
    (t : Target) (s : σ) (book : List (String × Bool)) : ∃ result now entries,
      (k.strikeCondition condition duration save t).run s = (result, now) ∧
      (k.booked.strikeCondition condition duration save t).run (s, book) = (result, now, book ++ entries) ∧
      ∀ l, result = .ok l → l.target = t.id ∧ (save = none → l.saved = none) ∧ entries = requests save [l] := by
  simp only [strikeCondition, Act.run_bind, Act.run_ofStep, saveAgainst_booked]
  have unsaved : save = none → (k.saveAgainst t save s).1 = none := by
    rintro rfl
    rfl
  generalize k.saveAgainst t save s = save_roll at unsaved ⊢
  obtain ⟨saved, s⟩ := save_roll
  -- A target that negates the condition is not asked for, and so nothing is entered.
  by_cases negated : (saved == some true && save.any (·.negate)) = true
  · obtain rfl : saved = some true := by simpa using (Bool.and_eq_true_iff.1 negated).1
    have unasked : asked save ⟨t.id, false, none, some true⟩ = false := by
      rw [asked, negated, Bool.not_true]
    simp only [negated, if_true]
    refine ⟨.ok ⟨t.id, false, none, some true⟩, s, [], rfl, by rw [List.append_nil]; rfl, ?_⟩
    rintro l ⟨⟩
    refine ⟨rfl, unsaved, ?_⟩
    rw [requests, List.filter_cons_of_neg (Bool.eq_false_iff.1 unasked), List.filter_nil, List.map_nil]
  · simp only [negated, Bool.false_eq_true, if_false, Act.run_bind]
    generalize (if (saved == some true && save.any (·.halfDuration)) = true then duration.map Encounter.halfDuration
      else duration) = duration
    have entered : (k.booked.sets t ⟨condition, duration.map Int.ofNat, none⟩).run (s, book) =
        match (k.sets t ⟨condition, duration.map Int.ofNat, none⟩).run s with
        | (.ok granted, now) => (.ok granted, now, book ++ [(t.id, granted)])
        | (.error e, now) => (.error e, now, book) := rfl
    rw [entered]
    rcases (k.sets t ⟨condition, duration.map Int.ofNat, none⟩).run s with ⟨mishap | granted, now⟩
    · exact ⟨.error mishap, now, [], rfl, by rw [List.append_nil], nofun⟩
    · refine ⟨.ok ⟨t.id, granted, duration, saved⟩, now, [(t.id, granted)], rfl, rfl, ?_⟩
      rintro l ⟨⟩
      have requested : asked save ⟨t.id, granted, duration, saved⟩ = true := by
        rw [asked, Bool.eq_false_iff.2 negated, Bool.not_false]
      refine ⟨rfl, unsaved, ?_⟩
      rw [requests, List.filter_cons_of_pos requested, List.filter_nil, List.map_singleton]

/-- **What striking targets answers and enters**: the book has the requests that the lines tell of, in order. -/
theorem each_booked (k : Keeper σ ε) (condition : Label) (duration : Option Nat) (save : Option Save) :
    ∀ (ts : List Target) (s : σ) (book : List (String × Bool)), ∃ result now entries,
      (Act.each (k.strikeCondition condition duration save) ts).run s = (result, now) ∧
      (Act.each (k.booked.strikeCondition condition duration save) ts).run (s, book) = (result, now, book ++ entries) ∧
      ∀ lines, result = .ok lines → lines.map (·.target) = ts.map Target.id ∧
        (save = none → ∀ l ∈ lines, l.saved = none) ∧ entries = requests save lines
  | [], s, book => by
    refine ⟨.ok [], s, [], rfl, by rw [List.append_nil]; rfl, ?_⟩
    rintro lines ⟨⟩
    exact ⟨rfl, fun _ => nofun, rfl⟩
  | t :: ts, s, book => by
    obtain ⟨first, s₁, entered, struck, noted, first_line⟩ := strikeCondition_booked k condition duration save t s book
    have unfold_each : ∀ (τ : Type) (k : Keeper τ ε) (s : τ),
        (Act.each (k.strikeCondition condition duration save) (t :: ts)).run s =
          (k.strikeCondition condition duration save t >>= fun l =>
            Act.each (k.strikeCondition condition duration save) ts >>= fun lines => pure (l :: lines)).run s :=
      fun _ _ _ => rfl
    simp only [unfold_each, Act.run_bind, struck, noted]
    cases first with
    | error mishap => exact ⟨.error mishap, s₁, entered, rfl, rfl, nofun⟩
    | ok l =>
      obtain ⟨named, unsaved, told⟩ := first_line l rfl
      obtain ⟨rest, s₂, later, struck, noted, lines⟩ :=
        each_booked k condition duration save ts s₁ (book ++ entered)
      simp only [struck, noted]
      cases rest with
      | error mishap => exact ⟨.error mishap, s₂, entered ++ later, rfl, by rw [← List.append_assoc], nofun⟩
      | ok rest =>
        obtain ⟨named', unsaved', told'⟩ := lines rest rfl
        refine ⟨.ok (l :: rest), s₂, entered ++ later, rfl, by rw [← List.append_assoc]; rfl, ?_⟩
        rintro all ⟨⟩
        refine ⟨?_, fun none => List.forall_mem_cons.2 ⟨unsaved none, unsaved' none⟩, ?_⟩
        · rw [List.map_cons, List.map_cons, named, named']
        · rw [requests_cons, told, told']

/-- Where requests are always answered, striking is sure. -/
theorem sure_strikeCondition {k : Keeper σ ε} {I : σ → Prop} (saves : ∀ t save s, I s → I (k.saves t save s).2)
    (sets : ∀ t condition, Act.Sure I (k.sets t condition)) (condition : Label) (duration : Option Nat)
    (save : Option Save) (t : Target) : Act.Sure I (k.strikeCondition condition duration save t) := by
  have rolled : Act.Sure I (Act.ofStep (k.saveAgainst t save) : Act σ ε _) := by
    refine .ofStep fun s h => ?_
    cases save with
    | none => exact h
    | some save => exact saves t save s h
  refine .bind rolled fun saved => ?_
  dsimp only
  split
  · exact .pure _
  · exact .bind (sets t _) fun applied => .pure _

/-! ## What is told -/

/-- **What is told of the requests that were refused.** -/
structure Told (save : Option Save) (lines : List ConditionLine) (book : List (String × Bool)) (success : Bool) :
    Prop where
  /-- The book has a request for each target that did not negate the condition, and for no other. -/
  entered : book = requests save lines
  /-- A refusal is told of unless the target made its save. -/
  told : success = false ↔ ∃ l ∈ lines, l.applied = false ∧ l.saved ≠ some true
  /-- Nothing is told that did not happen: saves that negate do not count. -/
  sound : success = false → ∃ id, (id, false) ∈ book
  /-- Refusals go untold exactly when all who were refused had made their saves. -/
  untold : success = true ∧ (∃ id, (id, false) ∈ book) ↔
    (∃ l ∈ lines, asked save l = true ∧ l.applied = false) ∧
      ∀ l ∈ lines, asked save l = true → l.applied = false → l.saved = some true
  /-- Without a save, or with one that negates, every refusal is told of. -/
  complete : save.all (·.negate) = true → (success = false ↔ ∃ id, (id, false) ∈ book)

theorem refused_mem_requests {save : Option Save} {lines : List ConditionLine} :
    (∃ id, (id, false) ∈ requests save lines) ↔ ∃ l ∈ lines, asked save l = true ∧ l.applied = false := by
  simp [requests, and_assoc]

/-- Who did not make a save has not negated the condition. -/
theorem asked_of_unsaved (save : Option Save) {l : ConditionLine} (unsaved : l.saved ≠ some true) :
    asked save l = true := by
  simp [asked, unsaved]

theorem told_of_requests (name : String) {save : Option Save} {lines : List ConditionLine}
    (unsaved : save = none → ∀ l ∈ lines, l.saved = none) :
    Told save lines (requests save lines) (Outcome.condition name lines).success := by
  have told : (Outcome.condition name lines).success = false ↔
      ∃ l ∈ lines, l.applied = false ∧ l.saved ≠ some true := by
    simp [Outcome.success]
  have sound : (Outcome.condition name lines).success = false → ∃ id, (id, false) ∈ requests save lines := by
    rw [told, refused_mem_requests]
    rintro ⟨l, hl, refused, unsaved⟩
    exact ⟨l, hl, asked_of_unsaved save unsaved, refused⟩
  refine ⟨rfl, told, sound, ?_, fun clear => ⟨sound, ?_⟩⟩
  · rw [← Bool.not_eq_false, told, refused_mem_requests, and_comm]
    refine and_congr_right fun _ => ⟨fun silent l hl _ refused => ?_, ?_⟩
    · exact Decidable.byContradiction fun unsaved => silent ⟨l, hl, refused, unsaved⟩
    · rintro made ⟨l, hl, refused, unsaved⟩
      exact unsaved (made l hl (asked_of_unsaved save unsaved) refused)
  · rw [told, refused_mem_requests]
    rintro ⟨l, hl, requested, refused⟩
    refine ⟨l, hl, refused, fun made => ?_⟩
    cases save with
    | none =>
      rw [unsaved rfl l hl] at made
      cases made
    | some save =>
      have negates : save.negate = true := clear
      simp [asked, made, negates] at requested

end Keeper

namespace Encounter

/-- **A condition that is refused is told of, unless the target made its save.**  Whoever keeps the table: if requests
are always answered, a condition effect on any targets has a line for each of them; its book has the answer to each
request that was made; and what the effect tells of the refusals in it is `Told`.  The effects of an encounter are those
of its own keeper. -/
theorem condition_told {σ ε : Type} (k : Keeper σ ε) (condition : Label) (duration : Option Nat) (save : Option Save)
    (ts : List Target) (s : σ) :
    (∀ o half targeting, strike o half targeting (.condition condition duration save) = do
      let ts ← targets o targeting
      let lines ← Act.each (Keeper.table.strikeCondition condition duration save) ts
      return .condition condition.text lines) ∧
    ∃ result now book,
      (Act.each (k.strikeCondition condition duration save) ts).run s = (result, now) ∧
      (Act.each (k.booked.strikeCondition condition duration save) ts).run (s, []) = (result, now, book) ∧
      ((∀ t c s, ∃ granted now, (k.sets t c).run s = (.ok granted, now)) → ∃ lines, result = .ok lines) ∧
      ∀ lines, result = .ok lines → lines.map (·.target) = ts.map Target.id ∧
        Keeper.Told save lines book (Outcome.condition condition.text lines).success := by
  refine ⟨fun o half targeting => ?_, ?_⟩
  · rw [Keeper.strikeCondition_table]
    rfl
  · obtain ⟨result, now, book, struck, noted, lines⟩ := k.each_booked condition duration save ts s []
    refine ⟨result, now, book, struck, noted, fun answers => ?_, fun all answered => ?_⟩
    · have sets : ∀ t c, Act.Sure (fun _ => True) (k.sets t c) := fun t c s _ => by
        obtain ⟨granted, now, ran⟩ := answers t c s
        exact ⟨granted, now, ran, trivial⟩
      obtain ⟨all, _, ran, -⟩ := Act.Sure.each
        (Keeper.sure_strikeCondition (fun _ _ _ _ => trivial) sets condition duration save) ts s trivial
      rw [struck] at ran
      exact ⟨all, congrArg Prod.fst ran⟩
    · obtain ⟨named, unsaved, rfl⟩ := lines all answered
      exact ⟨named, Keeper.told_of_requests condition.text unsaved⟩

/-- A knight who is warded against conditions, and rolls a twenty. -/
def warded : Encounter :=
  { opening [fighter "knight" .player] [20] with world := { World.plain with refuseConditions := .everyone } }

/-- A save that halves the duration of a condition. -/
def composure : Save :=
  { (default : Save) with ability := some .wisdom, dc := some 12, halfDuration := true }

/-- **A refusal after a made save is not told of**: the knight halves three rounds to two, the table is asked for these
and refuses, and the effect is a success. -/
theorem warded_untold :
    let dazed : Label := ⟨"Dazed", by decide⟩
    let struck := (Act.each (Keeper.table.booked.strikeCondition dazed (some 3) (some composure)) warded.seats).run
      (warded, [])
    struck.1.toOption = some [⟨"knight", false, some 2, some true⟩] ∧ struck.2.2 = [("knight", false)] ∧
      (resolve .none (some ["knight"]) false (.impact none (.condition dazed (some 3) (some composure)))
        warded).1.success = true := by
  decide +kernel

end Encounter
end Bestiary
