import Bestiary.Proofs.Creature.Recharging
/-!
# Identity — an id stands for one action

Reading does not ask whether two actions have the same id, but no command gives an id to a second action
(`count_after`).  An id that a document gives to one action at most is `Sole` and stays so.  Then the action has its
recharge as long as it is there; when it is removed, nothing is left of it until an action with its id is added
(`read_after_identified`).
-/
namespace Bestiary
namespace Creature

open Encounter (evening)

/-- The ids of the actions, in order. -/
def ids (c : Creature) : List String := c.actions.map fun a => a.id.text

/-- The ids of the actions that recharges are for. -/
def boundIds (rs : List Recharge) : List String := rs.map fun r => r.action.text

/-- **An id that one action has at most**, with a recharge if the action has a threshold. -/
structure Sole (c : Creature) (x : String) : Prop where
  once : c.ids.count x ≤ 1
  bound : ∀ a ∈ c.actions, a.id.text = x → a.recharge.isSome → x ∈ boundIds c.recharges

/-- Neither an action nor a recharge has this id. -/
def Gone (c : Creature) (x : String) : Prop := x ∉ c.ids ∧ x ∉ boundIds c.recharges

/-! ## The catalogue -/

theorem upsert_ids (a : Action) : ∀ as : List Action,
    ((upsert a as).map fun b => b.id.text) =
      if a.id.text ∈ as.map (fun b => b.id.text) then as.map fun b => b.id.text
      else as.map (fun b => b.id.text) ++ [a.id.text]
  | [] => rfl
  | b :: as => by
    unfold upsert
    by_cases same : b.id = a.id
    · simp [same]
    · have other : a.id.text ≠ b.id.text := fun h => same (Label.text_inj.1 h.symm)
      rw [if_neg same, List.map_cons, List.map_cons, upsert_ids a as]
      by_cases later : a.id.text ∈ as.map fun b => b.id.text
      · rw [if_pos later, if_pos (List.mem_cons_of_mem _ later)]
      · rw [if_neg later, if_neg (by simp [other]; simpa using later), List.cons_append]

theorem count_upsert (a : Action) (as : List Action) (x : String) :
    ((upsert a as).map fun b => b.id.text).count x ≤ max 1 ((as.map fun b => b.id.text).count x) := by
  rw [upsert_ids]
  split
  · exact Nat.le_max_right _ _
  · rename_i fresh
    rw [List.count_append]
    by_cases own : a.id.text = x
    · subst own
      rw [List.count_eq_zero_of_not_mem fresh, List.count_singleton_self]
      exact Nat.le_max_left _ _
    · rw [List.count_singleton, if_neg (by simpa using own)]
      exact Nat.le_max_right _ _

theorem mem_upsert {a b : Action} : ∀ {as : List Action}, b ∈ upsert a as → b = a ∨ b ∈ as
  | [], h => .inl (List.mem_singleton.1 h)
  | d :: as, h => by
    unfold upsert at h
    split at h
    · exact (List.mem_cons.1 h).imp_right (List.mem_cons_of_mem _)
    · rcases List.mem_cons.1 h with rfl | h
      · exact .inr List.mem_cons_self
      · exact (mem_upsert h).imp_right (List.mem_cons_of_mem _)

/-- Removing the first action with an id takes the id off once. -/
theorem eraseP_ids (id : String) : ∀ as : List Action,
    ((as.eraseP fun b => b.id.text == id).map fun b => b.id.text) = (as.map fun b => b.id.text).erase id
  | [] => rfl
  | b :: as => by
    by_cases own : b.id.text = id
    · rw [List.eraseP_cons_of_pos (by simpa using own), List.map_cons, own, List.erase_cons_head]
    · rw [List.eraseP_cons_of_neg (by simpa using own), List.map_cons, List.map_cons, eraseP_ids id as,
        List.erase_cons_tail (by simpa using own)]

/-! ## The recharges -/

theorem pay_actions (a : Action) (c : Creature) : (pay a c).actions = c.actions := by
  unfold pay
  split <;> rfl

theorem pay_boundIds (a : Action) (c : Creature) : boundIds (pay a c).recharges = boundIds c.recharges := by
  unfold pay
  split
  · rfl
  · rfl
  · rfl
  · exact discharge_ids _ _
  · rfl

/-- Binding an action binds its id if it has a threshold, and no other. -/
theorem mem_rebind {a : Action} {rs : List Recharge} {x : String} :
    x ∈ boundIds (rebind a rs) ↔ x ∈ boundIds rs ∨ (a.recharge.isSome ∧ x = a.id.text) := by
  unfold rebind
  cases a.recharge with
  | none => simp
  | some threshold =>
    dsimp only
    rw [boundIds, rebind_go_ids]
    split
    · rename_i bound
      refine ⟨.inl, ?_⟩
      rintro (h | ⟨-, rfl⟩)
      · exact h
      · exact bound
    · simp [boundIds]

/-! ## Steps -/

/-- **No step gives an id to a second action.** -/
theorem count_step {c c' : Creature} {e : Encounter} {command : Command} {r : Response}
    (step : Step c e command r c') (x : String) : c'.ids.count x ≤ max 1 (c.ids.count x) := by
  cases step with
  | used report found able =>
    unfold ids
    rw [pay_actions]
    exact Nat.le_max_right _ _
  | added a accepted => exact count_upsert a c.actions x
  | @removed id a found =>
    have fewer : ((c.actions.eraseP fun b => b.id.text == id).map fun b => b.id.text).count x ≤ c.ids.count x := by
      rw [eraseP_ids]
      exact List.erase_sublist.count_le x
    exact Nat.le_trans fewer (Nat.le_max_right _ _)
  | _ => exact Nat.le_max_right _ _

theorem Sole.transfer {c c' : Creature} {x : String} (h : c.Sole x) (actions : c'.actions = c.actions)
    (same : boundIds c'.recharges = boundIds c.recharges) : c'.Sole x where
  once := by
    unfold ids
    rw [actions]
    exact h.once
  bound := by
    rw [actions, same]
    exact h.bound

/-- **What is left of a sole id when its action is removed**: nothing. -/
theorem gone_of_removed {c c' : Creature} {e : Encounter} {x : String} (h : c.Sole x)
    (step : Step c e (.removeAction x) (.flag true) c') : c'.Gone x := by
  cases step with
  | removed found =>
    constructor
    · unfold ids
      rw [eraseP_ids]
      refine List.count_eq_zero.1 ?_
      have once : (c.actions.map fun b => b.id.text).count x ≤ 1 := h.once
      rw [List.count_erase_self]
      omega
    · simp [boundIds]

/-- **Every step keeps a sole id sole.** -/
theorem sole_step {c c' : Creature} {e : Encounter} {command : Command} {r : Response} {x : String}
    (step : Step c e command r c') (h : c.Sole x) : c'.Sole x := by
  have once : c'.ids.count x ≤ 1 := by
    have most := count_step step x
    have := h.once
    omega
  cases step with
  | used report found able => exact h.transfer (pay_actions _ c) (pay_boundIds _ c)
  | added a accepted =>
    refine ⟨once, fun b hb own threshold => mem_rebind.2 ?_⟩
    rcases mem_upsert hb with rfl | hb
    · exact .inr ⟨threshold, own.symm⟩
    · exact .inl (h.bound b hb own threshold)
  | @removed id a found =>
    refine ⟨once, fun b hb own threshold => ?_⟩
    by_cases removed : x = id
    · subst removed
      have gone := gone_of_removed h (Step.removed (e := e) found)
      exact absurd (List.mem_map.2 ⟨b, hb, own⟩) gone.1
    · obtain ⟨r, hr, named⟩ := List.mem_map.1 (h.bound b (List.mem_of_mem_eraseP hb) own threshold)
      exact List.mem_map.2 ⟨r, List.mem_filter.2 ⟨hr, by simpa [named] using removed⟩, named⟩
  | recharged rolled => exact h.transfer rfl (ids_of_rolled rolled)
  | begun same rolled => exact h.transfer rfl (ids_of_rolled rolled)
  | _ => exact h.transfer rfl rfl

theorem Gone.transfer {c c' : Creature} {x : String} (h : c.Gone x) (actions : c'.actions = c.actions)
    (same : boundIds c'.recharges = boundIds c.recharges) : c'.Gone x := by
  unfold Gone ids
  rw [actions, same]
  exact h

/-- What is gone stays gone in a step that does not add an action with its id. -/
theorem gone_step {c c' : Creature} {e : Encounter} {command : Command} {r : Response} {x : String}
    (step : Step c e command r c') (unadded : ∀ a, r = .added a → a.id.text ≠ x) (h : c.Gone x) : c'.Gone x := by
  cases step with
  | used report found able => exact h.transfer (pay_actions _ c) (pay_boundIds _ c)
  | added a accepted =>
    have other : x ≠ a.id.text := fun own => unadded a rfl own.symm
    refine ⟨?_, fun bound => ?_⟩
    · unfold ids
      rw [upsert_ids]
      split
      · exact h.1
      · rw [List.mem_append, List.mem_singleton, not_or]
        exact ⟨h.1, other⟩
    · rcases mem_rebind.1 bound with bound | ⟨-, own⟩
      · exact h.2 bound
      · exact other own
  | @removed id a found =>
    refine ⟨fun listed => ?_, fun bound => ?_⟩
    · unfold ids at listed
      rw [eraseP_ids] at listed
      exact h.1 (List.mem_of_mem_erase listed)
    · exact h.2 ((List.filter_sublist.map _).subset bound)
  | recharged rolled => exact h.transfer rfl (ids_of_rolled rolled)
  | begun same rolled => exact h.transfer rfl (ids_of_rolled rolled)
  | _ => exact h.transfer rfl rfl

/-! ## Runs -/

/-- **No run gives an id to a second action.** -/
theorem count_after (ts : List Turn) (c : Creature) (x : String) :
    (c.after ts).ids.count x ≤ max 1 (c.ids.count x) := by
  refine after_keeps (P := fun d => d.ids.count x ≤ max 1 (c.ids.count x)) ?_ ts c (Nat.le_max_right _ _)
  intro d e command r d' step most
  have := count_step step x
  omega

theorem after_sole (ts : List Turn) {c : Creature} {x : String} (h : c.Sole x) : (c.after ts).Sole x :=
  after_keeps (P := fun d => d.Sole x) sole_step ts c h

/-- What is gone stays gone until an action with its id is added. -/
theorem after_gone {x : String} : ∀ (ts : List Turn) (c : Creature), c.Gone x →
    (∀ pre t post, ts = pre ++ t :: post → ∀ a, (c.after pre).answer t = .added a → a.id.text ≠ x) →
    (c.after ts).Gone x
  | [], _, h, _ => h
  | t :: ts, c, h, unadded => by
    have step := run_step t.command c t.encounter t.supply
    refine after_gone ts _ (gone_step step (unadded [] t ts rfl) h) ?_
    rintro pre u post rfl
    exact unadded (t :: pre) u post rfl

theorem action?_of_gone {c : Creature} {x : String} (h : c.Gone x) : c.action? x = none := by
  rw [action?, List.find?_eq_none]
  intro a ha own
  exact h.1 (List.mem_map.2 ⟨a, ha, by simpa using own⟩)

theorem recharge?_of_gone {c : Creature} {x : String} (h : c.Gone x) : c.recharge? x = none := by
  rw [recharge?, List.find?_eq_none]
  intro r hr own
  exact h.2 (List.mem_map.2 ⟨r, hr, by simpa using own⟩)

/-! ## Reading -/

/-- Binding one action keeps what is bound, and binds the action if it has a threshold. -/
theorem bind_cons (a : Action) (rest : List Action) (rs : List Recharge) :
    ∃ now, bind rs (a :: rest) = bind now rest ∧ (∀ id ∈ boundIds rs, id ∈ boundIds now) ∧
      (a.recharge.isSome → a.id.text ∈ boundIds now) := by
  rw [bind]
  cases threshold : a.recharge with
  | none => exact ⟨rs, rfl, fun _ h => h, by simp⟩
  | some face =>
    dsimp only
    split
    · rename_i bound
      exact ⟨rs, rfl, fun _ h => h, fun _ => by simpa [boundIds] using bound⟩
    · refine ⟨_, rfl, fun id h => ?_, fun _ => ?_⟩
      · rw [boundIds, List.map_append]
        exact List.mem_append_left _ h
      · rw [boundIds, List.map_append]
        exact List.mem_append_right _ (List.mem_singleton.2 rfl)

theorem mem_bind_of_mem {id : String} : ∀ (actions : List Action) {rs : List Recharge}, id ∈ boundIds rs →
    id ∈ boundIds (bind rs actions)
  | [], _, h => h
  | a :: rest, rs, h => by
    obtain ⟨now, step, keeps, -⟩ := bind_cons a rest rs
    rw [step]
    exact mem_bind_of_mem rest (keeps id h)

/-- Reading binds every action that has a threshold. -/
theorem mem_bind : ∀ (actions : List Action) {rs : List Recharge}, ∀ a ∈ actions, a.recharge.isSome →
    a.id.text ∈ boundIds (bind rs actions)
  | [], _, _, ha, _ => by cases ha
  | b :: rest, rs, a, ha, threshold => by
    obtain ⟨now, step, -, binds⟩ := bind_cons b rest rs
    rw [step]
    rcases List.mem_cons.1 ha with rfl | later
    · exact mem_bind_of_mem rest (binds threshold)
    · exact mem_bind rest a later threshold

/-- **An id that a document gives to one action at most is sole.** -/
theorem sole_of_read {j : Json} {s s' : Supply} {c : Creature} (accepted : (Creature.read j).run s = (.ok c, s'))
    {x : String} (once : c.ids.count x ≤ 1) : c.Sole x := by
  refine ⟨once, ?_⟩
  obtain ⟨entries, -, read⟩ := Intake.run_record_ok accepted
  obtain ⟨g, -, settled⟩ := Intake.run_check_ok read
  unfold normalize at settled
  split at settled
  · cases settled
  · cases settled
    rintro a ha rfl
    exact mem_bind g.actions a ha

/-- **An id that a document gives to one action at most stands for that action at every point of every run.**  No other
action gets it; if the action has a threshold, there is exactly one recharge for it; and when a removal answers that the
action was there, it is neither found nor recharged nor used until an action with the id is added. -/
theorem read_after_identified (j : Json) (s s' : Supply) (c : Creature)
    (accepted : (Creature.read j).run s = (.ok c, s')) (x : String) (sole : c.ids.count x ≤ 1) (before : List Turn) :
    (c.after before).ids.count x ≤ 1 ∧
    (∀ a ∈ (c.after before).actions, a.id.text = x → a.recharge.isSome →
      (boundIds (c.after before).recharges).count x = 1) ∧
    ∀ t, t.command = .removeAction x → (c.after before).answer t = .flag true → ∀ later,
      (∀ pre u post, later = pre ++ u :: post → ∀ a, (c.after (before ++ t :: pre)).answer u = .added a →
        a.id.text ≠ x) →
      (c.after (before ++ t :: later)).action? x = none ∧ (c.after (before ++ t :: later)).recharge? x = none ∧
        ∀ o e, ((c.after (before ++ t :: later)).use x o e).1 = none := by
  have limits := after_inLimits before (inLimits_of_read accepted)
  have here := after_sole before (sole_of_read accepted sole)
  simp only [after_append]
  generalize c.after before = d at limits here
  refine ⟨here.once, fun a ha own threshold => ?_, fun t command removed later unadded => ?_⟩
  · exact List.count_eq_one_of_mem limits.boundOnce (here.bound a ha own threshold)
  · have step : Step d t.encounter (.removeAction x) (.flag true) (d.after [t]) := by
      rw [← command, ← removed]
      exact run_step t.command d t.encounter t.supply
    have first : (d.after [t]).Gone x := gone_of_removed here step
    have gone : (d.after (t :: later)).Gone x := after_gone later (d.after [t]) first unadded
    have unknown := action?_of_gone gone
    refine ⟨unknown, recharge?_of_gone gone, fun o e => ?_⟩
    obtain ⟨ns, refused⟩ := use_of_unable (e := e) o fun a found => by
      rw [unknown] at found
      cases found
    rw [refused]

theorem read_after_identified_dragon : ∃ c s', (Creature.read overdrawnDragon).run ⟨0, evening⟩ = (.ok c, s') ∧
    c.ids.count "breath" ≤ 1 ∧ (c.after dragonRound).ids.count "breath" ≤ 1 ∧
    (c.after dragonRound).answer (dragonTurn (.removeAction "breath")) = .flag true ∧
    ∀ o e, ((c.after (dragonRound ++ [dragonTurn (.removeAction "breath"), dragonTurn .startRound])).use
      "breath" o e).1 = none := by
  have once : ["tail", "surge", "plot", "breath"].count "breath" ≤ 1 := by decide
  obtain ⟨still, -, removed⟩ :=
    read_after_identified overdrawnDragon ⟨0, evening⟩ _ _ rfl "breath" once dragonRound
  refine ⟨_, _, rfl, once, still, rfl, (removed _ rfl rfl [dragonTurn .startRound] ?_).2.2⟩
  rintro pre u post split a added
  obtain ⟨rfl, rfl, rfl⟩ : pre = [] ∧ u = dragonTurn .startRound ∧ post = [] := by
    cases pre with
    | nil => simpa [eq_comm] using split
    | cons t pre => simp at split
  cases added

/-- An ogre with two actions of one id. -/
def twoClubs : Json :=
  let club (name : String) : Json := .obj
    [("id", .str "club"), ("name", .str name), ("type", .str "recharge"), ("recharge", .int 5)]
  .obj [("name", .str "Ogre"), ("actions", .arr [club "Club", club "Great Club"])]

/-- Of two actions with one id a removal takes the first, and the recharge of both. -/
theorem twoClubs_accepted : ∃ c s', (Creature.read twoClubs).run ⟨0, evening⟩ = (.ok c, s') ∧
    c.ids = ["club", "club"] ∧
    c.answer (dragonTurn (.removeAction "club")) = .flag true ∧
    ((c.after [dragonTurn (.removeAction "club")]).action? "club").any (fun a => a.recharge.isSome) = true ∧
    boundIds (c.after [dragonTurn (.removeAction "club")]).recharges = [] :=
  ⟨_, _, rfl, rfl, rfl, by decide +kernel, rfl⟩

end Creature
end Bestiary
