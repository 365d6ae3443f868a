import Bestiary.Proofs.Creature.Limits
/-!
# Ledger — the history accounts for the pools

One step posts at most one entry and takes from the pools what the entry says (`posted_step`), so over a stretch of a
run that does not refill a pool, the pool falls by what the entries of the stretch cost (`after_balanced`).  That the
subtraction is never cut off at zero rests on the check before each use.
-/
namespace Bestiary

namespace Command

/-- Whether the command fills the legendary pool. -/
def fillsLegendary : Command → Bool
  | .resetLegendary | .startRound => true
  | _ => false

/-- Whether the command sets the mythic pool. -/
def setsMythic : Command → Bool
  | .resetMythic | .activateMythic | .deactivateMythic => true
  | _ => false

/-- Whether the command clears the villain actions of the round. -/
def clearsVillain : Command → Bool
  | .resetVillain | .startRound => true
  | _ => false

end Command

namespace Creature

open Encounter (evening)

/-- What the entries of an economy cost together. -/
def spent (economy : Economy) : List HistoryEntry → Int
  | [] => 0
  | h :: rest => (if h.economy = economy then h.cost else 0) + spent economy rest

/-- How many entries are of an economy. -/
def uses (economy : Economy) (entries : List HistoryEntry) : Nat := entries.countP fun h => h.economy = economy

/-- The entries that some turns append to the history. -/
def appended (c : Creature) (ts : List Turn) : List HistoryEntry := (c.after ts).history.drop c.history.length

@[simp] theorem spent_nil (economy : Economy) : spent economy [] = 0 := rfl

theorem spent_singleton (economy : Economy) (h : HistoryEntry) :
    spent economy [h] = if h.economy = economy then h.cost else 0 := by
  rw [spent, spent_nil, Int.add_zero]

theorem spent_append (economy : Economy) : ∀ xs ys : List HistoryEntry,
    spent economy (xs ++ ys) = spent economy xs + spent economy ys
  | [], ys => (Int.zero_add _).symm
  | x :: xs, ys => by
    rw [List.cons_append, spent, spent, spent_append economy xs ys, Int.add_assoc]

@[simp] theorem uses_nil (economy : Economy) : uses economy [] = 0 := rfl

theorem uses_singleton (economy : Economy) (h : HistoryEntry) :
    uses economy [h] = if h.economy = economy then 1 else 0 := by
  by_cases same : h.economy = economy <;> simp [uses, same]

theorem uses_append (economy : Economy) (xs ys : List HistoryEntry) :
    uses economy (xs ++ ys) = uses economy xs + uses economy ys :=
  List.countP_append

/-! ## Steps -/

namespace Paid

variable {a : Action} {c d : Creature} {economy : Economy}

theorem legendary_balance (h : Paid a c economy d) :
    (c.legendary : Int) = d.legendary + if economy = .legendary then (a.cost : Int) else 0 := by
  cases h with
  | legendary affordable =>
    rw [if_pos rfl]
    dsimp only
    omega
  | free unpriced => rw [if_neg (by rintro rfl; simp at unpriced), Int.add_zero]
  | _ => simp

theorem mythic_balance (h : Paid a c economy d) :
    (c.mythic : Int) = d.mythic + if economy = .mythic then (a.cost : Int) else 0 := by
  cases h with
  | mythic _ affordable =>
    rw [if_pos rfl]
    dsimp only
    omega
  | free unpriced => rw [if_neg (by rintro rfl; simp at unpriced), Int.add_zero]
  | _ => simp

theorem villain_balance (h : Paid a c economy d) :
    d.villainUsed = c.villainUsed + if economy = .villain then 1 else 0 := by
  cases h with
  | villain _ => rfl
  | free unpriced => rw [if_neg (by rintro rfl; simp at unpriced), Nat.add_zero]
  | _ => simp

theorem active (h : Paid a c economy d) (mythic : economy = .mythic) : c.mythicActive = true := by
  subst mythic
  cases h with
  | mythic active _ => exact active
  | free unpriced => simp at unpriced

end Paid

/-- **What a step enters and what it takes for it**, unless the command refills what it takes from. -/
structure Posted (command : Command) (c : Creature) (entries : List HistoryEntry) (c' : Creature) : Prop where
  history : c'.history = c.history ++ entries
  single : entries = [] ∨ ∃ h, entries = [h]
  legendary : command.fillsLegendary = false → (c.legendary : Int) = c'.legendary + spent .legendary entries
  mythic : command.setsMythic = false → (c.mythic : Int) = c'.mythic + spent .mythic entries
  active : ∀ h ∈ entries, h.economy = .mythic → c.mythicActive = true
  villain : command.clearsVillain = false → c'.villainUsed = c.villainUsed + uses .villain entries

/-- A step that leaves the history and the pools alone posts nothing. -/
theorem posted_nothing {command : Command} {c c' : Creature} (history : c'.history = c.history)
    (legendary : command.fillsLegendary = false → c'.legendary = c.legendary)
    (mythic : command.setsMythic = false → c'.mythic = c.mythic)
    (villain : command.clearsVillain = false → c'.villainUsed = c.villainUsed) : Posted command c [] c' where
  history := by rw [history, List.append_nil]
  single := .inl rfl
  legendary h := by rw [legendary h, spent_nil, Int.add_zero]
  mythic h := by rw [mythic h, spent_nil, Int.add_zero]
  active _ h := nomatch h
  villain h := by rw [villain h, uses_nil, Nat.add_zero]

/-- **A use that was checked takes what its entry says**: no pool is cut off at its bound. -/
theorem posted_use {id : String} {o : Options} {c : Creature} {e : Encounter} {a : Action} (report : Report)
    (able : c.canUse a e = true) :
    Posted (.use id o) c [entry a report e] { pay a c with history := c.history ++ [entry a report e] } := by
  -- `able` is used here only: what it says of each pool is in the constructors of `Paid`.
  have paid := paid_of_able able
  have economy : (entry a report e).economy = a.economy := rfl
  have cost : (entry a report e).cost = a.cost := rfl
  refine ⟨rfl, .inr ⟨_, rfl⟩, fun _ => ?_, fun _ => ?_, fun h hm kind => ?_, fun _ => ?_⟩
  · rw [spent_singleton, economy, cost]
    exact paid.legendary_balance
  · rw [spent_singleton, economy, cost]
    exact paid.mythic_balance
  · rw [List.mem_singleton.1 hm, economy] at kind
    exact paid.active kind
  · rw [uses_singleton, economy]
    exact paid.villain_balance

theorem posted_step {c c' : Creature} {e : Encounter} {command : Command} {r : Response}
    (h : Step c e command r c') : ∃ entries, Posted command c entries c' := by
  cases h with
  | used report _ able => exact ⟨_, posted_use report able⟩
  | legendaryFilled => exact ⟨[], posted_nothing rfl nofun (fun _ => rfl) fun _ => rfl⟩
  | mythicFilled => exact ⟨[], posted_nothing rfl (fun _ => rfl) nofun fun _ => rfl⟩
  | villainCleared => exact ⟨[], posted_nothing rfl (fun _ => rfl) (fun _ => rfl) nofun⟩
  | mythicBegun => exact ⟨[], posted_nothing rfl (fun _ => rfl) nofun fun _ => rfl⟩
  | mythicEnded => exact ⟨[], posted_nothing rfl (fun _ => rfl) nofun fun _ => rfl⟩
  | begun _ _ => exact ⟨[], posted_nothing rfl nofun (fun _ => rfl) nofun⟩
  | _ => exact ⟨[], posted_nothing rfl (fun _ => rfl) (fun _ => rfl) fun _ => rfl⟩

/-! ## Runs -/

theorem history_grows (ts : List Turn) (c : Creature) : c.history <+: (c.after ts).history := by
  refine after_keeps (P := fun d => c.history <+: d.history) (fun step grown => ?_) ts c (List.prefix_refl _)
  obtain ⟨entries, posted⟩ := posted_step step
  rw [posted.history]
  exact grown.trans (List.prefix_append _ _)

/-- **The history only grows at its end.** -/
theorem after_history (ts : List Turn) (c : Creature) : (c.after ts).history = c.history ++ c.appended ts :=
  (List.prefix_iff_eq_append.1 (history_grows ts c)).symm

theorem appended_nil (c : Creature) : c.appended [] = [] := by
  simp [appended, after]

theorem appended_append (ts us : List Turn) (c : Creature) :
    c.appended (ts ++ us) = c.appended ts ++ (c.after ts).appended us := by
  have whole := after_history (ts ++ us) c
  rw [after_append, after_history us, after_history ts, List.append_assoc] at whole
  exact (List.append_cancel_left whole).symm

theorem appended_cons (t : Turn) (ts : List Turn) (c : Creature) :
    c.appended (t :: ts) = c.appended [t] ++ (c.after [t]).appended ts :=
  appended_append [t] ts c

theorem appended_posted (t : Turn) (c : Creature) : Posted t.command c (c.appended [t]) (c.after [t]) := by
  obtain ⟨entries, posted⟩ := posted_step (run_step t.command c t.encounter t.supply)
  have whole := after_history [t] c
  rw [after, after, posted.history] at whole
  rw [← List.append_cancel_left whole]
  exact posted

/-- **Over turns that do not refill it, a pool falls by the price of the entries**, if each turn sees to that. -/
theorem after_balanced (pool : Creature → Int) (price : List HistoryEntry → Int) {refills : Command → Bool}
    (free : price [] = 0) (add : ∀ xs ys, price (xs ++ ys) = price xs + price ys)
    (step : ∀ c (t : Turn), refills t.command = false → pool c = pool (c.after [t]) + price (c.appended [t])) :
    ∀ (ts : List Turn) (c : Creature), (∀ t ∈ ts, refills t.command = false) →
      pool c = pool (c.after ts) + price (c.appended ts)
  | [], c, _ => by
    rw [appended_nil, free, after]
    omega
  | t :: ts, c, dry => by
    have first := step c t (dry t List.mem_cons_self)
    have rest := after_balanced pool price free add step ts (c.after [t]) fun u hu => dry u (List.mem_cons_of_mem _ hu)
    have joined : (c.after [t]).after ts = c.after (t :: ts) := rfl
    rw [joined] at rest
    rw [appended_cons, add]
    omega

/-- **Each entry is appended by a turn of its own.** -/
theorem appended_by_turn : ∀ (ts : List Turn) (c : Creature) (older : List HistoryEntry) (h : HistoryEntry)
    (newer : List HistoryEntry), c.appended ts = older ++ h :: newer →
      ∃ pre t post, ts = pre ++ t :: post ∧ c.appended pre = older ∧ (c.after pre).appended [t] = [h]
  | [], c, older, h, newer, split => by
    rw [appended_nil] at split
    simp at split
  | t :: ts, c, older, h, newer, split => by
    rw [appended_cons] at split
    rcases (appended_posted t c).single with none | ⟨h', one⟩
    · rw [none, List.nil_append] at split
      obtain ⟨pre, u, post, rfl, hpre, hu⟩ := appended_by_turn ts (c.after [t]) older h newer split
      exact ⟨t :: pre, u, post, rfl, by rw [appended_cons, none, List.nil_append, hpre], hu⟩
    · rw [one, List.singleton_append] at split
      cases older with
      | nil =>
        obtain ⟨rfl, -⟩ := List.cons.inj split
        exact ⟨[], t, ts, rfl, appended_nil c, one⟩
      | cons h'' older =>
        obtain ⟨rfl, rest⟩ := List.cons.inj split
        obtain ⟨pre, u, post, rfl, hpre, hu⟩ := appended_by_turn ts (c.after [t]) older h newer rest
        exact ⟨t :: pre, u, post, rfl, by rw [appended_cons, one, hpre, List.singleton_append], hu⟩

/-- **The books of some turns.**  The history grows at its end; if nothing refills a pool on the way, the pool falls by
what the new entries cost, which is no more than was in it; and each new mythic entry was made by a turn that began in
the mythic phase. -/
structure Accounted (c : Creature) (ts : List Turn) : Prop where
  history : (c.after ts).history = c.history ++ c.appended ts
  legendary : (∀ t ∈ ts, t.command.fillsLegendary = false) →
    (c.legendary : Int) - (c.after ts).legendary = spent .legendary (c.appended ts) ∧
      spent .legendary (c.appended ts) ≤ c.legendary ∧ c.legendary ≤ c.maxLegendary
  mythic : (∀ t ∈ ts, t.command.setsMythic = false) →
    (c.mythic : Int) - (c.after ts).mythic = spent .mythic (c.appended ts) ∧
      spent .mythic (c.appended ts) ≤ c.mythic ∧ c.mythic ≤ c.maxMythic
  active : ∀ older h newer, c.appended ts = older ++ h :: newer → h.economy = .mythic →
    ∃ pre t post, ts = pre ++ t :: post ∧ c.appended pre = older ∧ (c.after pre).appended [t] = [h] ∧
      (c.after pre).mythicActive = true
  villain : (∀ t ∈ ts, t.command.clearsVillain = false) →
    ((c.after ts).villainUsed : Int) - c.villainUsed = uses .villain (c.appended ts) ∧
      c.villainUsed + uses .villain (c.appended ts) ≤ c.villainPerRound

theorem accounted_of_inLimits {c : Creature} (limits : c.InLimits) (ts : List Turn) : Accounted c ts := by
  refine ⟨after_history ts c, fun dry => ?_, fun dry => ?_, fun older h newer split mythic => ?_, fun dry => ?_⟩
  · have balance := after_balanced (fun d => d.legendary) (spent .legendary) (spent_nil _) (spent_append _)
      (fun c t => (appended_posted t c).legendary) ts c dry
    exact ⟨by omega, by omega, limits.legendary⟩
  · have balance := after_balanced (fun d => d.mythic) (spent .mythic) (spent_nil _) (spent_append _)
      (fun c t => (appended_posted t c).mythic) ts c dry
    exact ⟨by omega, by omega, limits.mythic⟩
  · obtain ⟨pre, t, post, rfl, hpre, ht⟩ := appended_by_turn ts c older h newer split
    refine ⟨pre, t, post, rfl, hpre, ht, (appended_posted t _).active h ?_ mythic⟩
    rw [ht]
    exact List.mem_singleton_self h
  · -- What rises is the count of used actions, so it is its negative that falls.
    have balance := after_balanced (fun d => -(d.villainUsed : Int)) (fun es => (uses .villain es : Int)) rfl
      (fun xs ys => by rw [uses_append]; exact Int.natCast_add _ _)
      (fun c t clear => by have := (appended_posted t c).villain clear; omega) ts c dry
    have bound := (after_inLimits ts limits).villain
    rw [(after_onward ts c).villainPerRound] at bound
    exact ⟨by omega, by omega⟩

/-- **The pools of a creature that was read are accounted for over every stretch of every run.** -/
theorem read_after_accounted (j : Json) (s s' : Supply) (c : Creature)
    (accepted : (Creature.read j).run s = (.ok c, s')) (before stretch : List Turn) :
    Accounted (c.after before) stretch :=
  accounted_of_inLimits (after_inLimits before (inLimits_of_read accepted)) stretch

theorem read_after_accounted_dragon : ∃ c s', (Creature.read overdrawnDragon).run ⟨0, evening⟩ = (.ok c, s') ∧
    Accounted (c.after dragonRound) dragonRound ∧ spent .legendary (c.appended dragonRound) = 2 :=
  ⟨_, _, rfl, read_after_accounted overdrawnDragon ⟨0, evening⟩ _ _ rfl dragonRound dragonRound, rfl⟩

end Creature
end Bestiary
