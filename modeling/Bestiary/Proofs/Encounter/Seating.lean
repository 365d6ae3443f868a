import Mathlib.Data.List.Nodup
import Bestiary.Proofs.Encounter.Backdrop
/-!
# Seating — who is found stands on the roster

A target has the place of a combatant with its id (`Seated`).  Whoever a targeting describes is seated if those selected
beforehand and the one who acts are (`targets_seated`), and where ids are distinct a change at the place of a target is
a change of the combatant with its id (`alter_of_seated`).
-/
namespace Bestiary

namespace Draws

variable {α : Type}

theorem mem_of_mem_drawFrom : ∀ (count : Nat) (pool : List α) (d : Draws), ∀ a ∈ (drawFrom count pool d).1, a ∈ pool
  | 0, _, _, _, h => by simp [drawFrom] at h
  | count + 1, pool, d, a, h => by
    simp only [drawFrom] at h
    split at h
    · rename_i drawn last hd hl
      rcases List.mem_cons.1 h with rfl | h
      · exact List.mem_of_getElem? hd
      · have left := mem_of_mem_drawFrom count _ _ a h
        rcases List.mem_or_eq_of_mem_set (List.dropLast_subset _ left) with h | rfl
        · exact h
        · exact List.mem_of_getLast? hl
    · cases h

/-- **What is drawn at random is one of the items.** -/
theorem mem_of_mem_sample {count : Nat} {items : List α} {d : Draws} {a : α} (h : a ∈ (sample count items d).1) :
    a ∈ items := by
  unfold sample at h
  split at h
  · exact mem_of_mem_drawFrom count items d a h
  · obtain ⟨n, -, hn⟩ := List.mem_filterMap.1 h
    exact List.mem_of_getElem? hn

end Draws

namespace Encounter

/-- The ids on the roster. -/
def ids (e : Encounter) : List String := e.roster.map Combatant.id

/-- A target that has the place of a combatant with its id. -/
def Seated (e : Encounter) (t : Target) : Prop := ∃ n, t.seat = some n ∧ e.ids[n]? = some t.id

theorem ids_of_undisturbed {e f : Encounter} (h : Undisturbed e f) : f.ids = e.ids := by
  have bare (g : Encounter) : (g.roster.map Combatant.bare).map Combatant.id = g.ids := by
    simp [ids, Combatant.bare, Function.comp_def]
  rw [← bare f, h.roster, bare e]

theorem Seated.transfer {e f : Encounter} {t : Target} (h : Seated e t) (same : f.ids = e.ids) : Seated f t := by
  obtain ⟨n, hn, ht⟩ := h
  exact ⟨n, hn, same ▸ ht⟩

theorem seated_of_mem_seats {e : Encounter} {t : Target} (h : t ∈ e.seats) : Seated e t := by
  obtain ⟨⟨c, n⟩, hc, rfl⟩ := List.mem_map.1 h
  have at_n : e.roster[n]? = some c := List.mem_zipIdx_iff_getElem?.1 hc
  refine ⟨n, rfl, ?_⟩
  rw [ids, List.getElem?_map, at_n]
  rfl

theorem seated_of_inArea {region : Option Area} {e f : Encounter} {found : Option (List Target)}
    (h : (inArea region).run e = (.ok found, f)) : ∀ t ∈ found.getD [], Seated e t := by
  intro t ht
  simp only [inArea, Act.run] at h
  split at h
  · cases h
  · injection h with h _
    injection h with h
    subst h
    cases area : e.world.area region with
    | none => simp [area] at ht
    | some names =>
      rw [area] at ht
      obtain ⟨name, -, hname⟩ := List.mem_filterMap.1 ht
      exact seated_of_mem_seats (List.mem_of_find?_eq_some hname)

/-- **Whoever is found is seated**, if those named in the options are. -/
theorem targets_seated {o : Options} {e f : Encounter} {ts : List Target} (targeting : Option Targeting)
    (selected : ∀ t ∈ o.selected, Seated e t) (source : ∀ t ∈ o.source, Seated e t)
    (h : (targets o targeting).run e = (.ok ts, f)) : ∀ t ∈ ts, Seated e t := by
  have among (p : Target → Bool) : ∀ t ∈ e.seats.filter p, Seated e t :=
    fun t ht => seated_of_mem_seats (List.mem_of_mem_filter ht)
  have nobody : ∀ t ∈ ([] : List Target), Seated e t := fun _ ht => nomatch ht
  cases targeting with
  | none =>
    cases h
    exact selected
  | some targeting =>
    obtain ⟨choice, count, names, area⟩ := targeting
    cases choice with
    | all => cases h; exact fun t ht => seated_of_mem_seats ht
    | players => cases h; exact among _
    | monsters => cases h; exact among _
    | allies =>
      cases h
      cases o.side? with
      | none => exact nobody
      | some side => exact among _
    | enemies =>
      cases h
      cases o.side? with
      | none => exact nobody
      | some side => exact among _
    | self => cases h; exact fun t ht => source t (Option.mem_toList.1 ht)
    | specific => cases h; exact among _
    | selected => cases h; exact selected
    | area =>
      simp only [targets, Act.run, Act.bind] at h
      split at h
      · rename_i found g hg
        cases h
        exact seated_of_inArea hg
      · cases h
    | random => cases h; exact fun t ht => seated_of_mem_seats (Draws.mem_of_mem_sample ht)

/-- Where ids are distinct, a place is an id. -/
theorem modify_eq_map {roster : List Combatant} (distinct : (roster.map Combatant.id).Nodup) {n : Nat} {id : String}
    (at_n : (roster.map Combatant.id)[n]? = some id) (change : Combatant → Combatant) :
    roster.modify n change = roster.map fun c => if c.id = id then change c else c := by
  apply List.ext_getElem?
  intro m
  rw [List.getElem?_modify, List.getElem?_map]
  cases at_m : roster[m]? with
  | none => simp
  | some c =>
    have id_m : (roster.map Combatant.id)[m]? = some c.id := by rw [List.getElem?_map, at_m]; rfl
    have place : n = m ↔ c.id = id := by
      constructor
      · rintro rfl
        exact Option.some.inj (id_m.symm.trans at_n)
      · rintro rfl
        exact (List.getElem?_inj (List.getElem?_eq_some_iff.1 at_n).1 distinct).1 (at_n.trans id_m.symm)
    simp [place]

/-- **A change at the place of a target is a change of whoever has its id.** -/
theorem alter_of_seated {e : Encounter} {t : Target} (distinct : e.ids.Nodup) (seated : Seated e t)
    (change : Combatant → Combatant) :
    (e.alter t change).roster = e.roster.map fun c => if c.id = t.id then change c else c := by
  obtain ⟨n, hn, at_n⟩ := seated
  rw [alter, hn]
  exact modify_eq_map distinct at_n change

end Encounter
end Bestiary
