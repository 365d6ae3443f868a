import Bestiary.Proofs.Creature.Identity
import Bestiary.Proofs.Creature.Transaction
import Bestiary.Proofs.Table.Play
import Bestiary.Register
/-!
# Edits — the catalogue of actions is a register

Adding and removing actions search two lists and change them in place.  Where no two actions have one id this is to put
into a register and to erase from it: a run of edits leaves the actions that the register of them leaves
(`after_edits`), and each edit does to the recharges what is said of its action's id alone (`Edited`).
-/
namespace Bestiary

/-- Whether a command adds or removes an action. -/
def Command.isEdit : Command → Bool
  | .addAction _ | .removeAction _ => true
  | _ => false

namespace Creature

open Encounter (note announce evening)
open Table (Aside aside_addAction aside_removeAction)

/-- Actions under their ids, in the order in which the ids first came. -/
abbrev Actions : Type := Register Action fun a => a.id.text

/-- The actions of a creature of which no two have one id. -/
def catalogue (c : Creature) (distinct : c.ids.Nodup) : Actions := ⟨c.actions, distinct⟩

/-- **What an edit leaves of a register of actions**: an action that is accepted is put under its id, and what is
removed is erased. -/
def Actions.edit (r : Actions) (t : Turn) : Actions :=
  match t.command with
  | .addAction submission =>
    match (accept submission t.supply).1 with
    | .ok a => r.put a
    | .error _ => r
  | .removeAction id => r.erase id
  | _ => r

/-! ## The two lists -/

theorem upsert_eq_putInto (a : Action) : ∀ as : List Action,
    upsert a as = Register.putInto (fun b : Action => b.id.text) a as
  | [] => rfl
  | b :: as => by
    simp only [upsert, Register.putInto, Label.text_inj, upsert_eq_putInto a as]

/-- Where no two actions have one id, the first with an id is the only one. -/
theorem eraseP_eq_filter {id : String} : ∀ {as : List Action}, (as.map fun b => b.id.text).Nodup →
    as.eraseP (fun b => b.id.text == id) = as.filter fun b => b.id.text != id
  | [], _ => rfl
  | b :: as, distinct => by
    rw [List.map_cons, List.nodup_cons] at distinct
    by_cases own : b.id.text = id
    · have others : ∀ d ∈ as, d.id.text ≠ id := fun d hd same =>
        distinct.1 (List.mem_map.2 ⟨d, hd, same.trans own.symm⟩)
      rw [List.eraseP_cons_of_pos (by simpa using own), List.filter_cons_of_neg (by simpa using own)]
      exact (List.filter_eq_self.2 fun d hd => by simpa using others d hd).symm
    · rw [List.eraseP_cons_of_neg (by simpa using own), List.filter_cons_of_pos (by simpa using own),
        eraseP_eq_filter distinct.2]

/-- The recharge of an action that is bound anew has its threshold, and the charge that it had. -/
theorem find?_rebind_self {a : Action} {threshold : Threshold} (given : a.recharge = some threshold)
    (rs : List Recharge) : (rebind a rs).find? (fun r => r.action.text == a.id.text) =
      some ⟨a.id, threshold, ((rs.find? fun r => r.action.text == a.id.text).map (·.charged)).getD true⟩ := by
  simp only [rebind, given]
  induction rs with
  | nil => exact find?_own rfl
  | cons r rs ih =>
    unfold rebind.go
    by_cases own : r.action = a.id
    · have text : r.action.text = a.id.text := congrArg Label.text own
      rw [if_pos own, find?_own (r := { r with threshold := threshold }) text, find?_own text, own]
      rfl
    · have text : r.action.text ≠ a.id.text := fun same => own (Label.text_inj.1 same)
      rw [if_neg own, find?_other text, find?_other text, ih]

/-- Binding an action anew leaves the recharges of other actions as they are. -/
theorem filter_rebind (a : Action) (rs : List Recharge) :
    (rebind a rs).filter (fun r => r.action.text != a.id.text) = rs.filter fun r => r.action.text != a.id.text := by
  unfold rebind
  cases a.recharge with
  | none => rfl
  | some threshold =>
    dsimp only
    induction rs with
    | nil => simp [rebind.go]
    | cons r rs ih =>
      unfold rebind.go
      by_cases own : r.action = a.id
      · simp [own]
      · rw [if_neg own, List.filter_cons, List.filter_cons, ih]

theorem boundIds_rebind {a : Action} (given : a.recharge.isSome) (rs : List Recharge) : boundIds (rebind a rs) =
    if a.id.text ∈ boundIds rs then boundIds rs else boundIds rs ++ [a.id.text] := by
  obtain ⟨threshold, given⟩ := Option.isSome_iff_exists.1 given
  simp only [rebind, given]
  exact rebind_go_ids a threshold rs

/-! ## One edit -/

/-- **What adding an action does to a creature.**  The action stands in the place of the one with its id, or at the end,
and its recharge likewise; a recharge that is new is charged, one that was there keeps its charge. -/
structure Put (c : Creature) (a : Action) (c' : Creature) : Prop where
  ids : c'.ids = if a.id.text ∈ c.ids then c.ids else c.ids ++ [a.id.text]
  own : c'.action? a.id.text = some a
  others : ∀ y, y ≠ a.id.text → c'.action? y = c.action? y
  bound : ∀ threshold, a.recharge = some threshold →
    c'.recharge? a.id.text = some ⟨a.id, threshold, (c.charge? a.id.text).getD true⟩
  boundIds : a.recharge.isSome → boundIds c'.recharges =
    if a.id.text ∈ boundIds c.recharges then boundIds c.recharges else boundIds c.recharges ++ [a.id.text]
  unbound : a.recharge = none → c'.recharges = c.recharges
  apart : c'.recharges.filter (fun r => r.action.text != a.id.text) =
    c.recharges.filter fun r => r.action.text != a.id.text
  elsewhere : c' = { c with actions := c'.actions, recharges := c'.recharges }

/-- **What removing an action does to a creature**: nothing is left of its id, and everything else stays in order. -/
structure Taken (c : Creature) (id : String) (c' : Creature) : Prop where
  known : id ∈ c.ids
  ids : c'.ids = c.ids.erase id
  own : c'.action? id = none
  others : ∀ y, y ≠ id → c'.action? y = c.action? y
  recharges : c'.recharges = c.recharges.filter fun r => r.action.text != id
  elsewhere : c' = { c with actions := c'.actions, recharges := c'.recharges }

theorem put_addAction (a : Action) (c : Creature) (e : Encounter) : Put c a (c.addAction a e).1 := by
  have items : (c.addAction a e).1.actions = Register.putInto (fun b : Action => b.id.text) a c.actions :=
    upsert_eq_putInto a c.actions
  refine ⟨upsert_ids a c.actions, ?_, fun y other => ?_, fun threshold given => find?_rebind_self given c.recharges,
    fun given => boundIds_rebind given c.recharges, fun given => ?_, filter_rebind a c.recharges, rfl⟩
  · rw [action?, items]
    exact Register.find?_putInto_self a c.actions
  · rw [action?, items]
    exact @Register.find?_putInto_of_ne Action (fun b => b.id.text) a y other c.actions
  · simp only [addAction, rebind, given]

theorem action?_eq_none_iff {c : Creature} {id : String} : c.action? id = none ↔ id ∉ c.ids := by
  simp [action?, ids]

theorem taken_removeAction {c : Creature} (distinct : c.ids.Nodup) {id : String} (known : id ∈ c.ids) (e : Encounter) :
    ∃ a, c.action? id = some a ∧
      (c.removeAction id e).1 = true ∧ Taken c id (c.removeAction id e).2.1 ∧
      Emission.announcements (c.removeAction id e).2.2.journal =
        Emission.announcements e.journal ++ [.actionRemoved id a] := by
  cases found : c.action? id with
  | none => exact absurd known (action?_eq_none_iff.1 found)
  | some a =>
    refine ⟨a, rfl, ?_⟩
    simp only [removeAction, found, eraseP_eq_filter distinct]
    refine ⟨trivial, ⟨known, ?_, ?_, fun y other => ?_, rfl, rfl⟩, announcements_announce _ _ e⟩
    · exact (congrArg _ (eraseP_eq_filter distinct).symm).trans (eraseP_ids id c.actions)
    · exact Register.get?_erase_self id (c.catalogue distinct)
    · exact Register.get?_erase_of_ne other (c.catalogue distinct)

/-- **The ways an edit goes**: its answer, and the creature and the encounter after it.  An edit that is refused is a
fault of validation and changes nothing at all; one that removes an action nobody knows leaves a notice. -/
inductive Edited (c : Creature) (t : Turn) : Response → Creature → Encounter → Prop where
  | put {submission a c' f} (command : t.command = .addAction submission)
    (accepted : (accept submission t.supply).1 = .ok a) (put : Put c a c')
    (told : Emission.announcements f.journal = Emission.announcements t.encounter.journal ++ [.actionAdded a])
    (aside : Aside t.encounter f) : Edited c t (.added a) c' f
  | rejected {submission issues} (command : t.command = .addAction submission)
    (rejected : (accept submission t.supply).1 = .error issues)
    (fault : (Fault.invalidAction issues).kind = .validation) : Edited c t (.refused issues) c t.encounter
  | taken {id a c' f} (command : t.command = .removeAction id) (found : c.action? id = some a) (taken : Taken c id c')
    (told : Emission.announcements f.journal = Emission.announcements t.encounter.journal ++ [.actionRemoved id a])
    (aside : Aside t.encounter f) : Edited c t (.flag true) c' f
  | unknown {id} (command : t.command = .removeAction id) (missing : id ∉ c.ids) :
    Edited c t (.flag false) c (note (.actionUnknown c.name.text id) t.encounter)

theorem announcements_addAction (a : Action) (c : Creature) (e : Encounter) :
    Emission.announcements (c.addAction a e).2.journal = Emission.announcements e.journal ++ [.actionAdded a] := by
  refine (announcements_announce _ _ _).trans ?_
  split
  · rw [announcements_note]
  · rfl

theorem run_edited {c : Creature} (distinct : c.ids.Nodup) {t : Turn} (edit : t.command.isEdit) :
    Edited c t (c.run t.command t.encounter t.supply).1 (c.run t.command t.encounter t.supply).2.1
      (c.run t.command t.encounter t.supply).2.2.1 := by
  obtain ⟨command, e, s⟩ := t
  cases command with
  | addAction submission =>
    simp only [run]
    rcases accepted : accept submission s with ⟨issues | a, s'⟩
    · exact .rejected rfl (congrArg Prod.fst accepted) rfl
    · exact .put rfl (congrArg Prod.fst accepted) (put_addAction a c e) (announcements_addAction a c e)
        (aside_addAction a c e)
  | removeAction id =>
    simp only [run]
    by_cases known : id ∈ c.ids
    · obtain ⟨a, found, answer, taken, told⟩ := taken_removeAction distinct known e
      rw [answer]
      exact .taken rfl found taken told (aside_removeAction id c e)
    · simp only [removeAction, action?_eq_none_iff.2 known]
      exact .unknown rfl known
  | _ => cases edit

/-! ## Runs of edits -/

/-- An edit of the creature is the edit of its register. -/
theorem actions_edit {c : Creature} (distinct : c.ids.Nodup) {t : Turn} (edit : t.command.isEdit) :
    (c.after [t]).actions = ((c.catalogue distinct).edit t).items := by
  obtain ⟨command, e, s⟩ := t
  cases command with
  | addAction submission =>
    simp only [after, run, Actions.edit]
    rcases accept submission s with ⟨issues | a, s'⟩
    · rfl
    · exact upsert_eq_putInto a c.actions
  | removeAction id =>
    simp only [after, run, removeAction, Actions.edit]
    cases found : c.action? id with
    | some a => exact eraseP_eq_filter distinct
    | none =>
      have missing := action?_eq_none_iff.1 found
      refine (List.filter_eq_self.2 fun b hb => ?_).symm
      simpa using fun same : b.id.text = id => missing (List.mem_map.2 ⟨b, hb, same⟩)
  | _ => cases edit

theorem actions_after_edits : ∀ (ts : List Turn) (c : Creature) (distinct : c.ids.Nodup),
    (∀ t ∈ ts, t.command.isEdit) → (c.after ts).actions = (ts.foldl Actions.edit (c.catalogue distinct)).items
  | [], _, _, _ => rfl
  | t :: ts, c, distinct, edits => by
    have first := actions_edit distinct (edits t List.mem_cons_self)
    have still : (c.after [t]).ids.Nodup := by
      unfold ids
      rw [first]
      exact ((c.catalogue distinct).edit t).once
    have same : (c.after [t]).catalogue still = (c.catalogue distinct).edit t := by
      unfold catalogue
      congr
    rw [List.foldl_cons, ← same]
    exact actions_after_edits ts (c.after [t]) still fun u hu => edits u (List.mem_cons_of_mem t hu)

/-- A herald who calls and whispers. -/
def herald : Creature :=
  Table.commoner ⟨"herald", by decide⟩ [hollowCall, { hollowCall with id := ⟨"whisper", by decide⟩ }]

/-- The herald learns to shout, is handed what is no action, and forgets its call. -/
def heraldEdits : List Turn :=
  let shout : Json := .obj
    [("id", .str "shout"), ("name", .str "Shout"), ("type", .str "recharge"), ("recharge", .int 4)]
  [dragonTurn (.addAction (.document shout)), dragonTurn (.addAction (.document .null)),
    dragonTurn (.removeAction "call")]

end Creature
end Bestiary
