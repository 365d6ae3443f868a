import Mathlib.Data.List.Nodup
import Mathlib.Data.List.TakeWhile
import Bestiary.Audience
/-!
# Standing — which registrations are called

A remover takes back the first registration of its listener, which need not be the one that it was handed out for.  The
roll keeps the registrations apart: it has a ticket for each remover, with its registration and whether the remover was
called.  As long as no call takes back another registration than its own (`Move.Fair`), those who are called are those
whose ticket stands, once each and in order, whoever fails (`notify_standing`).  That is always so if no listener
registers twice (`at?_eq_standingAt_of_nodup`), but not in general (`removers_not_independent`).
-/
namespace Bestiary
namespace Audience

/-! ## Moves -/

/-- What called listeners do, one after the other, the first of them after so many others. -/
def reactions (conduct : Conduct) : Nat → List Listener → Audience → List Reaction
  | _, [], _ => []
  | n, l :: ls, a => conduct n l a :: reactions conduct (n + 1) ls (moved (conduct n l a).moves a)

/-- The moves of called listeners. -/
def answers (conduct : Conduct) (n : Nat) (ls : List Listener) (a : Audience) : List Move :=
  (reactions conduct n ls a).flatMap (·.moves)

/-- What is asked of an audience. Each event comes with what the listeners do that it is told to. -/
inductive Turn where
  | move (m : Move)
  | notify (conduct : Conduct) (stage : Nat) (event : String) (data : Json)

def play : List Turn → Audience → Audience
  | [], a => a
  | .move m :: ts, a => play ts (m.on a)
  | .notify conduct stage event data :: ts, a => play ts (a.notify conduct stage event data).1

/-- All moves of a run, those of called listeners among them. -/
def script : List Turn → Audience → List Move
  | [], _ => []
  | .move m :: ts, a => m :: script ts (m.on a)
  | .notify conduct stage _ _ :: ts, a =>
    answers conduct 0 (a.at? stage) a ++ script ts (moved (answers conduct 0 (a.at? stage) a) a)

theorem moved_append (ms ns : List Move) (a : Audience) : moved (ms ++ ns) a = moved ns (moved ms a) :=
  List.foldl_append

theorem removers_take (r : Option Registration) (a : Audience) : (a.take r).removers = a.removers := by
  cases r <;> rfl

theorem length_reactions (conduct : Conduct) : ∀ (n : Nat) (ls : List Listener) (a : Audience),
    (reactions conduct n ls a).length = ls.length
  | _, [], _ => rfl
  | n, _ :: ls, _ => congrArg Nat.succ (length_reactions conduct (n + 1) ls _)

section Called

variable (conduct : Conduct) (event : String) (data : Json)

theorem callEach_moves : ∀ (n : Nat) (ls : List Listener) (a : Audience),
    (callEach conduct event data n ls a).1 = moved (answers conduct n ls a) a
  | _, [], _ => rfl
  | n, l :: ls, a => by
    rw [callEach, answers, reactions, List.flatMap_cons, moved_append]
    exact callEach_moves (n + 1) ls _

/-- **Everyone is called once and in order**, whatever those called before do. -/
theorem callEach_calls : ∀ (n : Nat) (ls : List Listener) (a : Audience),
    (callEach conduct event data n ls a).2.1 = ls.map fun l => ⟨l.number, event, data⟩
  | _, [], _ => rfl
  | n, l :: ls, a => by
    rw [callEach, List.map_cons]
    exact congrArg _ (callEach_calls (n + 1) ls _)

/-- **Those that fail are reported, and only those.** -/
theorem callEach_notices : ∀ (n : Nat) (ls : List Listener) (a : Audience),
    (callEach conduct event data n ls a).2.2 = (reactions conduct n ls a).flatMap (·.notices event)
  | _, [], _ => rfl
  | n, l :: ls, a => by
    rw [callEach, reactions, List.flatMap_cons]
    exact congrArg _ (callEach_notices (n + 1) ls _)

end Called

theorem play_moves : ∀ (ts : List Turn) (a : Audience), play ts a = moved (script ts a) a
  | [], _ => rfl
  | .move m :: ts, a => play_moves ts (m.on a)
  | .notify conduct stage event data :: ts, a => by
    have called : (a.notify conduct stage event data).1 = moved (answers conduct 0 (a.at? stage) a) a :=
      callEach_moves conduct event data 0 _ a
    rw [play, script, moved_append, called]
    exact play_moves ts _

/-! ## The roll -/

/-- A remover that was handed out: what for, and whether it was called. -/
structure Ticket where
  holder : Option Registration
  called : Bool
  deriving DecidableEq, Repr

/-- What is registered by a ticket whose remover was not called. -/
def Ticket.standing (t : Ticket) : Option Registration := if t.called then none else t.holder

theorem Ticket.holder_of_standing {t : Ticket} {r : Registration} (stands : r ∈ t.standing) : r ∈ t.holder := by
  unfold Ticket.standing at stands
  split at stands
  · cases stands
  · exact stands

/-- The roll after a move. -/
def Move.enter (roll : List Ticket) : Move → List Ticket
  | register r => roll ++ [⟨some r, false⟩]
  | refuse => roll ++ [⟨none, false⟩]
  | remove n => roll.modify n fun t => { t with called := true }

def entered (ms : List Move) (roll : List Ticket) : List Ticket := ms.foldl Move.enter roll

/-- **The registrations whose own remover was not called**, in their order. -/
def standing (roll : List Ticket) : List Registration := roll.filterMap Ticket.standing

/-- **A call that takes back what it is for**, as far as registrations of a kind are asked about.  Of those that stand
before its own, the ones from the first of its listener on are of its listener, too; and if it is not the first call, no
registration of its listener stands. -/
def Move.Fair (P : Registration → Bool) (roll : List Ticket) : Move → Prop
  | remove n => ∀ t ∈ roll[n]?, ∀ r ∈ t.holder, P r = true →
      (∀ q ∈ ((Audience.standing (roll.take n)).filter P).dropWhile (· ≠ r), q = r) ∧
        (t.called = true → r ∉ Audience.standing roll)
  | _ => True

def Fair (P : Registration → Bool) : List Move → List Ticket → Prop
  | [], _ => True
  | m :: ms, roll => m.Fair P roll ∧ Fair P ms (m.enter roll)

instance (P : Registration → Bool) (roll : List Ticket) : ∀ m : Move, Decidable (m.Fair P roll)
  | .register _ | .refuse => isTrue trivial
  | .remove n => inferInstanceAs (Decidable (∀ t ∈ roll[n]?, ∀ r ∈ t.holder, P r = true →
      (∀ q ∈ ((Audience.standing (roll.take n)).filter P).dropWhile (· ≠ r), q = r) ∧
        (t.called = true → r ∉ Audience.standing roll)))

instance decidableFair (P : Registration → Bool) : ∀ (ms : List Move) (roll : List Ticket),
    Decidable (Fair P ms roll)
  | [], _ => isTrue trivial
  | m :: ms, roll =>
    have := decidableFair P ms (m.enter roll)
    inferInstanceAs (Decidable (m.Fair P roll ∧ Fair P ms (m.enter roll)))

theorem standing_append (xs ys : List Ticket) : standing (xs ++ ys) = standing xs ++ standing ys :=
  List.filterMap_append

theorem standing_cons (t : Ticket) (ts : List Ticket) : standing (t :: ts) = t.standing.toList ++ standing ts := by
  unfold standing
  cases stands : t.standing <;> simp [stands]

theorem append_cons_eq_cons_append {r : Registration} {ys : List Registration} : ∀ xs : List Registration,
    xs ++ r :: ys = r :: (xs ++ ys) ↔ ∀ q ∈ xs, q = r
  | [] => by simp
  | x :: xs => by
    rw [List.cons_append, List.cons_append, List.cons.injEq, List.forall_mem_cons]
    refine and_congr_right fun own => ?_
    subst own
    exact append_cons_eq_cons_append xs

/-- Taking the first of its kind is taking one further on exactly if there is none of another kind in between. -/
theorem erase_eq_append_iff {r : Registration} {ys : List Registration} : ∀ xs : List Registration,
    (xs ++ r :: ys).erase r = xs ++ ys ↔ ∀ q ∈ xs.dropWhile (· ≠ r), q = r
  | [] => by simp
  | x :: xs => by
    by_cases own : x = r
    · subst own
      rw [List.dropWhile_cons_of_neg (by simp), List.cons_append, List.erase_cons_head, List.cons_append,
        append_cons_eq_cons_append, List.forall_mem_cons]
      exact (and_iff_right rfl).symm
    · rw [List.dropWhile_cons_of_pos (by simpa using own), List.cons_append,
        List.erase_cons_tail (by simpa using own), List.cons_append, List.cons_inj_right]
      exact erase_eq_append_iff xs

theorem dropWhile_of_not_mem {r : Registration} {xs : List Registration} (none : r ∉ xs) :
    xs.dropWhile (· ≠ r) = [] := by
  rw [List.dropWhile_eq_nil_iff]
  intro q hq
  exact decide_eq_true fun own => none (own ▸ hq)

section Places

variable {roll : List Ticket} {n : Nat} {t : Ticket}

theorem split_at (found : roll[n]? = some t) : roll = roll.take n ++ t :: roll.drop (n + 1) := by
  obtain ⟨bound, rfl⟩ := List.getElem?_eq_some_iff.1 found
  rw [List.getElem_cons_drop, List.take_append_drop]

theorem modify_at (found : roll[n]? = some t) (f : Ticket → Ticket) :
    roll.modify n f = roll.take n ++ f t :: roll.drop (n + 1) := by
  obtain ⟨bound, rfl⟩ := List.getElem?_eq_some_iff.1 found
  exact List.modify_eq_take_cons_drop bound

theorem standing_at (found : roll[n]? = some t) :
    standing roll = standing (roll.take n) ++ (t.standing.toList ++ standing (roll.drop (n + 1))) := by
  conv => lhs; rw [split_at found]
  rw [standing_append, standing_cons]

theorem standing_enter_remove (found : roll[n]? = some t) :
    standing ((Move.remove n).enter roll) = standing (roll.take n) ++ standing (roll.drop (n + 1)) := by
  rw [Move.enter, modify_at found, standing_append, standing_cons]
  rfl

theorem fair_iff {P : Registration → Bool} {r : Registration} (found : roll[n]? = some t) (holds : t.holder = some r)
    (asked : P r = true) : (Move.remove n).Fair P roll ↔
      (∀ q ∈ ((standing (roll.take n)).filter P).dropWhile (· ≠ r), q = r) ∧ (t.called = true → r ∉ standing roll) := by
  constructor
  · intro fair
    exact fair t found r holds asked
  · rintro takes t' found' r' holds' -
    cases found.symm.trans found'
    cases holds.symm.trans holds'
    exact takes

theorem fair_of_unasked {P : Registration → Bool} (unasked : ∀ t ∈ roll[n]?, ∀ r ∈ t.holder, P r = false) :
    (Move.remove n).Fair P roll := by
  intro t found r holds asked
  rw [unasked t found r holds] at asked
  cases asked

/-- **A call is fair exactly if the first registration of its listener might as well be its own.** -/
theorem erase_standing_iff {P : Registration → Bool} {r : Registration} (found : roll[n]? = some t)
    (holds : t.holder = some r) (asked : P r = true) :
    ((standing roll).filter P).erase r = (standing ((Move.remove n).enter roll)).filter P ↔
      (Move.remove n).Fair P roll := by
  have stands := standing_at found
  rw [fair_iff found holds asked, standing_enter_remove found, List.filter_append]
  cases called : t.called with
  | false =>
    have own : t.standing.toList = [r] := by simp [Ticket.standing, called, holds]
    rw [stands, own, List.filter_append, List.singleton_append, List.filter_cons_of_pos asked, erase_eq_append_iff]
    exact (and_iff_left nofun).symm
  | true =>
    have own : t.standing.toList = [] := by simp [Ticket.standing, called]
    rw [own, List.nil_append] at stands
    rw [← List.filter_append, ← stands, List.erase_eq_self_iff, List.mem_filter, and_iff_left asked]
    refine ⟨fun gone => ⟨fun q hq => ?_, fun _ => gone⟩, fun fair => fair.2 rfl⟩
    have before : r ∉ (standing (roll.take n)).filter P := fun early => gone (by
      rw [stands]
      exact List.mem_append_left _ (List.mem_filter.1 early).1)
    rw [dropWhile_of_not_mem before] at hq
    cases hq

theorem filter_standing_enter {P : Registration → Bool} (found : roll[n]? = some t)
    (other : ∀ r ∈ t.holder, P r = false) :
    (standing ((Move.remove n).enter roll)).filter P = (standing roll).filter P := by
  have own : t.standing.toList.filter P = [] := by
    rw [List.filter_eq_nil_iff]
    intro r hr
    simp [other r (Ticket.holder_of_standing (Option.mem_toList.1 hr))]
  rw [standing_enter_remove found, standing_at found, List.filter_append, List.filter_append, List.filter_append, own,
    List.nil_append]

end Places

/-! ## Runs -/

/-- The removers are those of the roll, and the registrations that are asked about those that stand on it. -/
structure Kept (P : Registration → Bool) (a : Audience) (roll : List Ticket) : Prop where
  removers : a.removers = roll.map Ticket.holder
  registrations : a.registrations.filter P = (standing roll).filter P

namespace Kept

variable {P : Registration → Bool} {a : Audience} {roll : List Ticket}

theorem empty : Kept P .empty [] := ⟨rfl, rfl⟩

theorem register (h : Kept P a roll) (r : Registration) :
    Kept P (a.register r) ((Move.register r).enter roll) where
  removers := by simp [Audience.register, Move.enter, h.removers]
  registrations := by
    rw [Audience.register, Move.enter, standing_append, List.filter_append, List.filter_append, h.registrations]
    rfl

theorem refuse (h : Kept P a roll) : Kept P a.refuse (Move.refuse.enter roll) where
  removers := by simp [Audience.refuse, Move.enter, h.removers]
  registrations := by
    rw [Move.enter, standing_append, List.filter_append, ← h.registrations]
    exact (List.append_nil _).symm

/-- **A call of a remover is kept exactly if it is fair.** -/
theorem remove_iff (h : Kept P a roll) (n : Nat) :
    Kept P (a.remove n) ((Move.remove n).enter roll) ↔ (Move.remove n).Fair P roll := by
  have removers : (a.remove n).removers = ((Move.remove n).enter roll).map Ticket.holder := by
    rw [Audience.remove, removers_take, h.removers, Move.enter]
    refine List.ext_getElem? fun m => ?_
    rw [List.getElem?_map, List.getElem?_map, List.getElem?_modify]
    split <;> cases roll[m]? <;> rfl
  have agree : Kept P (a.remove n) ((Move.remove n).enter roll) ↔
      (a.remove n).registrations.filter P = (standing ((Move.remove n).enter roll)).filter P :=
    ⟨Kept.registrations, Kept.mk removers⟩
  rw [agree]
  cases found : roll[n]? with
  | none =>
    have outside : roll.length ≤ n := List.getElem?_eq_none_iff.1 found
    have nothing : a.remove n = a := by
      rw [Audience.remove, h.removers, List.getElem?_map, found]
      rfl
    rw [nothing, Move.enter, List.modify_eq_self outside]
    exact iff_of_true h.registrations (fair_of_unasked (by simp [found]))
  | some t =>
    have takes : a.remove n = a.take t.holder := by
      rw [Audience.remove, h.removers, List.getElem?_map, found]
      rfl
    rw [takes]
    cases holds : t.holder with
    | none =>
      rw [filter_standing_enter found (by simp [holds])]
      exact iff_of_true h.registrations (fair_of_unasked (by simp [found, holds]))
    | some r =>
      rw [take, ← List.erase_filter, h.registrations]
      cases asked : P r with
      | true => exact erase_standing_iff found holds asked
      | false =>
        rw [filter_standing_enter found (by simp [holds, asked]), List.erase_of_not_mem (by simp [asked])]
        exact iff_of_true rfl (fair_of_unasked (by simp [found, holds, asked]))

theorem move (h : Kept P a roll) : ∀ {m : Move}, m.Fair P roll → Kept P (m.on a) (m.enter roll)
  | .register r, _ => h.register r
  | .refuse, _ => h.refuse
  | .remove n, fair => (h.remove_iff n).2 fair

theorem moved : ∀ (ms : List Move) {a : Audience} {roll : List Ticket}, Kept P a roll → Fair P ms roll →
    Kept P (moved ms a) (entered ms roll)
  | [], _, _, h, _ => h
  | _ :: ms, _, _, h, fair => Kept.moved ms (h.move fair.1) fair.2

end Kept

theorem play_kept {P : Registration → Bool} (ts : List Turn) (fair : Fair P (script ts .empty) []) :
    Kept P (play ts .empty) (entered (script ts .empty) []) := by
  rw [play_moves]
  exact Kept.empty.moved _ fair

/-- The listeners at a stage whose own remover was not called, in the order of their registrations. -/
def standingAt (stage : Nat) (ts : List Turn) : List Listener :=
  ((standing (entered (script ts .empty) [])).filter fun r => r.stage = stage).map (·.listener)

/-- **Exactly those registrations are called whose own remover was not, once each and in order, whoever fails and
whatever those that are called do**, after every run in which no remover of the stage took back another registration than
its own, the removers that listeners called among them.  Each called listener reacts once, and what is reported are the
failures among the reactions. -/
theorem notify_standing (conduct : Conduct) (stage : Nat) (ts : List Turn)
    (fair : Fair (fun r => r.stage = stage) (script ts .empty) []) (event : String) (data : Json) :
    (play ts .empty).at? stage = standingAt stage ts ∧
    ((play ts .empty).notify conduct stage event data).2.1 =
      (standingAt stage ts).map (fun l => ⟨l.number, event, data⟩) ∧
    (reactions conduct 0 (standingAt stage ts) (play ts .empty)).length = (standingAt stage ts).length ∧
    ((play ts .empty).notify conduct stage event data).2.2 =
      (reactions conduct 0 (standingAt stage ts) (play ts .empty)).flatMap (·.notices event) := by
  have here : (play ts .empty).at? stage = standingAt stage ts :=
    congrArg (List.map Registration.listener) (play_kept ts fair).registrations
  refine ⟨here, ?_, length_reactions conduct 0 _ _, ?_⟩
  · rw [notify, callEach_calls, here]
  · rw [notify, callEach_notices, here]

/-- One listener, registered twice, and a second one. -/
def doubled : List Turn :=
  let r : Registration := ⟨0, ⟨0⟩⟩
  [.move (.register r), .move (.register ⟨0, ⟨1⟩⟩), .move (.register r)]

/-- The second listener fails, and the others do nothing. -/
def secondFails : Conduct := fun _ l _ => ⟨[], if l.number = 1 then some "listener 1 failed" else none⟩

theorem notify_standing_doubled :
    standingAt 0 (doubled ++ [.move (.remove 0)]) = [⟨1⟩, ⟨0⟩] ∧
    ((play (doubled ++ [.move (.remove 0)]) .empty).notify secondFails 0 "action_used" .null).2.1 =
      [⟨1, "action_used", .null⟩, ⟨0, "action_used", .null⟩] :=
  ⟨by decide, (notify_standing secondFails 0 (doubled ++ [.move (.remove 0)]) (by decide) "action_used" .null).2.1⟩

/-- The remover of the first registration, called once more, takes back the other one of its listener; and the remover
of the other one takes back the first. -/
theorem removers_not_independent :
    (standingAt 0 (doubled ++ [.move (.remove 0), .move (.remove 0)]) = [⟨1⟩, ⟨0⟩] ∧
      ((play (doubled ++ [.move (.remove 0), .move (.remove 0)]) .empty).notify secondFails 0 "action_used" .null).2.1 =
        [⟨1, "action_used", .null⟩]) ∧
    standingAt 0 (doubled ++ [.move (.remove 2)]) = [⟨0⟩, ⟨1⟩] ∧
      ((play (doubled ++ [.move (.remove 2)]) .empty).notify secondFails 0 "action_used" .null).2.1 =
        [⟨1, "action_used", .null⟩, ⟨0, "action_used", .null⟩] :=
  ⟨⟨by decide, rfl⟩, by decide, rfl⟩

/-! ## Distinct listeners -/

def registered (ms : List Move) : List Registration :=
  ms.filterMap fun
    | .register r => some r
    | _ => none

theorem mem_holders_of_mem_standing {roll : List Ticket} {r : Registration} (stands : r ∈ standing roll) :
    r ∈ roll.filterMap Ticket.holder := by
  obtain ⟨t, ht, hr⟩ := List.mem_filterMap.1 stands
  exact List.mem_filterMap.2 ⟨t, ht, Ticket.holder_of_standing hr⟩

theorem fair_remove_of_nodup {P : Registration → Bool} {roll : List Ticket}
    (distinct : ((roll.filterMap Ticket.holder).filter P).Nodup) (n : Nat) : (Move.remove n).Fair P roll := by
  intro t found r holds asked
  rw [split_at found, List.filterMap_append, List.filterMap_cons, holds, List.filter_append, List.filter_cons,
    if_pos asked] at distinct
  have apart := List.nodup_middle.1 distinct
  have elsewhere := (List.nodup_cons.1 apart).1
  rw [List.mem_append, not_or] at elsewhere
  have before : r ∉ standing (roll.take n) := fun stands =>
    elsewhere.1 (List.mem_filter.2 ⟨mem_holders_of_mem_standing stands, asked⟩)
  have after : r ∉ standing (roll.drop (n + 1)) := fun stands =>
    elsewhere.2 (List.mem_filter.2 ⟨mem_holders_of_mem_standing stands, asked⟩)
  refine ⟨fun q hq => ?_, fun called => ?_⟩
  · rw [dropWhile_of_not_mem fun early => before (List.mem_filter.1 early).1] at hq
    cases hq
  · rw [standing_at found]
    simp [Ticket.standing, called, before, after]

theorem fair_of_nodup {P : Registration → Bool} : ∀ (ms : List Move) (roll : List Ticket),
    ((roll.filterMap Ticket.holder ++ registered ms).filter P).Nodup → Fair P ms roll
  | [], _, _ => trivial
  | .register r :: ms, roll, distinct => by
    refine ⟨trivial, fair_of_nodup ms _ ?_⟩
    rw [Move.enter, List.filterMap_append, List.append_assoc]
    exact distinct
  | .refuse :: ms, roll, distinct => by
    refine ⟨trivial, fair_of_nodup ms _ ?_⟩
    rw [Move.enter, List.filterMap_append, List.append_assoc]
    exact distinct
  | .remove n :: ms, roll, distinct => by
    refine ⟨fair_remove_of_nodup ?_ n, fair_of_nodup ms _ ?_⟩
    · rw [List.filter_append] at distinct
      exact List.Nodup.of_append_left distinct
    · have holders : ((Move.remove n).enter roll).filterMap Ticket.holder = roll.filterMap Ticket.holder := by
        cases found : roll[n]? with
        | none => rw [Move.enter, List.modify_eq_self (List.getElem?_eq_none_iff.1 found)]
        | some t =>
          rw [Move.enter, modify_at found]
          conv => rhs; rw [split_at found]
          rw [List.filterMap_append, List.filterMap_append, List.filterMap_cons, List.filterMap_cons]
      rw [holders]
      exact distinct

/-- **Where no listener registers twice, removers do what they are for**, however often they are called. -/
theorem at?_eq_standingAt_of_nodup (stage : Nat) (ts : List Turn)
    (distinct : ((registered (script ts .empty)).filter fun r => r.stage = stage).Nodup) :
    (play ts .empty).at? stage = standingAt stage ts :=
  congrArg (List.map Registration.listener)
    (play_kept ts (fair_of_nodup (P := fun r => r.stage = stage) (script ts .empty) [] distinct)).registrations

end Audience
end Bestiary
