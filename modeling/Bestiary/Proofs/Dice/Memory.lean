import Bestiary.Proofs.Dice.Spaces
import Bestiary.Proofs.Encounter.Backdrop
/-!
# Memory — which rolls depend on the rolls before them

A notation that was rolled is remembered without its spaces, and a text that is remembered so is read as that notation.
A notation is the same without its spaces, so this changes nothing for a text that is a notation, nor for one that is
none without its spaces either (`Steady`).  Any other text is refused until somebody rolls it without the spaces, and
accepted from then on (`Cup.unswayed_iff_steady`).
-/
namespace Bestiary.Dice

def Notation.Legible (text : String) : Prop := ∃ n, Notation.parse text = .ok n

instance (text : String) : Decidable (Notation.Legible text) :=
  match h : Notation.parse text with
  | .ok n => isTrue ⟨n, h⟩
  | .error _ => isFalse fun ⟨_, same⟩ => by
    rw [h] at same
    cases same

/-- The text is a notation if it is one without its spaces. -/
def Steady (text : String) : Prop := Notation.Legible (Cup.withoutSpaces text) → Notation.Legible text

instance (text : String) : Decidable (Steady text) := inferInstanceAs (Decidable (_ → _))

theorem not_blank_of_start {c : Char} (start : Reader.isStart c = true) : Text.isBlank c = false := by
  have between : 40 ≤ c.toNat ∧ c.toNat ≤ 100 := by
    rcases Bool.or_eq_true_iff.1 start with digit | sign
    · simp only [Text.isAsciiDigit, Bool.and_eq_true, decide_eq_true_eq, Char.le_def, UInt32.le_iff_toNat_le] at digit
      exact ⟨Nat.le_trans (by decide) digit.1, Nat.le_trans digit.2 (by decide)⟩
    · simp only [List.contains_cons, List.contains_nil, Bool.or_eq_true, beq_iff_eq, Bool.false_eq_true, or_false] at sign
      rcases sign with rfl | rfl | rfl | rfl | rfl <;> decide
  have outside : ∀ range ∈ Text.spaceRanges ++ [(28, 31)], range.2 < 40 ∨ 100 < range.1 := by decide
  rw [← Bool.not_eq_true]
  intro blank
  have listed : ∃ range ∈ Text.spaceRanges ++ [(28, 31)], range.1 ≤ c.toNat ∧ c.toNat ≤ range.2 := by
    rw [← Text.inRanges_eq_true_iff, Text.inRanges, List.any_append]
    exact blank
  obtain ⟨range, mem, low, high⟩ := listed
  rcases outside range mem with below | above <;> omega

/-- A notation is not blank, nor is a text that is one without its spaces. -/
theorem not_blank {text : String} (legible : Notation.Legible (Cup.withoutSpaces text)) :
    Text.isBlankText text = false := by
  obtain ⟨n, written⟩ := legible
  unfold Notation.parse at written
  split at written
  · rename_i read
    obtain ⟨c, first, start⟩ := Reader.begins_nested _ _ _ _ read
    rw [Cup.withoutSpaces_toList] at first
    have mem : c ∈ text.toList := (List.mem_filter.1 (List.mem_of_mem_head? first)).1
    rw [← Bool.not_eq_true]
    intro blank
    have contra := List.all_eq_true.1 blank c mem
    rw [not_blank_of_start start] at contra
    cases contra
  · cases written
  · cases written

theorem withoutSpaces_of_solid {text : String} (solid : ' ' ∉ text.toList) : Cup.withoutSpaces text = text := by
  rw [← String.toList_inj, Cup.withoutSpaces_toList, Reader.tight_of_solid solid]

theorem withoutSpaces_withoutSpaces (text : String) :
    Cup.withoutSpaces (Cup.withoutSpaces text) = Cup.withoutSpaces text := by
  refine withoutSpaces_of_solid ?_
  rw [Cup.withoutSpaces_toList]
  exact fun mem => absurd (List.mem_filter.1 mem).2 (by decide)

theorem steady_of_solid {text : String} (solid : ' ' ∉ text.toList) : Steady text := by
  intro legible
  rwa [withoutSpaces_of_solid solid] at legible

theorem solid_of_looksWhole {text : String} (looks : Cup.looksWhole text = true) : ' ' ∉ text.toList := by
  unfold Cup.looksWhole at looks
  rw [Bool.and_eq_true, List.all_eq_true] at looks
  rw [← List.takeWhile_append_dropWhile (p := fun c => decide (c = '+') || decide (c = '-')) (l := text.toList),
    List.mem_append]
  rintro (sign | digit)
  · exact absurd (List.mem_takeWhile_imp sign) (by decide)
  · exact absurd (looks.2 _ digit) (by decide)

namespace Cup

/-! ## What a cup remembers -/

def forget (cup : Cup) : Cup := { cup with known := [] }

/-- Only notations are remembered. -/
def Sound (cup : Cup) : Prop := ∀ key ∈ cup.known, Notation.Legible key

variable {text : String} {cup : Cup} {n : Notation}

/-- A steady text is read as it stands, whatever is remembered. -/
theorem read_steady (steady : Steady text) (sound : cup.Sound) : cup.read text = Notation.parse text := by
  unfold read
  dsimp only
  split
  · rename_i remembered
    obtain ⟨n, written⟩ := steady (sound _ (List.contains_iff_mem.1 remembered))
    rw [written, Notation.parse_withoutSpaces written]
  · rfl

theorem sound_learn (sound : cup.Sound) (read : cup.read text = .ok n) : (cup.learn text).Sound := by
  unfold Cup.read at read
  unfold learn
  dsimp only at read ⊢
  split
  · exact sound
  · rename_i unknown
    rw [if_neg unknown] at read
    intro key mem
    rcases List.mem_append.1 mem with old | new
    · exact sound key old
    · rw [List.mem_singleton.1 new]
      exact ⟨n, Notation.parse_withoutSpaces read⟩

theorem forget_learn (cup : Cup) (text : String) : (cup.learn text).forget = cup.forget := by
  unfold learn
  dsimp only
  split <;> rfl

/-! ## Rolls -/

/-- What throwing a notation comes to, and how many faces have come up then. -/
def outcome (text : String) (n : Notation) (faces : List Int) (shown : Nat) : Except Refusal Roll × Nat :=
  let (thrown, hand) := n.thrown.run ⟨faces, shown, 0⟩
  match thrown with
  | .error fault => (.error (.ofThrow text fault), hand.shown)
  | .ok r => (settle text r, hand.shown)

theorem roll_blank (blank : Text.isBlankText text = true) (cup : Cup) :
    (roll text).run cup = (.error (.blank text), cup) := by
  simp only [roll, Act.run, blank, if_true]

theorem roll_unread (filled : Text.isBlankText text = false) {fault : Reader.Fault}
    (unread : cup.read text = .error fault) : (roll text).run cup = (.error (.ofReader text fault), cup) := by
  simp only [roll, Act.run, filled, unread, Bool.false_eq_true, if_false]

theorem roll_read (filled : Text.isBlankText text = false) (read : cup.read text = .ok n) :
    (roll text).run cup = ((outcome text n cup.faces cup.shown).1,
      { cup.learn text with shown := (outcome text n cup.faces cup.shown).2 }) := by
  simp only [roll, outcome, Act.run, filled, read, Bool.false_eq_true, if_false]
  rcases n.thrown ⟨cup.faces, cup.shown, 0⟩ with ⟨fault | r, hand⟩ <;> rfl

/-- A notation that was read is not refused as one that was not. -/
theorem outcome_ne (text : String) (n : Notation) (faces : List Int) (shown : Nat) (fault : Reader.Fault) :
    (outcome text n faces shown).1 ≠ .error (.ofReader text fault) := by
  unfold outcome
  rcases n.thrown.run ⟨faces, shown, 0⟩ with ⟨thrown | r, hand⟩
  · cases fault <;> cases thrown with
    | flaw flaw => cases flaw <;> nofun
    | _ => nofun
  · dsimp only
    unfold settle
    split
    · cases fault <;> nofun
    · split
      · cases fault <;> nofun
      · nofun

/-- What an act answers, and the cup after it but for what it remembers. -/
def told {ε α : Type} (act : Act Cup ε α) (cup : Cup) : Except ε α × Cup := ((act.run cup).1, (act.run cup).2.forget)

/-- A roll depends on what is remembered only in how its text is read. -/
theorem told_roll {cup₁ cup₂ : Cup} (same : cup₁.forget = cup₂.forget) (read : cup₁.read text = cup₂.read text) :
    told (roll text) cup₁ = told (roll text) cup₂ := by
  have faces : cup₁.faces = cup₂.faces := show cup₁.forget.faces = cup₂.forget.faces by rw [same]
  have shown : cup₁.shown = cup₂.shown := show cup₁.forget.shown = cup₂.forget.shown by rw [same]
  unfold told
  cases blank : Text.isBlankText text with
  | true => rw [roll_blank blank, roll_blank blank, same]
  | false =>
    cases second : cup₂.read text with
    | error fault => rw [roll_unread blank second, roll_unread blank (read.trans second), same]
    | ok n =>
      rw [roll_read blank second, roll_read blank (read.trans second), faces, shown]
      refine Prod.ext rfl ?_
      exact congrArg (fun cup : Cup => { cup with shown := (outcome text n cup₂.faces cup₂.shown).2 })
        ((forget_learn cup₁ text).trans (same.trans (forget_learn cup₂ text).symm))

theorem sound_roll (sound : cup.Sound) (text : String) : ((roll text).run cup).2.Sound := by
  cases blank : Text.isBlankText text with
  | true =>
    rw [roll_blank blank]
    exact sound
  | false =>
    cases read : cup.read text with
    | error fault =>
      rw [roll_unread blank read]
      exact sound
    | ok n =>
      rw [roll_read blank read]
      exact sound_learn sound read

/-! ## Amounts -/

def Reckoning.ofRoll (text : String) : Except Refusal Roll → Except Cause Reckoning
  | .ok roll => .ok (.rolled roll)
  | .error (.broken cause) => .error cause
  | .error refusal => .ok (.refused text refusal)

theorem Reckoning.ofRoll_injective (text : String) : Function.Injective (Reckoning.ofRoll text) := by
  intro a b same
  rcases a with (_ | _ | _) | _ <;> rcases b with (_ | _ | _) | _ <;> cases same <;> rfl

theorem reckon_plain (looks : looksWhole (Text.trim text) = true) (cup : Cup) :
    (reckon text).run cup = (Reckoning.plain <$> wholeOf (Text.trim text), cup) := by
  simp only [reckon, Act.run, looks, if_true]

theorem reckon_roll (looks : looksWhole (Text.trim text) = false) (cup : Cup) :
    (reckon text).run cup = (Reckoning.ofRoll text ((roll (Text.trim text)).run cup).1,
      ((roll (Text.trim text)).run cup).2) := by
  simp only [reckon, Act.run, looks, Bool.false_eq_true, if_false]
  rcases roll (Text.trim text) cup with ⟨(_ | _ | _) | _, _⟩ <;> rfl

/-! ## What was rolled before -/

inductive Request where
  | roll (text : String)
  | reckon (text : String)
  | die (sides : Int)
  deriving DecidableEq, Repr

def serve (cup : Cup) : Request → Cup
  | .roll text => ((roll text).run cup).2
  | .reckon text => ((reckon text).run cup).2
  | .die sides => ((rollDie sides).run cup).2

/-- What somebody asked for, with the faces they had and how many of them had come up. -/
structure Past where
  faces : List Int
  shown : Nat
  request : Request
  deriving DecidableEq, Repr

/-- What is remembered after requests, by whomever. -/
def recalled (history : List Past) : List String :=
  history.foldl (fun known past => (serve ⟨past.faces, past.shown, known⟩ past.request).known) []

/-- The cup when this was asked for before. -/
def recalling (cup : Cup) (history : List Past) : Cup := { cup with known := recalled history }

theorem sound_serve (sound : cup.Sound) (request : Request) : (cup.serve request).Sound := by
  cases request with
  | roll text => exact sound_roll sound text
  | die sides => exact sound_roll sound _
  | reckon text =>
    show ((reckon text).run cup).2.Sound
    cases looks : looksWhole (Text.trim text) with
    | true =>
      rw [reckon_plain looks]
      exact sound
    | false =>
      rw [reckon_roll looks]
      exact sound_roll sound _

/-- **Whatever was asked for, only notations are remembered.** -/
theorem sound_recalling (cup : Cup) (history : List Past) : (cup.recalling history).Sound := by
  have kept : ∀ known : List String, (∀ key ∈ known, Notation.Legible key) →
      ∀ key ∈ history.foldl (fun known past => (serve ⟨past.faces, past.shown, known⟩ past.request).known) known,
        Notation.Legible key := by
    induction history with
    | nil => exact fun _ sound => sound
    | cons past history ih =>
      intro known sound
      have start : (Cup.mk past.faces past.shown known).Sound := sound
      exact ih _ (sound_serve start past.request)
  exact kept [] nofun

/-- What the act answers does not depend on what was asked for before. -/
def Unswayed {ε α : Type} (act : Act Cup ε α) : Prop :=
  ∀ (cup : Cup) (before before' : List Past), told act (cup.recalling before) = told act (cup.recalling before')

theorem unswayed_roll (steady : Steady text) : Unswayed (roll text) := fun cup before before' =>
  told_roll rfl ((read_steady steady (sound_recalling cup before)).trans
    (read_steady steady (sound_recalling cup before')).symm)

/-- What is a notation without its spaces is read once it was rolled so. -/
theorem read_recalling (legible : Notation.Legible (withoutSpaces text)) (cup : Cup) (faces : List Int)
    (shown : Nat) : (cup.recalling [⟨faces, shown, .roll (withoutSpaces text)⟩]).read text =
      Notation.parse (withoutSpaces text) := by
  obtain ⟨n, written⟩ := legible
  have again : Notation.Legible (withoutSpaces (withoutSpaces text)) := by
    rw [withoutSpaces_withoutSpaces]
    exact ⟨n, written⟩
  have known : recalled [⟨faces, shown, .roll (withoutSpaces text)⟩] = [withoutSpaces text] := by
    have first : (Cup.mk faces shown []).read (withoutSpaces text) = .ok n := written
    show ((roll (withoutSpaces text)).run ⟨faces, shown, []⟩).2.known = _
    rw [roll_read (not_blank again) first]
    show [withoutSpaces (withoutSpaces text)] = _
    rw [withoutSpaces_withoutSpaces]
  unfold read recalling
  rw [known]
  dsimp only
  rw [if_pos (List.contains_iff_mem.2 List.mem_cons_self)]

theorem steady_of_unswayed (unswayed : Unswayed (roll text)) : Steady text := by
  intro legible
  refine Decidable.byContradiction fun illegible => ?_
  -- Once the text was rolled without its spaces, a roll that was refused is refused no longer.
  have filled := not_blank legible
  have later := read_recalling legible (ofFaces []) [] 0
  obtain ⟨n, written⟩ := legible
  cases read : Notation.parse text with
  | ok m => exact illegible ⟨m, read⟩
  | error fault =>
    have first : ((ofFaces []).recalling []).read text = .error fault := read
    have same := unswayed (ofFaces []) [] [⟨[], 0, .roll (withoutSpaces text)⟩]
    unfold told at same
    rw [roll_unread filled first, roll_read filled (later.trans written)] at same
    exact outcome_ne text n _ _ fault (congrArg Prod.fst same).symm

theorem told_reckon (looks : looksWhole (Text.trim text) = false) (cup : Cup) :
    told (reckon text) cup =
      (Reckoning.ofRoll text (told (roll (Text.trim text)) cup).1, (told (roll (Text.trim text)) cup).2) := by
  unfold told
  rw [reckon_roll looks]

theorem unswayed_reckon_iff (text : String) : Unswayed (reckon text) ↔ Steady (Text.trim text) := by
  cases looks : looksWhole (Text.trim text) with
  | true =>
    refine iff_of_true (fun cup before before' => ?_) (steady_of_solid (solid_of_looksWhole looks))
    unfold told
    rw [reckon_plain looks, reckon_plain looks]
    rfl
  | false =>
    constructor
    · refine fun unswayed => steady_of_unswayed fun cup before before' => ?_
      have same := unswayed cup before before'
      rw [told_reckon looks, told_reckon looks, Prod.mk.injEq] at same
      exact Prod.ext (Reckoning.ofRoll_injective _ same.1) same.2
    · intro steady cup before before'
      rw [told_reckon looks, told_reckon looks, unswayed_roll steady cup before before']

end Cup

end Bestiary.Dice

namespace Bestiary.Encounter

open Dice.Cup (Past Unswayed told)

def recalling (e : Encounter) (history : List Past) : Encounter := { e with cup := e.cup.recalling history }

def forget (e : Encounter) : Encounter := { e with cup := e.cup.forget }

theorem amount_recalling {text : String} (unswayed : Unswayed (Dice.Cup.reckon text)) (e : Encounter)
    (before before' : List Past) :
    ((amount (.rolled text)).run (e.recalling before)).1 = ((amount (.rolled text)).run (e.recalling before')).1 ∧
    ((amount (.rolled text)).run (e.recalling before)).2.forget =
      ((amount (.rolled text)).run (e.recalling before')).2.forget := by
  have same := unswayed e.cup before before'
  unfold told at same
  simp only [amount, rollAmount, Act.run, recalling] at same ⊢
  cases e.world.totals.lookup text with
  | some n => exact ⟨rfl, rfl⟩
  | none =>
    generalize Dice.Cup.reckon text (e.cup.recalling before) = first at same ⊢
    generalize Dice.Cup.reckon text (e.cup.recalling before') = second at same ⊢
    obtain ⟨answer, cup⟩ := first
    obtain ⟨answer', cup'⟩ := second
    simp only [Prod.mk.injEq] at same
    obtain ⟨rfl, cups⟩ := same
    rcases answer with cause | (n | r | ⟨shown, refusal⟩) <;> exact ⟨rfl, by simp only [forget, note, cups]⟩

end Bestiary.Encounter

namespace Bestiary.Dice.Cup

/-- **Whether rolls depend on what was rolled before.**  A roll does not exactly if its text is steady, and an amount
exactly if its text is without the blanks around it; then an encounter comes to the same amount, and is the same after
it, whatever was rolled before. -/
theorem unswayed_iff_steady (text : String) :
    (Unswayed (roll text) ↔ Steady text) ∧ (Unswayed (reckon text) ↔ Steady (Text.trim text)) ∧
    (Steady (Text.trim text) → ∀ (e : Encounter) (before before' : List Past),
      ((Encounter.amount (.rolled text)).run (e.recalling before)).1 =
        ((Encounter.amount (.rolled text)).run (e.recalling before')).1 ∧
      ((Encounter.amount (.rolled text)).run (e.recalling before)).2.forget =
        ((Encounter.amount (.rolled text)).run (e.recalling before')).2.forget) := by
  refine ⟨⟨steady_of_unswayed, unswayed_roll⟩, unswayed_reckon_iff text, fun steady e before before' => ?_⟩
  exact Encounter.amount_recalling ((unswayed_reckon_iff text).2 steady) e before before'

/-- A space in front makes a roll depend on what was rolled before, and an amount not. -/
theorem unswayed_iff_steady_indented :
    let text := " 2d6 + 1"
    let e := Encounter.opening [] [3, 5]
    ¬Steady text ∧ ¬Unswayed (roll text) ∧ Steady (Text.trim text) ∧ Unswayed (reckon text) ∧
    ((Encounter.amount (.rolled text)).run (e.recalling [])).1 = .ok 9 ∧
    ((Encounter.amount (.rolled text)).run (e.recalling [⟨[6], 0, .roll "2d6+1"⟩])).1 = .ok 9 := by
  have swayed : ¬Steady " 2d6 + 1" := by decide +kernel
  have steady : Steady (Text.trim " 2d6 + 1") := by decide +kernel
  have nine : ((Encounter.amount (.rolled " 2d6 + 1")).run ((Encounter.opening [] [3, 5]).recalling [])).1 = .ok 9 := by
    decide +kernel
  obtain ⟨rolls, amounts, encounters⟩ := unswayed_iff_steady " 2d6 + 1"
  refine ⟨swayed, fun unswayed => swayed (rolls.1 unswayed), steady, amounts.2 steady, nine, ?_⟩
  rw [← (encounters steady (.opening [] [3, 5]) [] [⟨[6], 0, .roll "2d6+1"⟩]).1]
  exact nine

/-- **A text that is accepted once somebody rolled it without its space.** -/
theorem spaced_die_swayed :
    ((roll "1 d6").run ((ofFaces [4]).recalling [])).1 = .error (.invalid "1 d6" .grammar) ∧
    ((roll "1 d6").run ((ofFaces [4]).recalling [⟨[4], 0, .roll "1d6"⟩])).1 = .ok ⟨"1 d6", 4, [4], 0⟩ ∧
    ((reckon "1 d6").run ((ofFaces [4]).recalling [])).1 = .ok (.refused "1 d6" (.invalid "1 d6" .grammar)) ∧
    ((reckon "1 d6").run ((ofFaces [4]).recalling [⟨[4], 0, .roll "1d6"⟩])).1 =
      .ok (.rolled ⟨"1 d6", 4, [4], 0⟩) := by
  decide +kernel

end Bestiary.Dice.Cup
