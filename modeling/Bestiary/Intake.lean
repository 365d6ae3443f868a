import Bestiary.Issue
import Bestiary.Moment.Text
/-!
# Taking documents in

Records are read from documents field by field. All issues are gathered, in the order of the fields, so
reading is an applicative and not a monad: a field is read whether or not another one failed. Records that
lack an id get a new one, and a missing moment is now; both come from a `Supply`, which is used up even
by documents that are refused in the end. `Reads` says that reading answers a value and uses nothing up.
-/
namespace Bestiary

/-- Where new ids and the time of day come from. -/
structure Supply where
  /-- How many ids were handed out. -/
  minted : Nat
  now : Moment
  deriving DecidableEq, Repr

/-- Reads a value, or gathers what is wrong. -/
def Intake (α : Type) : Type := Supply → Except (List Issue) α × Supply

namespace Intake

variable {α β γ : Type}

def run (m : Intake α) (s : Supply) : Except (List Issue) α × Supply := m s

/-- The value, whatever the document. -/
protected def pure (a : α) : Intake α := fun s => (.ok a, s)

/-- The value with a change. -/
protected def map (f : α → β) (m : Intake α) : Intake β := fun s =>
  match m s with
  | (.ok a, s) => (.ok (f a), s)
  | (.error issues, s) => (.error issues, s)

/-- Both values; the issues of both. -/
protected def pair (m : Intake α) (n : Intake β) : Intake (α × β) := fun s =>
  match m s with
  | (.ok a, s) =>
    match n s with
    | (.ok b, s) => (.ok (a, b), s)
    | (.error issues, s) => (.error issues, s)
  | (.error issues, s) =>
    match n s with
    | (.ok _, s) => (.error issues, s)
    | (.error further, s) => (.error (issues ++ further), s)

instance : Applicative Intake where
  pure := Intake.pure
  map := Intake.map
  seq f m := Intake.map (fun p => p.1 p.2) (Intake.pair f (m ()))
  seqLeft m n := Intake.map Prod.fst (Intake.pair m (n ()))
  seqRight m n := Intake.map Prod.snd (Intake.pair m (n ()))

/-- The value is wrong. -/
def issue (cause : Issue.Cause) : Intake α := fun s => (.error [⟨cause, []⟩], s)

/-- The value, or the cause why there is none. -/
def ofExcept : Except Issue.Cause α → Intake α
  | .ok a => Intake.pure a
  | .error cause => issue cause

/-- Reads at a place inside. -/
def inside (place : Issue.Place) (m : Intake α) : Intake α := fun s =>
  match m s with
  | (.ok a, s) => (.ok a, s)
  | (.error issues, s) => (.error (issues.map (Issue.within place)), s)

/-- A check of the value that is read, which may change it. -/
def check (m : Intake α) (test : α → Except Issue.Cause β) : Intake β := fun s =>
  match m s with
  | (.ok a, s) => ofExcept (test a) s
  | (.error issues, s) => (.error issues, s)

def newId : Intake String := fun s => (.ok ("gen-" ++ toString (s.minted + 1)), { s with minted := s.minted + 1 })

/-- The time of day. -/
def now : Intake Moment := fun s => (.ok s.now, s)

/-- Reads the items from an index on. -/
def itemsFrom (read : α → Intake β) : Nat → List α → Intake (List β)
  | _, [] => Intake.pure []
  | n, a :: as => Intake.map (fun p => p.1 :: p.2) (Intake.pair (inside (.index n) (read a)) (itemsFrom read (n + 1) as))

/-- Reading answers this value, from any supply, and uses nothing up. -/
def Reads (m : Intake α) (a : α) : Prop := ∀ s, m.run s = (.ok a, s)

namespace Reads

theorem pure (a : α) : Reads (Pure.pure a : Intake α) a := fun _ => rfl

theorem map (f : α → β) {m : Intake α} {a : α} (h : Reads m a) : Reads (f <$> m) (f a) := by
  intro s
  have h := h s
  unfold run at h
  simp [Functor.map, Intake.map, run, h]

theorem pair {m : Intake α} {n : Intake β} {a : α} {b : β} (h : Reads m a) (k : Reads n b) :
    Reads (Intake.pair m n) (a, b) := by
  intro s
  have h := h s
  have k := k s
  unfold run at h k
  simp [Intake.pair, run, h, k]

theorem seq {f : Intake (α → β)} {m : Intake α} {g : α → β} {a : α} (h : Reads f g) (k : Reads m a) :
    Reads (f <*> m) (g a) := map (fun (p : (α → β) × α) => p.1 p.2) (pair h k)

theorem seqLeft {m : Intake α} {n : Intake β} {a : α} {b : β} (h : Reads m a) (k : Reads n b) :
    Reads (m <* n) a := map Prod.fst (pair h k)

theorem inside (place : Issue.Place) {m : Intake α} {a : α} (h : Reads m a) : Reads (Intake.inside place m) a := by
  intro s
  have h := h s
  unfold run at h
  simp [Intake.inside, run, h]

theorem check {m : Intake α} {test : α → Except Issue.Cause β} {a : α} {b : β} (h : Reads m a)
    (ok : test a = .ok b) : Reads (Intake.check m test) b := by
  intro s
  have h := h s
  unfold run at h
  simp [Intake.check, run, h, ok, ofExcept, Intake.pure]

theorem itemsFrom {read : α → Intake β} {write : β → α} (bs : List β) (h : ∀ b ∈ bs, Reads (read (write b)) b)
    (n : Nat) : Reads (Intake.itemsFrom read n (bs.map write)) bs := by
  induction bs generalizing n with
  | nil => exact pure []
  | cons b bs ih =>
    exact map (fun (p : β × List β) => p.1 :: p.2)
      (pair (inside _ (h b (by simp))) (ih (fun c hc => h c (by simp [hc])) (n + 1)))

end Reads

end Intake

end Bestiary
