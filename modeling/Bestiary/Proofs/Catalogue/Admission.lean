import Bestiary.Proofs.Catalogue.Exchange
import Bestiary.Proofs.Document.Steady
import Bestiary.Proofs.Document.Verdict
/-!
# Admission — what a catalogue takes in of any text

A text that is no document with a list of templates leaves a catalogue as it is.  Of any other, categories are put in
order until one is `Mislabelled`, which ends the import; entries that do not say that they are categories are skipped.
If the categories are through, each template is put or skipped by itself, whatever the others are (`Sifted`).  So what
can keep an import from its end is a mislabelled category, or a text that is `TooDeep` to be read, and nothing else
(`importText_admits`).
-/
namespace Bestiary.Catalogue

open Intake (Reads Steady Yields)

/-! ## The text -/

/-- The list that an object gives under a key; empty if it gives none. -/
def listed (key : String) (j : Json) : List Json :=
  match j.get? key with
  | some (.arr items) => items
  | _ => []

/-- **The text of a document with a list of templates**, and with these categories, as far as it is read. -/
def Exports (reach : Nat) (text : String) (categories templates : List Json) : Prop :=
  ∃ j, Json.parse reach text = .ok j ∧ j.get? "templates" = some (.arr templates) ∧ categories = listed "categories" j

/-- **A text whose brackets nest deeper than the reach**, where all that comes before is read. -/
def TooDeep (reach : Nat) (text : String) : Prop :=
  ∃ list position, Json.parse reach text = .error ⟨.tooDeep list, position⟩

theorem Exports.not_tooDeep {reach : Nat} {text : String} {categories templates : List Json}
    (exports : Exports reach text categories templates) : ¬TooDeep reach text := by
  rintro ⟨list, position, deep⟩
  obtain ⟨j, read, -⟩ := exports
  rw [read] at deep
  cases deep

theorem split_eq_ok_iff {reach : Nat} {text : String} {categories templates : List Json} :
    split reach text = .ok (categories, templates) ↔ Exports reach text categories templates := by
  unfold split Exports
  cases Json.parse reach text with
  | error fault => simp
  | ok j =>
    dsimp only
    split
    · rename_i items given
      simp only [given, Except.ok.injEq, Option.some.injEq, Json.arr.injEq, exists_eq_left']
      unfold listed
      cases j.get? "categories" with
      | none => simp [and_comm, eq_comm]
      | some value => cases value <;> simp [and_comm, eq_comm]
    · rename_i other
      simp only [reduceCtorEq, Except.ok.injEq, exists_eq_left', false_iff, not_and]
      exact fun given => absurd given (other templates)

/-- A text is split in at most one way. -/
theorem Exports.unique {reach : Nat} {text : String} {cs ts ds us : List Json} (h : Exports reach text cs ts)
    (k : Exports reach text ds us) : cs = ds ∧ ts = us := by
  have same := (split_eq_ok_iff.2 h).symm.trans (split_eq_ok_iff.2 k)
  simpa using same

/-- What a text that is not split comes to: it is too deep, or unreadable. -/
theorem split_eq_error {reach : Nat} {text : String} {failure : Import} (given : split reach text = .error failure) :
    (∃ reason, failure = .exhausted reason ∧ TooDeep reach text) ∨
      ∃ reason, failure = .unreadable reason ∧ ¬TooDeep reach text := by
  unfold split at given
  unfold TooDeep
  split at given
  · rename_i fault failed
    obtain ⟨cause, position⟩ := fault
    cases given
    rw [failed]
    cases cause with
    | tooDeep list => exact .inl ⟨_, rfl, list, position, rfl⟩
    | _ => exact .inr ⟨_, rfl, by rintro ⟨list, position, ⟨⟩⟩⟩
  · rename_i j read
    split at given
    · cases given
    · cases given
      refine .inr ⟨_, rfl, ?_⟩
      rintro ⟨list, position, deep⟩
      rw [read] at deep
      cases deep

/-! ## Categories -/

/-- The label that a document is: a text that is not empty. -/
def label? : Json → Option Label
  | .str s => Label.ofText? s
  | _ => none

/-- The category that an entry describes: an object with labels as its id and its name. -/
def category? (j : Json) : Option Category :=
  ((j.get? "id").bind label?).bind fun id => ((j.get? "name").bind label?).map fun name => ⟨id, name⟩

/-- **An entry with an id and a name that say something but are not both texts**, or not both whole ones. -/
def Mislabelled (j : Json) : Prop :=
  ∃ id name, j.get? "id" = some id ∧ j.get? "name" = some name ∧ id.isTruthy ∧ name.isTruthy ∧
    ((∀ s, id ≠ .str s) ∨ ∀ s, name ≠ .str s)

theorem label?_eq_none_iff {j : Json} : label? j = none ↔ (∀ s, j ≠ .str s) ∨ ¬j.isTruthy := by
  cases j with
  | str s => simp [label?, Label.ofText?, Json.isTruthy]
  | _ => simp [label?]

theorem category?_of_mislabelled {j : Json} (mislabelled : Mislabelled j) : category? j = none := by
  obtain ⟨id, name, id_given, name_given, -, -, other⟩ := mislabelled
  rcases other with other | other
  · simp [category?, id_given, label?_eq_none_iff.2 (.inl other)]
  · simp [category?, name_given, label?_eq_none_iff.2 (.inl other)]

/-- What is skipped: an entry that is no category and is not mislabelled. -/
theorem candidate?_eq_none_iff {j : Json} : candidate? j = none ↔ category? j = none ∧ ¬Mislabelled j := by
  unfold candidate? category? Mislabelled
  cases j.get? "id" with
  | none => simp
  | some id =>
    cases j.get? "name" with
    | none => simp
    | some name =>
      have described : ((some id).bind label?).bind (fun id => ((some name).bind label?).map (Category.mk id)) = none ↔
          label? id = none ∨ label? name = none := by
        simp only [Option.bind_some]
        cases label? id <;> cases label? name <;> simp
      rw [described, label?_eq_none_iff, label?_eq_none_iff]
      by_cases id_filled : id.isTruthy <;> by_cases name_filled : name.isTruthy <;> simp [id_filled, name_filled]
      tauto

theorem yields_label (j : Json) (s : Supply) : Yields (Intake.label j) s (label? j) s := by
  cases j with
  | str w =>
    refine Yields.of_eq (((Reads.text w).yields s).check _) ?_
    simp only [Option.bind_some, label?]
    cases Label.ofText? w <;> rfl
  | _ => exact ⟨_, rfl, rfl⟩

/-- **The document of a category that is to be added is read as the category that the entry describes.** -/
theorem yields_candidate {j document : Json} (given : candidate? j = some document) (s : Supply) :
    Yields (Category.read document) s (category? j) s := by
  unfold candidate? at given
  split at given
  · rename_i id name id_given name_given
    split at given
    · cases given
      have none_left : Reads (Intake.noExtras [("id", id), ("name", name)] Category.keys) () := fun _ => rfl
      refine Yields.of_eq (((yields_label id s).inside (.key "id")).map Category.mk
        |>.seq ((yields_label name s).inside (.key "name")) |>.seqLeft none_left) ?_
      rw [category?, id_given, name_given, Option.bind_some, Option.bind_some]
      cases label? id <;> rfl
    · cases given
  · cases given

theorem importCategories_append {before : List Json} (fit : ∀ j ∈ before, ¬Mislabelled j) (rest : List Json)
    (c : Catalogue) (s : Supply) : importCategories (before ++ rest) c s =
      importCategories rest { c with categories := c.categories.putAll (before.filterMap category?) } s := by
  induction before generalizing c with
  | nil => rfl
  | cons j before ih =>
    obtain ⟨own, later⟩ := List.forall_mem_cons.1 fit
    rw [List.cons_append, importCategories]
    cases described : category? j with
    | none =>
      rw [candidate?_eq_none_iff.2 ⟨described, own⟩, List.filterMap_cons_none described]
      exact ih later c
    | some x =>
      obtain ⟨document, given⟩ : ∃ document, candidate? j = some document := by
        rw [← Option.isSome_iff_exists, ← Option.ne_none_iff_isSome]
        intro skipped
        rw [(candidate?_eq_none_iff.1 skipped).1] at described
        cases described
      have read : (Category.read document).run s = (.ok x, s) :=
        Yields.some_iff.1 (described ▸ yields_candidate given s)
      rw [given, List.filterMap_cons_some described]
      dsimp only
      rw [read]
      exact ih later (c.addCategory x)

/-- A mislabelled category ends the import of categories. -/
theorem importCategories_mislabelled {j : Json} (mislabelled : Mislabelled j) (rest : List Json) (c : Catalogue)
    (s : Supply) : ∃ issues, importCategories (j :: rest) c s = (.error issues, c, s) := by
  obtain ⟨document, given⟩ : ∃ document, candidate? j = some document := by
    rw [← Option.isSome_iff_exists, ← Option.ne_none_iff_isSome]
    exact fun skipped => (candidate?_eq_none_iff.1 skipped).2 mislabelled
  obtain ⟨answer, read, same⟩ := yields_candidate given s
  rw [category?_of_mislabelled mislabelled] at same
  cases answer with
  | ok x => cases same
  | error issues =>
    refine ⟨issues, ?_⟩
    rw [importCategories, given]
    dsimp only
    rw [read]

/-! ## Templates -/

/-- **Entries that are taken or skipped one by one**: what is read as a template is taken, and what is refused from every
supply is skipped. -/
inductive Sifted : List Json → List Template → List Skipped → Prop where
  | nil : Sifted [] [] []
  | taken {j js t ts skipped} (s s' : Supply) (read : (Template.read j).run s = (.ok t, s'))
      (rest : Sifted js ts skipped) : Sifted (j :: js) (t :: ts) skipped
  | skipped {j js ts skipped issues} (refused : ∀ s, ∃ s', (Template.read j).run s = (.error issues, s'))
      (rest : Sifted js ts skipped) : Sifted (j :: js) ts (⟨(j.get? "id").getD .null, issues.length⟩ :: skipped)

theorem importTemplates_sifted : ∀ (js : List Json) (c : Catalogue) (s : Supply), ∃ ts skipped s',
    Sifted js ts skipped ∧
      importTemplates js c s = ((ts.length, skipped), { c with templates := c.templates.putAll ts }, s')
  | [], c, s => ⟨[], [], s, .nil, rfl⟩
  | j :: js, c, s => by
    rcases read : (Template.read j).run s with ⟨issues | t, s'⟩
    · obtain ⟨ts, skipped, u, sifted, same⟩ := importTemplates_sifted js c s'
      refine ⟨ts, _, u, .skipped ((Template.steady_read j).refused read) sifted, ?_⟩
      simp only [importTemplates, read, same]
    · obtain ⟨ts, skipped, u, sifted, same⟩ := importTemplates_sifted js (c.addTemplate t) s'
      refine ⟨t :: ts, skipped, u, .taken s s' read sifted, ?_⟩
      simp only [importTemplates, read, same]
      rfl

/-! ## Imports -/

/-- What an import answers: how many templates were added, which are none if the text is unreadable; nothing if the
text was too deep or a category was not valid. -/
def Import.count? : Import → Option Nat
  | .unreadable _ => some 0
  | .exhausted _ | .broken _ => none
  | .done added _ => some added

/-- **What comes of the import of a text**, and the catalogue it leaves. -/
inductive Admitted (reach : Nat) (text : String) (c : Catalogue) : Import → Catalogue → Prop where
  | unreadable (reason : String) (none : ¬ ∃ categories templates, Exports reach text categories templates)
      (shallow : ¬TooDeep reach text) : Admitted reach text c (.unreadable reason) c
  | exhausted (reason : String) (deep : TooDeep reach text) : Admitted reach text c (.exhausted reason) c
  | done {categories templates ts skipped} (exports : Exports reach text categories templates)
      (fit : ∀ j ∈ categories, ¬Mislabelled j) (sifted : Sifted templates ts skipped) :
      Admitted reach text c (.done ts.length skipped)
        ⟨c.categories.putAll (categories.filterMap category?), c.templates.putAll ts⟩
  | broken {before j after templates} (issues : List Issue)
      (exports : Exports reach text (before ++ j :: after) templates)
      (fit : ∀ i ∈ before, ¬Mislabelled i) (mislabelled : Mislabelled j) :
      Admitted reach text c (.broken issues) { c with categories := c.categories.putAll (before.filterMap category?) }

theorem admitted_importText (reach : Nat) (text : String) (c : Catalogue) (s : Supply) :
    Admitted reach text c (importText reach text c s).1 (importText reach text c s).2.1 := by
  classical
  rcases given : split reach text with failure | ⟨categories, templates⟩
  · have unread : ¬ ∃ categories templates, Exports reach text categories templates := by
      rintro ⟨categories, templates, exports⟩
      rw [split_eq_ok_iff.2 exports] at given
      cases given
    simp only [importText, given]
    rcases split_eq_error given with ⟨reason, rfl, deep⟩ | ⟨reason, rfl, shallow⟩
    · exact .exhausted reason deep
    · exact .unreadable reason unread shallow
  · have exports := split_eq_ok_iff.1 given
    cases first : categories.find? fun j => Mislabelled j with
    | none =>
      have fit : ∀ j ∈ categories, ¬Mislabelled j := by simpa using first
      have through := importCategories_append fit [] c s
      rw [List.append_nil, importCategories] at through
      obtain ⟨ts, skipped, s', sifted, added⟩ :=
        importTemplates_sifted templates { c with categories := c.categories.putAll (categories.filterMap category?) } s
      simp only [importText, given, through, added]
      exact .done exports fit sifted
    | some j =>
      obtain ⟨mislabelled, before, after, rfl, fit⟩ := List.find?_eq_some_iff_append.1 first
      replace mislabelled : Mislabelled j := by simpa using mislabelled
      replace fit : ∀ i ∈ before, ¬Mislabelled i := by simpa using fit
      have through := importCategories_append fit (j :: after) c s
      obtain ⟨issues, broken⟩ := importCategories_mislabelled mislabelled after
        { c with categories := c.categories.putAll (before.filterMap category?) } s
      simp only [importText, given, through, broken]
      exact .broken issues exports fit mislabelled

theorem Admitted.isSome_count?_iff {reach : Nat} {text : String} {c d : Catalogue} {done : Import}
    (h : Admitted reach text c done d) : done.count?.isSome ↔ ¬TooDeep reach text ∧
      ∀ categories templates, Exports reach text categories templates → ∀ j ∈ categories, ¬Mislabelled j := by
  cases h with
  | unreadable reason none shallow =>
    exact ⟨fun _ => ⟨shallow, fun categories templates exports => absurd ⟨_, _, exports⟩ none⟩, fun _ => rfl⟩
  | exhausted reason deep => exact ⟨nofun, fun fine => absurd deep fine.1⟩
  | done exports fit sifted =>
    refine ⟨fun _ => ⟨exports.not_tooDeep, fun categories templates again => ?_⟩, fun _ => rfl⟩
    rw [(again.unique exports).1]
    exact fit
  | broken issues exports fit mislabelled =>
    refine ⟨nofun, fun fine => absurd mislabelled (fine.2 _ _ exports _ ?_)⟩
    exact List.mem_append_right _ List.mem_cons_self

/-- The text of an export with a fencer, filed under a category whose id is a number. -/
def numbered : Json :=
  .obj [("categories", .arr [.obj [("id", .int 5), ("name", .str "Fifth")]]),
    ("templates", .arr [(fencer (.str "once")).write .wire])]

end Bestiary.Catalogue
