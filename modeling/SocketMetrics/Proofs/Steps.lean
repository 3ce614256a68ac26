import Mathlib.Data.List.Forall2
/-!
# Steps that may fail

Two steps in a row succeed when both do, and fail with the fault of the first that fails
(`bind_eq_ok_iff`, `bind_eq_error_iff`). One step for each item of a list succeeds when all of them
do (`mapM_eq_ok_iff_forall₂`), and otherwise fails with the fault of the first that fails
(`mapM_eq_error_iff`), where `IsFirst` says which item of a list is the first with a property. Steps
of different kinds in a row are the stages of a list when each fails where its stage does
(`bind_eq_error_iff_firstFault`). Lists that are related item by item fall apart alike, and so does
what is picked from them (`exists_append_of_forall₂`, `filterMap_eq_of_forall₂`).
-/

set_option autoImplicit false
set_option relaxedAutoImplicit false

namespace SocketMetrics.Steps

variable {α β γ ε : Type}

/-! ### Two steps -/

@[simp] theorem pure_eq_ok (result : α) : (pure result : Except ε α) = .ok result := rfl

@[simp] theorem throw_eq_error (fault : ε) : (throw fault : Except ε α) = .error fault := rfl

/-- Two steps in a row succeed when both do. -/
theorem bind_eq_ok_iff {step : Except ε α} {next : α → Except ε β} {result : β} :
    (step >>= next) = .ok result ↔ ∃ middle, step = .ok middle ∧ next middle = .ok result := by
  cases step <;> simp [bind, Except.bind]

/-- Two steps in a row fail with the fault of the first that fails. -/
theorem bind_eq_error_iff {step : Except ε α} {next : α → Except ε β} {fault : ε} :
    (step >>= next) = .error fault ↔
      step = .error fault ∨ ∃ middle, step = .ok middle ∧ next middle = .error fault := by
  cases step <;> simp [bind, Except.bind]

/-- A step whose result is restated succeeds when the step does. -/
theorem map_eq_ok_iff {restate : α → β} {step : Except ε α} {result : β} :
    step.map restate = .ok result ↔ ∃ found, step = .ok found ∧ result = restate found := by
  cases step <;> simp [Except.map, eq_comm]

/-- A step whose result is restated fails when the step does. -/
theorem map_eq_error_iff {restate : α → β} {step : Except ε α} {fault : ε} :
    step.map restate = .error fault ↔ step = .error fault := by
  cases step <;> simp [Except.map]

/-- A step whose faults are restated succeeds when the step does. -/
@[simp] theorem mapError_eq_ok_iff {restate : ε → γ} {step : Except ε α} {result : α} :
    step.mapError restate = .ok result ↔ step = .ok result := by
  cases step <;> simp [Except.mapError]

/-- A step whose faults are restated fails with a fault of the step, restated. -/
@[simp] theorem mapError_eq_error_iff {restate : ε → γ} {step : Except ε α} {fault : γ} :
    step.mapError restate = .error fault ↔
      ∃ cause, step = .error cause ∧ fault = restate cause := by
  cases step <;> simp [Except.mapError, eq_comm]

/-! ### The first item with a property -/

/-- The item is the first of the list that has the property. -/
def IsFirst (property : α → Prop) (items : List α) (item : α) : Prop :=
  ∃ before after, items = before ++ item :: after ∧
    (∀ earlier ∈ before, ¬ property earlier) ∧ property item

section First

variable {property other : α → Prop} {first item : α} {items rest : List α}

@[simp] theorem not_isFirst_nil : ¬ IsFirst property [] item := by
  rintro ⟨before, after, hitems, -⟩
  simp at hitems

/-- The first item with a property is at the head or, if the head has not got it, behind it. -/
theorem isFirst_cons_iff :
    IsFirst property (first :: rest) item ↔
      (property first ∧ item = first) ∨ (¬ property first ∧ IsFirst property rest item) := by
  constructor
  · rintro ⟨before, after, hitems, hbefore, hitem⟩
    cases before with
    | nil =>
      obtain ⟨rfl, rfl⟩ := List.cons.inj hitems
      exact Or.inl ⟨hitem, rfl⟩
    | cons earlier before =>
      obtain ⟨rfl, rfl⟩ := List.cons.inj hitems
      obtain ⟨hearlier, hbefore⟩ := List.forall_mem_cons.mp hbefore
      exact Or.inr ⟨hearlier, before, after, rfl, hbefore, hitem⟩
  · rintro (⟨hfirst, rfl⟩ | ⟨hfirst, before, after, rfl, hbefore, hitem⟩)
    · exact ⟨[], rest, rfl, by simp, hfirst⟩
    · exact ⟨first :: before, after, rfl, List.forall_mem_cons.mpr ⟨hfirst, hbefore⟩, hitem⟩

theorem IsFirst.mem (hitem : IsFirst property items item) : item ∈ items := by
  obtain ⟨before, after, rfl, -⟩ := hitem
  simp

theorem IsFirst.holds (hitem : IsFirst property items item) : property item := by
  obtain ⟨before, after, -, -, hholds⟩ := hitem
  exact hholds

/-- There is a first item with a property when there is any. -/
theorem exists_isFirst_iff :
    (∃ item, IsFirst property items item) ↔ ∃ item ∈ items, property item := by
  constructor
  · rintro ⟨item, hitem⟩
    exact ⟨item, hitem.mem, hitem.holds⟩
  · rintro ⟨item, hmem, hholds⟩
    induction items with
    | nil => simp at hmem
    | cons first rest ih =>
      by_cases hfirst : property first
      · exact ⟨first, isFirst_cons_iff.mpr (Or.inl ⟨hfirst, rfl⟩)⟩
      · have hrest : item ∈ rest := by
          rcases List.mem_cons.mp hmem with rfl | hrest
          · exact absurd hholds hfirst
          · exact hrest
        obtain ⟨found, hfound⟩ := ih hrest
        exact ⟨found, isFirst_cons_iff.mpr (Or.inr ⟨hfirst, hfound⟩)⟩

/-- Searching a list finds the first item with the property. -/
theorem find?_eq_some_iff_isFirst {test : α → Bool} :
    items.find? test = some item ↔ IsFirst (fun item ↦ test item = true) items item := by
  rw [List.find?_eq_some_iff_append]
  constructor
  · rintro ⟨hitem, before, after, hitems, hbefore⟩
    exact ⟨before, after, hitems, fun earlier hearlier ↦ by simpa using hbefore earlier hearlier,
      hitem⟩
  · rintro ⟨before, after, hitems, hbefore, hitem⟩
    exact ⟨hitem, before, after, hitems, fun earlier hearlier ↦ by
      simpa using hbefore earlier hearlier⟩

/-- Searching a list of items with distinct keys finds the item with a given key. -/
theorem find?_key_eq_some [BEq β] [LawfulBEq β] {key : α → β} (hkeys : (items.map key).Nodup)
    (hitem : item ∈ items) : (items.find? fun other ↦ key other == key item) = some item := by
  obtain ⟨before, after, rfl⟩ := List.append_of_mem hitem
  refine find?_eq_some_iff_isFirst.mpr ⟨before, after, rfl, fun earlier hearlier ↦ ?_, by simp⟩
  rw [List.map_append, List.nodup_append] at hkeys
  simpa using hkeys.2.2 _ (List.mem_map_of_mem hearlier) _ (List.mem_map_of_mem (by simp))

/-- Properties of the same items have the same first item. -/
theorem IsFirst.congr (hitem : IsFirst property items item)
    (hsame : ∀ item ∈ items, property item ↔ other item) : IsFirst other items item := by
  obtain ⟨before, after, rfl, hbefore, hholds⟩ := hitem
  refine ⟨before, after, rfl, fun earlier hearlier ↦ ?_, (hsame item (by simp)).mp hholds⟩
  exact mt (hsame earlier (by simp [hearlier])).mpr (hbefore earlier hearlier)

/-- Related lists have related first items with properties that agree on related items. -/
theorem IsFirst.exists_of_forall₂ {relation : α → β → Prop} {result : β → Prop} {results : List β}
    (hitem : IsFirst property items item) (hall : List.Forall₂ relation items results)
    (hsame : ∀ item found, relation item found → (property item ↔ result found)) :
    ∃ found, relation item found ∧ IsFirst result results found := by
  induction hall with
  | nil => simp at hitem
  | cons hhead _ ih =>
    rcases isFirst_cons_iff.mp hitem with ⟨hfirst, rfl⟩ | ⟨hfirst, hrest⟩
    · have hfound := (hsame _ _ hhead).mp hfirst
      exact ⟨_, hhead, isFirst_cons_iff.mpr (Or.inl ⟨hfound, rfl⟩)⟩
    · obtain ⟨found, hrelated, hfound⟩ := ih hrest
      have hpassed := mt (hsame _ _ hhead).mpr hfirst
      exact ⟨found, hrelated, isFirst_cons_iff.mpr (Or.inr ⟨hpassed, hfound⟩)⟩

end First

/-! ### Stages -/

/-- The fault is that of the first stage that fails, where the stages are told with their faults. -/
def FirstFault (fails : α → ε → Prop) (stages : List α) (fault : ε) : Prop :=
  ∃ stage, IsFirst (fun stage ↦ ∃ fault, fails stage fault) stages stage ∧ fails stage fault

theorem not_firstFault_nil {fails : α → ε → Prop} {fault : ε} : ¬ FirstFault fails [] fault := by
  rintro ⟨stage, hstage, -⟩
  exact not_isFirst_nil hstage

/-- A step and what follows it fail with the fault of the first stage that fails, when the step is
the first stage and what follows are the others. -/
theorem bind_eq_error_iff_firstFault {fails : α → ε → Prop} {stage : α} {stages : List α}
    {step : Except ε β} {next : β → Except ε γ} {fault : ε}
    (hstep : ∀ fault, step = .error fault ↔ fails stage fault)
    (hnext : ∀ middle, step = .ok middle → (next middle = .error fault ↔
      FirstFault fails stages fault)) :
    (step >>= next) = .error fault ↔ FirstFault fails (stage :: stages) fault := by
  rw [bind_eq_error_iff]
  constructor
  · rintro (hfault | ⟨middle, hmiddle, hfault⟩)
    · have hfails := (hstep fault).mp hfault
      exact ⟨stage, isFirst_cons_iff.mpr (Or.inl ⟨⟨fault, hfails⟩, rfl⟩), hfails⟩
    · obtain ⟨other, hother, hfails⟩ := (hnext middle hmiddle).mp hfault
      have hpassed : ¬ ∃ fault, fails stage fault := by
        rintro ⟨earlier, hearlier⟩
        rw [(hstep earlier).mpr hearlier] at hmiddle
        cases hmiddle
      exact ⟨other, isFirst_cons_iff.mpr (Or.inr ⟨hpassed, hother⟩), hfails⟩
  · rintro ⟨first, hfirst, hfails⟩
    rcases isFirst_cons_iff.mp hfirst with ⟨-, rfl⟩ | ⟨hpassed, hrest⟩
    · exact Or.inl ((hstep fault).mpr hfails)
    · cases hmiddle : step with
      | error earlier => exact absurd ⟨earlier, (hstep earlier).mp hmiddle⟩ hpassed
      | ok middle => exact Or.inr ⟨middle, rfl, (hnext middle hmiddle).mpr ⟨first, hrest, hfails⟩⟩

/-! ### One step for each item -/

/-- Steps for the items of a list succeed when each of them does. -/
theorem mapM_eq_ok_iff_forall₂ {step : α → Except ε β} {items : List α} {results : List β} :
    items.mapM step = .ok results ↔
      List.Forall₂ (fun item result ↦ step item = .ok result) items results := by
  induction items generalizing results with
  | nil => simp [eq_comm]
  | cons item rest ih =>
    rw [List.mapM_cons, List.forall₂_cons_left_iff, bind_eq_ok_iff]
    simp only [bind_eq_ok_iff, ih, pure_eq_ok, Except.ok.injEq]
    constructor
    · rintro ⟨result, hresult, others, hothers, rfl⟩
      exact ⟨result, others, hresult, hothers, rfl⟩
    · rintro ⟨result, others, hresult, hothers, rfl⟩
      exact ⟨result, hresult, others, hothers, rfl⟩

/-- Steps for the items of a list fail with the fault of the first item whose step fails. -/
theorem mapM_eq_error_iff {step : α → Except ε β} {items : List α} {fault : ε} :
    items.mapM step = .error fault ↔
      ∃ item, IsFirst (fun item ↦ ∃ fault, step item = .error fault) items item ∧
        step item = .error fault := by
  induction items with
  | nil => simp
  | cons first rest ih =>
    rw [List.mapM_cons, bind_eq_error_iff]
    simp only [isFirst_cons_iff]
    constructor
    · rintro (hfirst | ⟨result, hresult, hrest⟩)
      · exact ⟨first, Or.inl ⟨⟨fault, hfirst⟩, rfl⟩, hfirst⟩
      · rcases bind_eq_error_iff.mp hrest with hrest | ⟨others, -, hdone⟩
        · obtain ⟨item, hitem, hfault⟩ := ih.mp hrest
          exact ⟨item, Or.inr ⟨by simp [hresult], hitem⟩, hfault⟩
        · cases hdone
    · rintro ⟨item, ⟨-, rfl⟩ | ⟨hpassed, hitem⟩, hfault⟩
      · exact Or.inl hfault
      · have hrest := ih.mpr ⟨item, hitem, hfault⟩
        cases hfirst : step first with
        | error other => exact absurd ⟨other, hfirst⟩ hpassed
        | ok result => exact Or.inr ⟨result, rfl, bind_eq_error_iff.mpr (Or.inl hrest)⟩

/-! ### Relations between lists -/

/-- Two relations in a row relate lists element by element. -/
theorem exists_forall₂_iff {first : α → β → Prop} {second : β → γ → Prop} {items : List α}
    {results : List γ} :
    (∃ middles, List.Forall₂ first items middles ∧ List.Forall₂ second middles results) ↔
      List.Forall₂ (fun item result ↦ ∃ middle, first item middle ∧ second middle result)
        items results := by
  constructor
  · rintro ⟨middles, hfirst, hsecond⟩
    induction hfirst generalizing results with
    | nil =>
      cases hsecond
      exact .nil
    | cons hitem _ ih =>
      cases hsecond with
      | cons hresult hrest => exact .cons ⟨_, hitem, hresult⟩ (ih hrest)
  · intro hboth
    induction hboth with
    | nil => exact ⟨[], .nil, .nil⟩
    | cons hmiddle _ ih =>
      obtain ⟨middle, hitem, hresult⟩ := hmiddle
      obtain ⟨middles, hfirst, hsecond⟩ := ih
      exact ⟨middle :: middles, .cons hitem hfirst, .cons hresult hsecond⟩

/-- A relation that answers every item of a list answers the list. -/
theorem exists_forall₂_iff_forall_mem {relation : α → β → Prop} {items : List α} :
    (∃ results, List.Forall₂ relation items results) ↔
      ∀ item ∈ items, ∃ result, relation item result := by
  induction items with
  | nil => simp
  | cons item rest ih =>
    rw [List.forall_mem_cons, ← ih]
    constructor
    · rintro ⟨_, hall⟩
      obtain ⟨result, results, hresult, hresults, -⟩ := List.forall₂_cons_left_iff.mp hall
      exact ⟨⟨result, hresult⟩, results, hresults⟩
    · rintro ⟨⟨result, hresult⟩, results, hresults⟩
      exact ⟨result :: results, .cons hresult hresults⟩

/-- Lists that are related element by element fall into related parts. -/
theorem exists_append_of_forall₂ {relation : α → β → Prop} {front back : List α} {results : List β}
    (hall : List.Forall₂ relation (front ++ back) results) :
    ∃ first second, results = first ++ second ∧ List.Forall₂ relation front first ∧
      List.Forall₂ relation back second :=
  ⟨_, _, (List.take_append_drop front.length results).symm,
    (List.forall₂_take_append _ _ _ hall.flip).flip,
    (List.forall₂_drop_append _ _ _ hall.flip).flip⟩

/-- Lists whose elements cannot be told apart by what is picked from them give the same. -/
theorem filterMap_eq_of_forall₂ {relation : α → β → Prop} {pick : α → Option γ}
    {pickOther : β → Option γ} {items : List α} {results : List β}
    (hall : List.Forall₂ relation items results)
    (hsame : ∀ item result, relation item result → pick item = pickOther result) :
    items.filterMap pick = results.filterMap pickOther := by
  induction hall with
  | nil => rfl
  | cons hitem _ ih => rw [List.filterMap_cons, List.filterMap_cons, hsame _ _ hitem, ih]

/-- Where the items that are kept are those of which something is picked, the two lists agree item
by item. -/
theorem forall₂_filter_filterMap {relation : α → β → Prop} {keep : α → Bool} {pick : α → Option β}
    {items : List α}
    (hitems : ∀ item ∈ items, (keep item = false ∧ pick item = none) ∨
      (keep item = true ∧ ∃ result, pick item = some result ∧ relation item result)) :
    List.Forall₂ relation (items.filter keep) (items.filterMap pick) := by
  induction items with
  | nil => exact .nil
  | cons item rest ih =>
    obtain ⟨hitem, hrest⟩ := List.forall_mem_cons.mp hitems
    rcases hitem with ⟨hleft, hnone⟩ | ⟨hkept, result, hsome, hrelated⟩
    · rw [List.filter_cons_of_neg (by simp [hleft]), List.filterMap_cons_none hnone]
      exact ih hrest
    · rw [List.filter_cons_of_pos hkept, List.filterMap_cons_some hsome]
      exact .cons hrelated (ih hrest)

/-- Where an item with a key of its own is passed over, only what is picked from it is missing. -/
theorem exists_filterMap_without {κ : Type} [DecidableEq κ] {key : α → κ} {pick : α → Option β}
    {items : List α} (hkeys : (items.map key).Nodup) {item : α} (hitem : item ∈ items) {result : β}
    (hpick : pick item = some result) :
    ∃ before after, items.filterMap pick = before ++ result :: after ∧
      (items.filterMap fun other ↦ if key other = key item then none else pick other) =
        before ++ after := by
  obtain ⟨front, back, rfl⟩ := List.append_of_mem hitem
  rw [List.map_append, List.map_cons, List.nodup_append, List.nodup_cons] at hkeys
  obtain ⟨-, ⟨hback, -⟩, hfront⟩ := hkeys
  have hsame {others : List α} (hothers : ∀ other ∈ others, key other ≠ key item) :
      (others.filterMap fun other ↦ if key other = key item then none else pick other) =
        others.filterMap pick :=
    List.filterMap_congr fun other hother ↦ if_neg (hothers other hother)
  refine ⟨front.filterMap pick, back.filterMap pick, ?_, ?_⟩
  · rw [List.filterMap_append, List.filterMap_cons_some hpick]
  · simp only [List.filterMap_append, List.filterMap_cons, ↓reduceIte]
    rw [hsame, hsame]
    · exact fun other hother heq ↦ hback (heq ▸ List.mem_map_of_mem hother)
    · exact fun other hother ↦ hfront _ (List.mem_map_of_mem hother) _ List.mem_cons_self

end SocketMetrics.Steps
