import SocketMetrics.Proofs.Steps
import SocketMetrics.Sockstat.Basic
/-!
# The fields of a summary, one after the other

`Fields.entries` lists the values that are present with their fields, in the order of the file. A
step for each value is then a step for each entry of this list (`Fields.entries_traverse`), so that
the first entry whose step fails gives the fault of all (`Fields.traverse_eq_error_iff`).
-/

set_option autoImplicit false
set_option relaxedAutoImplicit false

namespace SocketMetrics.Sockstat.Fields

open Steps

variable {α β γ ε : Type}

/-- The values that are present with their fields, in the order of the file. -/
def entries (fields : Fields α) : List (Field × α) :=
  [(.tcpInUse, fields.tcpInUse), (.tcpOrphans, fields.tcpOrphans),
    (.tcpTimeWait, fields.tcpTimeWait), (.tcpAllocated, fields.tcpAllocated),
    (.tcpPages, fields.tcpPages), (.udpInUse, fields.udpInUse)]
  ++ (fields.udpPages.map fun pages ↦ (Field.udpPages, pages)).toList
  ++ (fields.udpliteInUse.map fun inUse ↦ (Field.udpliteInUse, inUse)).toList
  ++ [(.rawInUse, fields.rawInUse), (.fragmentQueues, fields.fragmentQueues),
    (.fragmentMemory, fields.fragmentMemory)]

/-- Something holds of all entries when it holds of each value that is present. -/
theorem forall_mem_entries_iff {fields : Fields α} (property : Field → α → Prop) :
    (∀ entry ∈ fields.entries, property entry.1 entry.2) ↔
      property .tcpInUse fields.tcpInUse ∧ property .tcpOrphans fields.tcpOrphans ∧
      property .tcpTimeWait fields.tcpTimeWait ∧ property .tcpAllocated fields.tcpAllocated ∧
      property .tcpPages fields.tcpPages ∧ property .udpInUse fields.udpInUse ∧
      (∀ pages ∈ fields.udpPages, property .udpPages pages) ∧
      (∀ inUse ∈ fields.udpliteInUse, property .udpliteInUse inUse) ∧
      property .rawInUse fields.rawInUse ∧ property .fragmentQueues fields.fragmentQueues ∧
      property .fragmentMemory fields.fragmentMemory := by
  obtain ⟨_, _, _, _, _, _, pages, inUse, _, _, _⟩ := fields
  cases pages <;> cases inUse <;> simp [entries]

/-! ### Replacing the values -/

theorem map_map (f : α → β) (g : β → γ) (fields : Fields α) :
    (fields.map f).map g = fields.map fun value ↦ g (f value) := by
  simp [map, Function.comp_def]

theorem map_id (fields : Fields α) : fields.map (fun value ↦ value) = fields := by
  simp [map]

/-- Two replacements that agree on the values of the fields give the same. -/
theorem map_congr {f g : α → β} {fields : Fields α}
    (hall : ∀ entry ∈ fields.entries, f entry.2 = g entry.2) : fields.map f = fields.map g := by
  obtain ⟨h₁, h₂, h₃, h₄, h₅, h₆, hpages, hinUse, h₉, h₁₀, h₁₁⟩ :=
    (forall_mem_entries_iff fun _ value ↦ f value = g value).mp hall
  simp only [map, h₁, h₂, h₃, h₄, h₅, h₆, h₉, h₁₀, h₁₁, Option.map_congr hpages,
    Option.map_congr hinUse]

theorem entries_map (f : α → β) (fields : Fields α) :
    (fields.map f).entries = fields.entries.map fun entry ↦ (entry.1, f entry.2) := by
  obtain ⟨_, _, _, _, _, _, pages, inUse, _, _, _⟩ := fields
  cases pages <;> cases inUse <;> rfl

/-! ### Steps that may fail -/

/-- A step for each value is a step for each entry, in their order. -/
theorem entries_traverse (step : Field → α → Except ε β) (fields : Fields α) :
    entries <$> fields.traverse step =
      fields.entries.mapM fun entry ↦ Prod.mk entry.1 <$> step entry.1 entry.2 := by
  obtain ⟨_, _, _, _, _, _, pages, inUse, _, _, _⟩ := fields
  -- both sides are the same steps in a row, once the successes in between are left as they are
  cases pages <;> cases inUse <;> simp [traverse, entries, -pure_eq_ok]

/-- The fault of all steps is the one of the first entry whose step fails. -/
theorem traverse_eq_error_iff {step : Field → α → Except ε β} {fields : Fields α} {fault : ε} :
    fields.traverse step = .error fault ↔
      ∃ entry, IsFirst (fun entry ↦ ∃ fault, step entry.1 entry.2 = .error fault)
          fields.entries entry ∧ step entry.1 entry.2 = .error fault := by
  have herror {δ δ' : Type} (f : δ → δ') (outcome : Except ε δ) (fault : ε) :
      f <$> outcome = .error fault ↔ outcome = .error fault := by
    cases outcome <;> simp
  rw [← herror entries, entries_traverse, mapM_eq_error_iff]
  simp only [herror]

theorem mapM_option_eq_ok {step : α → Except ε β} {f : α → β} {value : Option α}
    (hall : ∀ present ∈ value, step present = .ok (f present)) :
    value.mapM step = .ok (value.map f) := by
  cases value with
  | none => rfl
  | some present => simp [hall present rfl]

/-- When every step succeeds, all values are replaced. -/
theorem traverse_eq_ok {step : Field → α → Except ε β} {f : α → β} {fields : Fields α}
    (hall : ∀ entry ∈ fields.entries, step entry.1 entry.2 = .ok (f entry.2)) :
    fields.traverse step = .ok (fields.map f) := by
  obtain ⟨h₁, h₂, h₃, h₄, h₅, h₆, hpages, hinUse, h₉, h₁₀, h₁₁⟩ :=
    (forall_mem_entries_iff fun field value ↦ step field value = .ok (f value)).mp hall
  simp only [traverse, h₁, h₂, h₃, h₄, h₅, h₆, mapM_option_eq_ok hpages,
    mapM_option_eq_ok hinUse, h₉, h₁₀, h₁₁]
  rfl

end SocketMetrics.Sockstat.Fields
