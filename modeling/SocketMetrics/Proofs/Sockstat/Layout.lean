import SocketMetrics.Proofs.Number.Count
import SocketMetrics.Proofs.Sockstat.Fields
import SocketMetrics.Sockstat.Layout
/-!
# Taking a summary off the beginning of a text

`IsSummary numerals text` says what a summary looks like: the layout with a numeral in each place.
No part of the layout leaves a choice. The words behind a numeral begin with no digit, so that the
numeral ends there, and the words of an optional part differ from those that stand there without it.
So a summary is found again whatever follows it, with its numerals and with what follows
(`split?_eq_some_iff`), and a text begins with at most one (`IsSummary.eq_of_append_eq`).
-/

set_option autoImplicit false
set_option relaxedAutoImplicit false

namespace SocketMetrics.Sockstat

open Number

/-- The text is a summary that shows the given numerals. -/
def IsSummary (numerals : Fields Text) (text : Text) : Prop :=
  ∃ used, isNumeral used = true ∧ (∀ entry ∈ numerals.entries, isNumeral entry.2 = true) ∧
    text = write used numerals

/-! ### Numerals between words -/

/-- The text begins with a character that is no digit, so that a numeral in front of it ends
there. -/
def endsNumeral (text : Text) : Bool :=
  text.head?.any fun c ↦ !c.isDigit

theorem endsNumeral_append {lead : Text} (hlead : endsNumeral lead = true) (rest : Text) :
    endsNumeral (lead ++ rest) = true := by
  cases lead with
  | nil => cases hlead
  | cons c lead => exact hlead

/-- A numeral is told apart from what ends it. -/
theorem spanDigits_append {numeral rest : Text} (hnumeral : isNumeral numeral = true)
    (hrest : endsNumeral rest = true) : spanDigits (numeral ++ rest) = (numeral, rest) := by
  refine Number.spanDigits_append (isNumeral_iff.mp hnumeral).2 fun c hc ↦ ?_
  rw [endsNumeral, Option.mem_def.mp hc] at hrest
  simpa using hrest

theorem numeralAfter?_append (words : String) {numeral rest : Text}
    (hnumeral : isNumeral numeral = true) (hrest : endsNumeral rest = true) :
    numeralAfter? words (words.toList ++ (numeral ++ rest)) = some (numeral, rest) := by
  have hafter : Text.after? words.toList (words.toList ++ (numeral ++ rest)) =
      some (numeral ++ rest) := Text.after?_eq_some_iff.mpr rfl
  have hsome := (isNumeral_iff.mp hnumeral).1
  simp [numeralAfter?, hafter, spanDigits_append hnumeral hrest, hsome]

/-- What is read as a numeral behind words is one. -/
theorem eq_append_of_numeralAfter? {words : String} {text numeral rest : Text}
    (hread : numeralAfter? words text = some (numeral, rest)) :
    text = words.toList ++ (numeral ++ rest) ∧ isNumeral numeral = true := by
  obtain ⟨behind, hbehind, hspan⟩ := Option.bind_eq_some_iff.mp hread
  dsimp only [spanDigits] at hspan
  split at hspan
  · cases hspan
  · next hsome =>
    simp only [Option.some.injEq, Prod.mk.injEq] at hspan
    obtain ⟨rfl, rfl⟩ := hspan
    refine ⟨?_, isNumeral_iff.mpr ⟨by simpa using hsome, fun c hc ↦ ?_⟩⟩
    · rw [List.takeWhile_append_dropWhile]
      exact Text.after?_eq_some_iff.mp hbehind
    · exact List.all_eq_true.mp List.all_takeWhile c hc

/-! ### Parts that may be missing -/

/-- A part of the summary that is there if its numeral is. -/
def optionalText (words ending : String) : Option Text → Text
  | none => []
  | some numeral => words.toList ++ (numeral ++ ending.toList)

theorem optionalNumeral?_append {words ending : String} {value : Option Text} {rest : Text}
    (hvalue : ∀ numeral ∈ value, isNumeral numeral = true)
    (hrest : endsNumeral (ending.toList ++ rest) = true)
    (hother : Text.after? words.toList rest = none) :
    optionalNumeral? words ending (optionalText words ending value ++ rest) =
      some (value, rest) := by
  unfold optionalNumeral?
  cases value with
  | none => simp [optionalText, hother]
  | some numeral =>
    have hlead : Text.after? words.toList (words.toList ++ (numeral ++ (ending.toList ++ rest))) =
        some (numeral ++ (ending.toList ++ rest)) := Text.after?_eq_some_iff.mpr rfl
    have hending : Text.after? ending.toList (ending.toList ++ rest) = some rest :=
      Text.after?_eq_some_iff.mpr rfl
    have hnumeral := numeralAfter?_append words (hvalue numeral rfl) hrest
    simp only [optionalText, List.append_assoc, hlead, hnumeral, hending, Option.bind_eq_bind,
      Option.bind_some]

/-- What is read as an optional part is one. -/
theorem eq_append_of_optionalNumeral? {words ending : String} {text rest : Text}
    {value : Option Text} (hread : optionalNumeral? words ending text = some (value, rest)) :
    text = optionalText words ending value ++ rest ∧
      ∀ numeral ∈ value, isNumeral numeral = true := by
  unfold optionalNumeral? at hread
  split at hread
  · simp only [Option.some.injEq, Prod.mk.injEq] at hread
    obtain ⟨rfl, rfl⟩ := hread
    exact ⟨rfl, by simp⟩
  · obtain ⟨⟨numeral, behind⟩, hnumeral, hread⟩ := Option.bind_eq_some_iff.mp hread
    obtain ⟨rest, hending, hdone⟩ := Option.bind_eq_some_iff.mp hread
    simp only [Option.some.injEq, Prod.mk.injEq] at hdone
    obtain ⟨rfl, rfl⟩ := hdone
    obtain ⟨rfl, hdigits⟩ := eq_append_of_numeralAfter? hnumeral
    obtain rfl := Text.after?_eq_some_iff.mp hending
    exact ⟨by simp [optionalText], by simpa using hdigits⟩

/-! ### The whole summary -/

/-- The layout with its optional parts as such. -/
theorem write_eq (used : Text) (numerals : Fields Text) :
    write used numerals =
      "sockets: used ".toList ++ used
        ++ "\nTCP: inuse ".toList ++ numerals.tcpInUse
        ++ " orphan ".toList ++ numerals.tcpOrphans
        ++ " tw ".toList ++ numerals.tcpTimeWait
        ++ " alloc ".toList ++ numerals.tcpAllocated
        ++ " mem ".toList ++ numerals.tcpPages
        ++ "\nUDP: inuse ".toList ++ numerals.udpInUse
        ++ optionalText " mem " "" numerals.udpPages
        ++ ['\n']
        ++ optionalText "UDPLITE: inuse " "\n" numerals.udpliteInUse
        ++ "RAW: inuse ".toList ++ numerals.rawInUse
        ++ "\nFRAG: inuse ".toList ++ numerals.fragmentQueues
        ++ " memory ".toList ++ numerals.fragmentMemory
        ++ ['\n'] := by
  have hempty : "".toList = [] := rfl
  have hlineFeed : "\n".toList = ['\n'] := rfl
  unfold write
  cases numerals.udpPages <;> cases numerals.udpliteInUse
  all_goals simp only [optionalText, hempty, hlineFeed, List.append_assoc, List.append_nil]

theorem bind_eq_some {α β : Type} {first : Option α} {found : α} {next : α → Option β}
    {result : β} (hfirst : first = some found) (hnext : next found = some result) :
    (first >>= next) = some result := by
  rw [hfirst]
  exact hnext

/-- A summary is found again, with its numerals and what follows it. -/
theorem split?_append {numerals : Fields Text} {summary : Text}
    (hsummary : IsSummary numerals summary) (rest : Text) :
    split? (summary ++ rest) = some (numerals, rest) := by
  obtain ⟨used, hused, hall, hwrite⟩ := hsummary
  obtain ⟨h₁, h₂, h₃, h₄, h₅, h₆, hpages, hinUse, h₉, h₁₀, h₁₁⟩ :=
    (Fields.forall_mem_entries_iff fun _ numeral ↦ isNumeral numeral = true).mp hall
  have hudp (rest : Text) :
      endsNumeral (optionalText " mem " "" numerals.udpPages ++ (['\n'] ++ rest)) = true := by
    cases numerals.udpPages
    · rfl
    · rfl
  rw [hwrite, write_eq]
  simp only [List.append_assoc]
  unfold split?
  refine bind_eq_some (numeralAfter?_append _ hused (endsNumeral_append (by decide) _)) ?_
  refine bind_eq_some (numeralAfter?_append _ h₁ (endsNumeral_append (by decide) _)) ?_
  refine bind_eq_some (numeralAfter?_append _ h₂ (endsNumeral_append (by decide) _)) ?_
  refine bind_eq_some (numeralAfter?_append _ h₃ (endsNumeral_append (by decide) _)) ?_
  refine bind_eq_some (numeralAfter?_append _ h₄ (endsNumeral_append (by decide) _)) ?_
  refine bind_eq_some (numeralAfter?_append _ h₅ (endsNumeral_append (by decide) _)) ?_
  refine bind_eq_some (numeralAfter?_append _ h₆ (hudp _)) ?_
  refine bind_eq_some (optionalNumeral?_append hpages rfl rfl) ?_
  refine bind_eq_some (Text.after?_eq_some_iff.mpr rfl) ?_
  refine bind_eq_some (optionalNumeral?_append hinUse rfl rfl) ?_
  refine bind_eq_some (numeralAfter?_append _ h₉ (endsNumeral_append (by decide) _)) ?_
  refine bind_eq_some (numeralAfter?_append _ h₁₀ (endsNumeral_append (by decide) _)) ?_
  refine bind_eq_some (numeralAfter?_append _ h₁₁ (endsNumeral_append (by decide) _)) ?_
  exact bind_eq_some (Text.after?_eq_some_iff.mpr rfl) rfl

/-- What is taken off the beginning of a text is a summary. -/
theorem exists_isSummary_of_split? {text rest : Text} {numerals : Fields Text}
    (hsplit : split? text = some (numerals, rest)) :
    ∃ summary, IsSummary numerals summary ∧ text = summary ++ rest := by
  unfold split? at hsplit
  obtain ⟨⟨used, text₁⟩, hread₁, hsplit₁⟩ := Option.bind_eq_some_iff.mp hsplit
  obtain ⟨⟨_, text₂⟩, hread₂, hsplit₂⟩ := Option.bind_eq_some_iff.mp hsplit₁
  obtain ⟨⟨_, text₃⟩, hread₃, hsplit₃⟩ := Option.bind_eq_some_iff.mp hsplit₂
  obtain ⟨⟨_, text₄⟩, hread₄, hsplit₄⟩ := Option.bind_eq_some_iff.mp hsplit₃
  obtain ⟨⟨_, text₅⟩, hread₅, hsplit₅⟩ := Option.bind_eq_some_iff.mp hsplit₄
  obtain ⟨⟨_, text₆⟩, hread₆, hsplit₆⟩ := Option.bind_eq_some_iff.mp hsplit₅
  obtain ⟨⟨_, text₇⟩, hread₇, hsplit₇⟩ := Option.bind_eq_some_iff.mp hsplit₆
  obtain ⟨⟨_, text₈⟩, hread₈, hsplit₈⟩ := Option.bind_eq_some_iff.mp hsplit₇
  obtain ⟨text₉, hread₉, hsplit₉⟩ := Option.bind_eq_some_iff.mp hsplit₈
  obtain ⟨⟨_, text₁₀⟩, hread₁₀, hsplit₁₀⟩ := Option.bind_eq_some_iff.mp hsplit₉
  obtain ⟨⟨_, text₁₁⟩, hread₁₁, hsplit₁₁⟩ := Option.bind_eq_some_iff.mp hsplit₁₀
  obtain ⟨⟨_, text₁₂⟩, hread₁₂, hsplit₁₂⟩ := Option.bind_eq_some_iff.mp hsplit₁₁
  obtain ⟨⟨_, text₁₃⟩, hread₁₃, hsplit₁₃⟩ := Option.bind_eq_some_iff.mp hsplit₁₂
  obtain ⟨text₁₄, hread₁₄, hsplit₁₄⟩ := Option.bind_eq_some_iff.mp hsplit₁₃
  simp only [Option.pure_def, Option.some.injEq, Prod.mk.injEq] at hsplit₁₄
  obtain ⟨rfl, rfl⟩ := hsplit₁₄
  obtain ⟨rfl, hused⟩ := eq_append_of_numeralAfter? hread₁
  obtain ⟨rfl, h₁⟩ := eq_append_of_numeralAfter? hread₂
  obtain ⟨rfl, h₂⟩ := eq_append_of_numeralAfter? hread₃
  obtain ⟨rfl, h₃⟩ := eq_append_of_numeralAfter? hread₄
  obtain ⟨rfl, h₄⟩ := eq_append_of_numeralAfter? hread₅
  obtain ⟨rfl, h₅⟩ := eq_append_of_numeralAfter? hread₆
  obtain ⟨rfl, h₆⟩ := eq_append_of_numeralAfter? hread₇
  obtain ⟨rfl, hpages⟩ := eq_append_of_optionalNumeral? hread₈
  obtain rfl := Text.after?_eq_some_iff.mp hread₉
  obtain ⟨rfl, hinUse⟩ := eq_append_of_optionalNumeral? hread₁₀
  obtain ⟨rfl, h₉⟩ := eq_append_of_numeralAfter? hread₁₁
  obtain ⟨rfl, h₁₀⟩ := eq_append_of_numeralAfter? hread₁₂
  obtain ⟨rfl, h₁₁⟩ := eq_append_of_numeralAfter? hread₁₃
  obtain rfl := Text.after?_eq_some_iff.mp hread₁₄
  refine ⟨write used _, ⟨used, hused, ?_, rfl⟩, ?_⟩
  · exact (Fields.forall_mem_entries_iff fun _ numeral ↦ isNumeral numeral = true).mpr
      ⟨h₁, h₂, h₃, h₄, h₅, h₆, hpages, hinUse, h₉, h₁₀, h₁₁⟩
  · simp only [write_eq, List.append_assoc]

/-- A summary is taken off a text when the text begins with it. -/
theorem split?_eq_some_iff {text rest : Text} {numerals : Fields Text} :
    split? text = some (numerals, rest) ↔
      ∃ summary, IsSummary numerals summary ∧ text = summary ++ rest := by
  constructor
  · exact exists_isSummary_of_split?
  · rintro ⟨summary, hsummary, rfl⟩
    exact split?_append hsummary rest

/-- No text begins with two summaries. -/
theorem IsSummary.eq_of_append_eq {numerals numerals' : Fields Text}
    {summary summary' rest rest' : Text} (hsummary : IsSummary numerals summary)
    (hsummary' : IsSummary numerals' summary') (hsame : summary ++ rest = summary' ++ rest') :
    numerals = numerals' ∧ summary = summary' ∧ rest = rest' := by
  have hsplit := split?_append hsummary rest
  rw [hsame, split?_append hsummary' rest', Option.some.injEq, Prod.mk.injEq] at hsplit
  obtain ⟨rfl, rfl⟩ := hsplit
  exact ⟨rfl, List.append_cancel_right hsame, rfl⟩

end SocketMetrics.Sockstat
