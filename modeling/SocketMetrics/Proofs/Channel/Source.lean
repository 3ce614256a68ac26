import SocketMetrics.Channel.Source
/-!
# Faults of a source

A source shows no content because rewinding or reading it fails, or because its bytes are no text
(`Version.fault?_of_content`). A source `FailsOnOneLine` when the text of the first kind of fault is
a single line; then so is the text of every fault that stands in the place of its content
(`Source.FailsOnOneLine.lineFeed_not_mem`).
-/

set_option autoImplicit false
set_option relaxedAutoImplicit false

namespace SocketMetrics.Channel

/-- The fault of rewinding to a version or of reading it, whichever comes first. -/
def Version.fault? (version : Version) : Option Fault :=
  version.rewindFault.or version.readFault

/-- The fault that a source raises when it is next read, if it raises one, has a text of a single
line. -/
def Source.FailsOnOneLine (source : Source) : Prop :=
  ∀ fault, source.rewind.current.fault? = some fault → '\n' ∉ fault.message

/-- The content is missing for a fault of the version or for bytes that are no text. -/
theorem Version.fault?_of_content {version : Version} {fault : Fault}
    (hcontent : version.content = .error fault) :
    version.fault? = some fault ∨ fault = .invalidUtf8 := by
  unfold content at hcontent
  unfold fault?
  cases hrewind : version.rewindFault with
  | some rewindFault =>
    rw [hrewind] at hcontent
    cases hcontent
    exact Or.inl rfl
  | none =>
    cases hread : version.readFault with
    | some readFault =>
      rw [hrewind, hread] at hcontent
      cases hcontent
      exact Or.inl rfl
    | none =>
      rw [hrewind, hread] at hcontent
      simp only at hcontent
      split at hcontent
      · cases hcontent
      · cases hcontent
        exact Or.inr rfl

theorem Source.FailsOnOneLine.lineFeed_not_mem {source : Source} {fault : Fault}
    (hsource : source.FailsOnOneLine) (hcontent : source.rewind.current.content = .error fault) :
    '\n' ∉ fault.message := by
  rcases Version.fault?_of_content hcontent with hfault | rfl
  · exact hsource fault hfault
  · decide +kernel

end SocketMetrics.Channel
