import SocketMetrics.Config.Basic
/-!
The meaning of the values in a configuration file. A setting may be given once, under either of its
names, with a value that can be taken for what the setting needs or that says that there is none.
Names that mean no setting are passed over.
-/

set_option autoImplicit false
set_option relaxedAutoImplicit false

namespace SocketMetrics.Config

open Number

/-- The value given for a setting, which must not be given twice. -/
def given? (candidates : Candidates) (key : Key) : Option Candidate :=
  match candidates.filter fun (name, _) ↦ key.isNamed name with
  | [] => some .absent
  | [(_, candidate)] => some candidate
  | _ => none

/-- The value of a setting, if what is given can be taken for one or says that there is none. -/
def taken? {α : Type} (view : Candidate → Option α) (candidate : Candidate) : Option (Option α) :=
  if candidate.isAbsent then some none else (view candidate).map some

/-- The configuration that a file gives. -/
def ofCandidates? (candidates : Candidates) : Option Config := do
  let setting {α : Type} (view : Candidate → Option α) (key : Key) : Option (Option α) := do
    taken? view (← given? candidates key)
  return {
    interval := ← setting Candidate.number .interval
    sockstatPath := ← setting Candidate.path .sockstatPath
    netstatPath := ← setting Candidate.path .netstatPath
    user := ← setting Candidate.text .user
    logLevel := ← setting Candidate.text .logLevel
    pageSize := ← setting Candidate.count .pageSize }

end SocketMetrics.Config
