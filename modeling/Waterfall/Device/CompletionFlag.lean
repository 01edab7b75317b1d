/-! # Completion flags

A completion flag is the guard of a submission: it is reset before the submission, signaled when the
work is done, and waited for before its frame slot is used again. All holders share one flag.
-/

namespace Waterfall

/-- A flag that tells whether submitted work is done. -/
structure CompletionFlag where
  isSignaled : Bool
deriving DecidableEq, Repr, Inhabited

namespace CompletionFlag

/-- The work is done. -/
def signal (_ : CompletionFlag) : CompletionFlag := ⟨true⟩

/-- New work is about to be submitted. -/
def reset (_ : CompletionFlag) : CompletionFlag := ⟨false⟩

/-- Whether a wait finds the work done. `signaledMeanwhile` says whether the signal came while
waiting; without it the wait ends when its time is over. -/
def wait (flag : CompletionFlag) (signaledMeanwhile : Bool) : Bool :=
  flag.isSignaled || signaledMeanwhile

end CompletionFlag

end Waterfall
