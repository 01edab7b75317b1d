import Waterfall.Device.Scripted
import Waterfall.Frame.Thread

/-! # Rehearsals

A rehearsal lets a render thread run on a scripted device until the device was asked for an image a
number of times. The log of a rehearsal ends with that request, because what comes after it depends
on when the thread is stopped; the log of a thread that never came so far is complete. A refused
request does not count, because the thread ends with it.
-/

namespace Waterfall

namespace CallRecord

/-- Whether a call asked for an image and was not refused. -/
def isAcquire (record : CallRecord) : Bool :=
  match record.call with
  | .acquire _ => !record.refused
  | _ => false

/-- The calls up to one that asked for an image, `more` such calls after the first, if there were so
many. -/
def upToAcquire (more : Nat) : List CallRecord → Option (List CallRecord)
  | [] => none
  | record :: rest =>
    if !record.isAcquire then (upToAcquire more rest).map (record :: ·)
    else
      match more with
      | 0 => some [record]
      | more + 1 => (upToAcquire more rest).map (record :: ·)

end CallRecord

/-- A thread after it was let run. -/
structure Rehearsal where
  thread : RenderThread ScriptedDevice
  /-- The calls up to the last request for an image, if it was made. -/
  reached : Option (List CallRecord)

namespace Rehearsal

/-- The most passes of a rehearsal. -/
def patience : Nat := 4096

/-- The passes that are enough for a number of requests, at least one of which is waited for. -/
def passCount (acquires : Nat) : Nat := min (max acquires 1) patience

/-- Let a thread run until the device was asked for an image `acquires` times, but at least once.
Its calls before `start` do not count. -/
def run (thread : RenderThread ScriptedDevice) (board : Board) (acquires start : Nat) :
    Rehearsal :=
  let thread := thread.steps ⟨0, board⟩ (passCount acquires)
  ⟨thread, CallRecord.upToAcquire (acquires - 1) (thread.loop.device.calls.drop start)⟩

/-- Whether the thread ended before the last request. -/
def endedAlone (rehearsal : Rehearsal) : Bool :=
  rehearsal.reached.isNone && rehearsal.thread.status.isFinished

/-- The log from `start` on as it is shown when `thread` is what became of the thread. -/
def log (rehearsal : Rehearsal) (thread : RenderThread ScriptedDevice) (start : Nat) :
    List String :=
  match rehearsal.reached with
  | some calls => calls.map ScriptedDevice.logText
  | none => thread.loop.device.logFrom start

end Rehearsal

end Waterfall
