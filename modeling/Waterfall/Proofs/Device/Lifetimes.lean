import Waterfall.Proofs.Frame.Record

/-! # The lives of the surface's resources

The record of a device is a sequence of paragraphs: all resources are built, all are released, the
pipeline is replaced, or a surface is refused. Nothing else creates or releases a resource. From
this it follows for each single entry that it finds the resources as it needs them. The journal
tells the same, since it leaves out only calls that concern no resource.
-/

namespace Waterfall

namespace CallRecord

open Screen (pipelineCalls)

variable {calls added : List CallRecord} {live : ResourceKind → Nat} {scene : Scene}
  {extent : Extent} {count : Nat}

/-- The entries of a build. -/
def buildEntries (extent : Extent) (scene : Scene) (count : Nat) : List CallRecord :=
  [.accepted (.create (.surface extent)), .accepted (.create .images), .accepted (.create .depth),
    .accepted (.create .target), .accepted (.create (.pipeline scene)),
    .accepted (.create .framebuffers), .accepted (.create (.commands count)),
    .accepted (.recordScene scene)]

/-- The entries of a release. -/
def releaseEntries : List CallRecord :=
  [.accepted .waitIdle, .accepted (.discard .commands), .accepted (.discard .framebuffers),
    .accepted (.discard .pipeline), .accepted (.discard .target), .accepted (.discard .depth),
    .accepted (.discard .images), .accepted (.discard .surface)]

/-- Records in which resources are built together, while none is live, and released together, while
all are. -/
inductive Lifetimes : List CallRecord → Prop
  | start : Lifetimes []
  | other {calls : List CallRecord} {record : CallRecord} (before : Lifetimes calls)
      (keeps : record.keepsResources = true) : Lifetimes (calls ++ [record])
  | refused {calls : List CallRecord} (before : Lifetimes calls)
      (gone : ∀ kind, liveAfter kind calls = 0) (extent : Extent) :
      Lifetimes (calls ++ [.refusedSurface extent])
  | built {calls : List CallRecord} (before : Lifetimes calls)
      (gone : ∀ kind, liveAfter kind calls = 0) (extent : Extent) (scene : Scene) (count : Nat) :
      Lifetimes (calls ++ buildEntries extent scene count)
  | released {calls : List CallRecord} (before : Lifetimes calls)
      (live : ∀ kind, liveAfter kind calls = 1) : Lifetimes (calls ++ releaseEntries)
  | rescened {calls : List CallRecord} (before : Lifetimes calls)
      (live : ∀ kind, liveAfter kind calls = 1) (scene : Scene) :
      Lifetimes (calls ++ pipelineCalls scene)

theorem Lifetimes.append_keeps (before : Lifetimes calls)
    (keeps : ∀ record ∈ added, record.keepsResources = true) : Lifetimes (calls ++ added) := by
  induction added generalizing calls with
  | nil => rwa [List.append_nil]
  | cons record rest ih =>
    rw [List.append_cons]
    refine ih (.other before (keeps record List.mem_cons_self)) ?_
    exact fun other member => keeps other (List.mem_cons_of_mem _ member)

/-- What a call needs: a resource that it creates is not live, unless it is a pipeline, and one that
it releases is. -/
def Finds (live : ResourceKind → Nat) (record : CallRecord) : Prop :=
  match record.call with
  | .create creation =>
    record.refused = false → creation.kind ≠ .pipeline → live creation.kind = 0
  | .discard kind => 0 < live kind
  | _ => True

/-- From certain live resources on, every call finds what it needs. -/
def CarefulFrom (live : ResourceKind → Nat) : List CallRecord → Prop
  | [] => True
  | record :: rest =>
    Finds live record ∧ CarefulFrom (fun kind => countLive kind (live kind) record) rest

theorem carefulFrom_append :
    CarefulFrom live (calls ++ added) ↔
      CarefulFrom live calls ∧
        CarefulFrom (fun kind => calls.foldl (countLive kind) (live kind)) added := by
  induction calls generalizing live with
  | nil => simp [CarefulFrom]
  | cons record rest ih => simp only [List.cons_append, CarefulFrom, ih, List.foldl_cons, and_assoc]

theorem finds_of_keeps {record : CallRecord} (keeps : record.keepsResources = true) :
    Finds live record := by
  obtain ⟨call, refused⟩ := record
  cases call with
  | create creation => cases keeps
  | discard kind => cases keeps
  | _ => trivial

theorem carefulFrom_buildEntries (extent : Extent) (scene : Scene) (count : Nat) :
    CarefulFrom (fun _ => 0) (buildEntries extent scene count) := by
  simp [CarefulFrom, Finds, buildEntries, accepted, countLive, Creation.kind]

theorem carefulFrom_releaseEntries : CarefulFrom (fun _ => 1) releaseEntries := by
  simp [CarefulFrom, Finds, releaseEntries, accepted, countLive]

theorem carefulFrom_pipelineCalls (scene : Scene) :
    CarefulFrom (fun _ => 1) (pipelineCalls scene) := by
  simp [CarefulFrom, Finds, pipelineCalls, accepted, countLive, Creation.kind]

/-- Read from the start, every call finds what it needs. -/
theorem Lifetimes.careful (lifetimes : Lifetimes calls) : CarefulFrom (fun _ => 0) calls := by
  induction lifetimes with
  | start => trivial
  | other before keeps careful =>
    exact carefulFrom_append.mpr ⟨careful, finds_of_keeps keeps, trivial⟩
  | refused before gone extent careful =>
    refine carefulFrom_append.mpr ⟨careful, ?_, trivial⟩
    rintro ⟨⟩
  | @built calls before gone extent scene count careful =>
    refine carefulFrom_append.mpr ⟨careful, ?_⟩
    have none_live : (fun kind => calls.foldl (countLive kind) 0) = fun _ => 0 := funext gone
    rw [none_live]
    exact carefulFrom_buildEntries extent scene count
  | @released calls before live careful =>
    refine carefulFrom_append.mpr ⟨careful, ?_⟩
    have all_live : (fun kind => calls.foldl (countLive kind) 0) = fun _ => 1 := funext live
    rw [all_live]
    exact carefulFrom_releaseEntries
  | @rescened calls before live scene careful =>
    refine carefulFrom_append.mpr ⟨careful, ?_⟩
    have all_live : (fun kind => calls.foldl (countLive kind) 0) = fun _ => 1 := funext live
    rw [all_live]
    exact carefulFrom_pipelineCalls scene

/-- Whether a call asked for a surface and was refused. -/
def isRefusal (record : CallRecord) : Bool :=
  match record.call with
  | .create (.surface _) => record.refused
  | _ => false

theorem isRefusal_of_keeps {record : CallRecord} (keeps : record.keepsResources = true) :
    record.isRefusal = false := by
  obtain ⟨call, refused⟩ := record
  cases call with
  | create creation => cases keeps
  | _ => rfl

end CallRecord

namespace MemoryDevice

open CallRecord (Lifetimes liveAfter countLive)

variable {device after : MemoryDevice} {calls added : List CallRecord}

/-- Whether the journal tells about a call. -/
def isJournaled (record : CallRecord) : Bool := (journalText? record).isSome

/-- The calls that the journal tells about. -/
def entries (device : MemoryDevice) : List CallRecord := device.calls.filter isJournaled

theorem journal_eq (device : MemoryDevice) :
    device.journal = device.entries.filterMap journalText? := by
  rw [journal, entries, List.filterMap_filter]
  congr 1
  funext record
  rw [isJournaled]
  cases journalText? record <;> rfl

example (extent : Extent) (scene : Scene) (count : Nat) :
    (CallRecord.buildEntries extent scene count).filterMap journalText? =
      [s!"create surface {extent.text}", "create images", "create depth", "create target",
        "create pipeline " ++ scene.text "/", "create framebuffers", s!"create commands {count}",
        s!"record scene {scene.style.name}"] := rfl

example : CallRecord.releaseEntries.filterMap journalText? =
    ["wait idle", "drop commands", "drop framebuffers", "drop pipeline", "drop target",
      "drop depth", "drop images", "drop surface"] := rfl

theorem keeps_of_not_journaled {record : CallRecord} (silent : isJournaled record = false) :
    record.keepsResources = true := by
  obtain ⟨call, refused⟩ := record
  cases call with
  | create creation => cases silent
  | discard kind => cases silent
  | _ => rfl

/-- The calls that the journal leaves out change no count. -/
theorem liveAfter_filter (kind : ResourceKind) (calls : List CallRecord) :
    liveAfter kind (calls.filter isJournaled) = liveAfter kind calls := by
  unfold liveAfter
  generalize 0 = live
  induction calls generalizing live with
  | nil => rfl
  | cons record rest ih =>
    rw [List.filter_cons]
    split
    · exact ih _
    · rename_i silent
      have keeps : ∀ other ∈ [record], other.keepsResources = true := by
        simpa using keeps_of_not_journaled (Bool.eq_false_iff.mpr silent)
      have same : countLive kind live record = live :=
        CallRecord.foldl_countLive_of_keeps live keeps
      rw [List.foldl_cons, same]
      exact ih live

/-- The journal tells the same about the resources as the record. -/
theorem lifetimes_filter (lifetimes : Lifetimes calls) : Lifetimes (calls.filter isJournaled) := by
  have counted {calls : List CallRecord} {count : Nat}
      (live : ∀ kind, liveAfter kind calls = count) (kind : ResourceKind) :
      liveAfter kind (calls.filter isJournaled) = count := by
    rw [liveAfter_filter, live kind]
  induction lifetimes with
  | start => exact .start
  | @other calls record before keeps told =>
    rw [List.filter_append]
    refine told.append_keeps fun other member => ?_
    rw [List.mem_singleton.mp (List.mem_filter.mp member).1]
    exact keeps
  | refused before gone extent told =>
    rw [List.filter_append]
    exact told.refused (counted gone) extent
  | built before gone extent scene count told =>
    rw [List.filter_append]
    exact told.built (counted gone) extent scene count
  | released before live told =>
    rw [List.filter_append]
    exact told.released (counted live)
  | rescened before live scene told =>
    rw [List.filter_append]
    exact told.rescened (counted live) scene

/-- The number of surfaces that were refused. -/
def refusals (device : MemoryDevice) : Nat := device.calls.countP CallRecord.isRefusal

/-- The journal tells about every surface that was refused. -/
theorem countP_entries (device : MemoryDevice) :
    device.entries.countP CallRecord.isRefusal = device.refusals := by
  rw [entries, refusals, List.countP_filter]
  refine List.countP_congr fun record _ => ?_
  obtain ⟨call, refused⟩ := record
  cases call with
  | create creation => simp [isJournaled, journalText?]
  | _ => simp [CallRecord.isRefusal]

theorem refusals_append (calls : after.calls = device.calls ++ added) :
    after.refusals = device.refusals + added.countP CallRecord.isRefusal := by
  rw [refusals, calls, List.countP_append]
  rfl

end MemoryDevice

end Waterfall
