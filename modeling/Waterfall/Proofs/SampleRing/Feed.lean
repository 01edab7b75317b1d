import Waterfall.Proofs.SampleRing.Stream

/-! # Feeding hop by hop

A feed first extracts a window that is already due. After that it goes from hop to hop: a block that
does not reach the next hop is pushed as it is, and a longer one completes the hop, gives one window
and goes on with its rest. From these two steps follow the number of windows a feed gives, what each
of them holds and how many fresh samples are left; and since the second of two feeds goes on where
the first one stopped, it does not matter how a stream is cut into blocks.
-/

namespace Waterfall

variable {α : Type}

/-- The windows that a block completes when it is appended to a stream of which `fresh` samples
were already counted: each ends right after the next multiple of `hop` counted samples. -/
def hopWindows (silence : α) (length hop fresh : Nat) (stream block : List α) : List (List α) :=
  (List.range ((fresh + block.length) / hop)).map fun index =>
    streamWindow silence length (stream ++ block.take ((index + 1) * hop - fresh))

theorem hopWindows_of_lt (silence : α) (length : Nat) {hop fresh : Nat} (stream : List α)
    {block : List α} (short : fresh + block.length < hop) :
    hopWindows silence length hop fresh stream block = [] := by
  rw [hopWindows, Nat.div_eq_of_lt short, List.range_zero, List.map_nil]

theorem hopWindows_of_le (silence : α) (length : Nat) {hop fresh : Nat} (stream : List α)
    {block : List α} (early : fresh < hop) (long : hop ≤ fresh + block.length) :
    hopWindows silence length hop fresh stream block =
      streamWindow silence length (stream ++ block.take (hop - fresh)) ::
        hopWindows silence length hop 0 (stream ++ block.take (hop - fresh))
          (block.drop (hop - fresh)) := by
  have count : (fresh + block.length) / hop =
      (0 + (block.drop (hop - fresh)).length) / hop + 1 := by
    have rest : fresh + block.length = (0 + (block.drop (hop - fresh)).length) + hop := by
      rw [List.length_drop]
      omega
    rw [rest, Nat.add_div_right _ (by omega)]
  rw [hopWindows, hopWindows, count, List.range_succ_eq_map, List.map_cons, List.map_map]
  congr 1
  · rw [Nat.zero_add, Nat.one_mul]
  · apply List.map_congr_left
    intro index _
    have later : (index + 1 + 1) * hop - fresh = (hop - fresh) + (index + 1) * hop := by
      rw [Nat.add_mul (index + 1) 1 hop]
      omega
    simp only [Function.comp_apply, later, List.take_add, Nat.sub_zero, List.append_assoc]

/-- The windows that a stream completes from its first sample on. -/
theorem hopWindows_start (silence : α) (length hop : Nat) (stream : List α) :
    hopWindows silence length hop 0 [] stream =
      (List.range (stream.length / hop)).map fun index =>
        streamWindow silence length (stream.take ((index + 1) * hop)) := by
  simp only [hopWindows, Nat.zero_add, Nat.sub_zero, List.nil_append]

namespace SampleRing

private theorem feed_nil (ring : SampleRing α) :
    ring.feed [] = (ring.extract?.1.toList, ring.extract?.2) := by
  rw [feed, if_pos rfl]

private theorem feed_of_ne_nil (ring : SampleRing α) {block : List α} (some : block ≠ []) :
    ring.feed block =
      let portion := min ring.extract?.2.samplesUntilWindow block.length
      let rest := (ring.extract?.2.push (block.take portion)).feed (block.drop portion)
      (ring.extract?.1.toList ++ rest.1, rest.2) := by
  rw [feed, if_neg some]

/-- What is already due comes out first, and the feed goes on as if it had been extracted before. -/
theorem feed_extract? (ring : SampleRing α) (block : List α) :
    ring.feed block = (ring.extract?.1.toList ++ (ring.extract?.2.feed block).1,
      (ring.extract?.2.feed block).2) := by
  by_cases empty : block = []
  · subst empty
    simp only [feed_nil, extract?_extract?, Option.toList_none, List.append_nil]
  · simp only [feed_of_ne_nil _ empty, extract?_extract?, Option.toList_none, List.nil_append]

/-- A push of nothing changes nothing. -/
theorem push_nil (ring : SampleRing α) : ring.push [] = ring := by
  apply eq_of_unrolled
  · rw [unrolled_push, List.append_nil, List.rtake, length_unrolled, Nat.sub_self, List.drop_zero]
  · rw [write_push, List.length_nil, Nat.zero_min, Nat.add_zero, capacity,
      Nat.mod_eq_of_lt ring.write_lt]
  · rfl
  · rfl
  · rfl

/-- A block that does not reach the next hop gives no window. -/
theorem feed_of_lt {ring : SampleRing α} {block : List α} (early : ring.fresh < ring.hop)
    (short : block.length < ring.samplesUntilWindow) :
    ring.feed block = ([], ring.push block) := by
  by_cases empty : block = []
  · rw [empty, feed_nil, extract?_of_lt early, push_nil]
    rfl
  · have pushed : (ring.push block).fresh < (ring.push block).hop := by
      rw [samplesUntilWindow] at short
      simp only [fresh_push, hop_push]
      omega
    rw [feed_of_ne_nil ring empty, extract?_of_lt early]
    simp only [Nat.min_eq_right (Nat.le_of_lt short), List.take_length, List.drop_length, feed_nil,
      extract?_of_lt pushed, Option.toList_none, List.append_nil]

/-- A block that reaches the next hop completes it, gives one window and goes on with its rest. -/
theorem feed_of_le {ring : SampleRing α} {block : List α} (early : ring.fresh < ring.hop)
    (long : ring.samplesUntilWindow ≤ block.length) :
    ring.feed block =
      let complete := ring.push (block.take ring.samplesUntilWindow)
      let rest := complete.consumed.feed (block.drop ring.samplesUntilWindow)
      (complete.newest :: rest.1, rest.2) := by
  have some : block ≠ [] := by
    rintro rfl
    rw [samplesUntilWindow, List.length_nil] at long
    omega
  have due : (ring.push (block.take ring.samplesUntilWindow)).hop ≤
      (ring.push (block.take ring.samplesUntilWindow)).fresh := by
    simp only [hop_push, fresh_push, List.length_take, Nat.min_eq_left long]
    rw [samplesUntilWindow]
    omega
  rw [feed_of_ne_nil ring some, extract?_of_lt early]
  simp only [Nat.min_eq_left long, Option.toList_none, List.nil_append]
  rw [feed_extract?, extract?_of_le due]
  rfl

/-- Induction from hop to hop over the block that a ring is fed. -/
theorem hop_induction
    {motive : (ring : SampleRing α) → (block : List α) → ring.fresh < ring.hop → Prop}
    (short : ∀ ring block early, block.length < ring.samplesUntilWindow → motive ring block early)
    (long : ∀ ring block early, ring.samplesUntilWindow ≤ block.length →
      motive (ring.push (block.take ring.samplesUntilWindow)).consumed
        (block.drop ring.samplesUntilWindow) ring.hop_pos → motive ring block early)
    (ring : SampleRing α) (block : List α) (early : ring.fresh < ring.hop) :
    motive ring block early := by
  induction length : block.length using Nat.strong_induction_on generalizing ring block with
  | h count ih =>
    obtain within | beyond := Nat.lt_or_ge block.length ring.samplesUntilWindow
    · exact short ring block early within
    · have shorter : (block.drop ring.samplesUntilWindow).length < count := by
        rw [List.length_drop]
        rw [samplesUntilWindow] at beyond ⊢
        omega
      exact long ring block early beyond (ih _ shorter _ _ ring.hop_pos rfl)

/-- The windows of a feed are the ends of the stream at the hop boundaries inside the block. -/
theorem samples_feed {silence : α} {stream : List α} {ring : SampleRing α}
    (holds : ring.Holds silence stream) (nonempty : 1 ≤ ring.windowLength)
    (early : ring.fresh < ring.hop) (block : List α) :
    (ring.feed block).1.map Window.samples =
      hopWindows silence ring.windowLength ring.hop ring.fresh stream block := by
  induction ring, block, early using hop_induction generalizing stream with
  | short ring block early short =>
    rw [feed_of_lt early short, List.map_nil, hopWindows_of_lt]
    rw [samplesUntilWindow] at short
    omega
  | long ring block early long ih =>
    have complete := holds.push (block.take ring.samplesUntilWindow)
    rw [feed_of_le early long]
    simp only [List.map_cons]
    rw [complete.samples_newest nonempty, ih complete.consumed nonempty,
      hopWindows_of_le silence ring.windowLength stream early]
    · rfl
    · rw [samplesUntilWindow] at long
      omega

/-- A feed leaves the counted samples that complete no hop. -/
theorem fresh_feed {ring : SampleRing α} (early : ring.fresh < ring.hop) (block : List α) :
    (ring.feed block).2.fresh = (ring.fresh + block.length) % ring.hop := by
  induction ring, block, early using hop_induction with
  | short ring block early short =>
    rw [samplesUntilWindow] at short
    rw [feed_of_lt early short, fresh_push, Nat.mod_eq_of_lt (by omega)]
  | long ring block early long ih =>
    have rest : ring.fresh + block.length =
        0 + (block.drop ring.samplesUntilWindow).length + ring.hop := by
      rw [samplesUntilWindow] at long
      rw [List.length_drop, samplesUntilWindow]
      omega
    rw [feed_of_le early long, rest, Nat.add_mod_right]
    exact ih

/-- What pushes and extractions preserve, with the stream as it grows, survives a feed. -/
theorem feed_preserves {motive : List α → SampleRing α → Prop}
    (push : ∀ stream ring block, motive stream ring → motive (stream ++ block) (ring.push block))
    (consumed : ∀ stream ring, motive stream ring → motive stream ring.consumed)
    (stream : List α) {ring : SampleRing α} (now : motive stream ring) (block : List α) :
    motive (stream ++ block) (ring.feed block).2 := by
  have ready : motive stream ring.extract?.2 := by
    obtain early | due := Nat.lt_or_ge ring.fresh ring.hop
    · rwa [extract?_of_lt early]
    · rw [extract?_of_le due]
      exact consumed stream ring now
  have early : ring.extract?.2.fresh < ring.extract?.2.hop := by
    rw [hop_extract?]
    exact ring.fresh_extract?_lt
  rw [feed_extract?]
  generalize ring.extract?.2 = start at ready early
  clear now
  induction start, block, early using hop_induction generalizing stream with
  | short start block early short =>
    rw [feed_of_lt early short]
    exact push stream start block ready
  | long start block early long ih =>
    have complete := push stream start (block.take start.samplesUntilWindow) ready
    have whole : stream ++ block = stream ++ block.take start.samplesUntilWindow ++
        block.drop start.samplesUntilWindow := by
      rw [List.append_assoc, List.take_append_drop]
    rw [feed_of_le early long, whole]
    exact ih _ (consumed _ _ complete)

theorem Holds.feed {silence : α} {stream : List α} {ring : SampleRing α}
    (holds : ring.Holds silence stream) (block : List α) :
    (ring.feed block).2.Holds silence (stream ++ block) :=
  feed_preserves (fun _ _ block holds => holds.push block) (fun _ _ holds => holds.consumed)
    stream holds block

theorem Stored.feed {ring : SampleRing α} (stored : ring.Stored) (block : List α) :
    (ring.feed block).2.Stored :=
  feed_preserves (motive := fun _ ring => ring.Stored)
    (fun _ _ block stored => stored.push block) (fun _ _ stored => stored.consumed) [] stored block

@[simp] theorem hop_feed (ring : SampleRing α) (block : List α) :
    (ring.feed block).2.hop = ring.hop :=
  feed_preserves (motive := fun _ next => next.hop = ring.hop)
    (fun _ _ _ same => same) (fun _ _ same => same) [] rfl block

@[simp] theorem windowLength_feed (ring : SampleRing α) (block : List α) :
    (ring.feed block).2.windowLength = ring.windowLength :=
  feed_preserves (motive := fun _ next => next.windowLength = ring.windowLength)
    (fun _ _ _ same => same) (fun _ _ same => same) [] rfl block

/-- The windows of a feed on any ring: first the one that is already due. -/
theorem samples_feed_any {silence : α} {stream : List α} {ring : SampleRing α}
    (holds : ring.Holds silence stream) (nonempty : 1 ≤ ring.windowLength) (block : List α) :
    (ring.feed block).1.map Window.samples =
      (if ring.hop ≤ ring.fresh then [streamWindow silence ring.windowLength stream] else []) ++
        hopWindows silence ring.windowLength ring.hop
          (if ring.hop ≤ ring.fresh then 0 else ring.fresh) stream block := by
  obtain early | due := Nat.lt_or_ge ring.fresh ring.hop
  · rw [if_neg (Nat.not_le.mpr early), if_neg (Nat.not_le.mpr early),
      samples_feed holds nonempty early, List.nil_append]
  · rw [if_pos due, if_pos due, feed_extract?, extract?_of_le due, List.map_append,
      samples_feed holds.consumed nonempty ring.hop_pos]
    simp only [Option.toList_some, List.map_cons, List.map_nil, holds.samples_newest nonempty,
      windowLength_consumed, hop_consumed, fresh_consumed]

/-- Every window of a feed has the full length. -/
theorem length_of_mem_feed {silence : α} {stream : List α} {ring : SampleRing α}
    (holds : ring.Holds silence stream) (nonempty : 1 ≤ ring.windowLength) (block : List α) :
    ∀ window ∈ (ring.feed block).1, window.length = ring.windowLength := by
  intro window member
  have samples := List.mem_map_of_mem (f := Window.samples) member
  rw [samples_feed_any holds nonempty, hopWindows] at samples
  rw [← Window.length_samples]
  obtain due | completed := List.mem_append.mp samples
  · split at due
    · rw [List.mem_singleton.mp due, length_streamWindow]
    · cases due
  · obtain ⟨index, _, samples_eq⟩ := List.mem_map.mp completed
    rw [← samples_eq, length_streamWindow]

theorem fresh_feed_any (ring : SampleRing α) (block : List α) : (ring.feed block).2.fresh =
    ((if ring.hop ≤ ring.fresh then 0 else ring.fresh) + block.length) % ring.hop := by
  obtain early | due := Nat.lt_or_ge ring.fresh ring.hop
  · rw [if_neg (Nat.not_le.mpr early), fresh_feed early]
  · rw [if_pos due, feed_extract?, extract?_of_le due, fresh_feed ring.hop_pos, hop_consumed,
      fresh_consumed]

/-- A block may be fed in one piece with what was already pushed towards the same hop. -/
private theorem feed_push {ring : SampleRing α} (stored : ring.Stored) {first : List α}
    (early : ring.fresh < ring.hop) (short : first.length < ring.samplesUntilWindow)
    (second : List α) : (ring.push first).feed second = ring.feed (first ++ second) := by
  have hop_le := stored.hop_le
  have pushedEarly : (ring.push first).fresh < (ring.push first).hop := by
    rw [samplesUntilWindow] at short
    rw [fresh_push, hop_push]
    omega
  have until_push : (ring.push first).samplesUntilWindow =
      ring.samplesUntilWindow - first.length := by
    simp only [samplesUntilWindow, hop_push, fresh_push]
    omega
  have length : (first ++ second).length = first.length + second.length := List.length_append
  obtain within | beyond := Nat.lt_or_ge (first ++ second).length ring.samplesUntilWindow
  · have fits : first.length + second.length ≤ ring.capacity := by
      rw [samplesUntilWindow] at within
      omega
    rw [feed_of_lt early within, feed_of_lt pushedEarly (by omega), push_push ring fits]
  · have taken : (first ++ second).take ring.samplesUntilWindow =
        first ++ second.take (ring.samplesUntilWindow - first.length) := by
      rw [List.take_append, List.take_of_length_le (Nat.le_of_lt short)]
    have dropped : (first ++ second).drop ring.samplesUntilWindow =
        second.drop (ring.samplesUntilWindow - first.length) := by
      rw [List.drop_append, List.drop_eq_nil_of_le (Nat.le_of_lt short), List.nil_append]
    have fits : first.length + (second.take (ring.samplesUntilWindow - first.length)).length ≤
        ring.capacity := by
      rw [List.length_take]
      rw [samplesUntilWindow] at short ⊢
      omega
    rw [feed_of_le early beyond, feed_of_le pushedEarly (by omega), until_push, push_push ring fits,
      taken, dropped]

/-- Feeding two blocks one after the other is feeding them as one. -/
theorem feed_append {ring : SampleRing α} (stored : ring.Stored) (first second : List α) :
    ring.feed (first ++ second) =
      ((ring.feed first).1 ++ ((ring.feed first).2.feed second).1,
        ((ring.feed first).2.feed second).2) := by
  have ready := stored.extract?
  have early : ring.extract?.2.fresh < ring.extract?.2.hop := by
    rw [hop_extract?]
    exact ring.fresh_extract?_lt
  suffices goesOn : ∀ start : SampleRing α, start.Stored → start.fresh < start.hop →
      start.feed (first ++ second) = ((start.feed first).1 ++ ((start.feed first).2.feed second).1,
        ((start.feed first).2.feed second).2) by
    rw [feed_extract?, goesOn _ ready early, feed_extract? ring first, List.append_assoc]
  intro start stored early
  induction start, first, early using hop_induction with
  | short start first early short =>
    rw [feed_of_lt early short, feed_push stored early short, List.nil_append]
  | long start first early long ih =>
    have beyond : start.samplesUntilWindow ≤ (first ++ second).length := by
      rw [List.length_append]
      omega
    rw [feed_of_le early beyond, feed_of_le early long, List.take_append_of_le_length long,
      List.drop_append_of_le_length long]
    dsimp only
    rw [ih (stored.push _).consumed, List.cons_append]

/-- Feeding blocks one after the other is feeding their concatenation. -/
theorem feedAll_cons {ring : SampleRing α} (stored : ring.Stored) (block : List α)
    (rest : List (List α)) : ring.feedAll (block :: rest) = ring.feed (block ++ rest.flatten) := by
  induction rest generalizing ring block with
  | nil => simp only [feedAll, List.flatten_nil, List.append_nil]
  | cons next rest ih =>
    rw [List.flatten_cons, feed_append stored, ← ih (stored.feed block) next]
    rfl

theorem Stored.feedAll {ring : SampleRing α} (stored : ring.Stored) (blocks : List (List α)) :
    (ring.feedAll blocks).2.Stored := by
  induction blocks generalizing ring with
  | nil => exact stored
  | cons block rest ih => exact ih (stored.feed block)

/-- The windows of blocks are those of the stream that the blocks are cut from. -/
theorem samples_feedAll {silence : α} {stream : List α} {ring : SampleRing α}
    (stored : ring.Stored) (holds : ring.Holds silence stream) (nonempty : 1 ≤ ring.windowLength)
    (early : ring.fresh < ring.hop) (blocks : List (List α)) :
    (ring.feedAll blocks).1.map Window.samples =
      hopWindows silence ring.windowLength ring.hop ring.fresh stream blocks.flatten := by
  cases blocks with
  | nil => exact (hopWindows_of_lt silence _ stream early).symm
  | cons block rest =>
    rw [feedAll_cons stored, samples_feed holds nonempty early, List.flatten_cons]

/-- Two ways to cut a stream give the same windows and leave the same ring, unless a window is
already due and only one of the two ways has a block at all. -/
theorem feedAll_eq_iff {ring : SampleRing α} (stored : ring.Stored) {first second : List (List α)}
    (same : first.flatten = second.flatten) :
    ring.feedAll first = ring.feedAll second ↔
      ring.fresh < ring.hop ∨ (first = [] ↔ second = []) := by
  have due_differs : ∀ (block : List α) (rest : List (List α)), ring.hop ≤ ring.fresh →
      ring.feedAll [] ≠ ring.feedAll (block :: rest) := by
    intro block rest due equal
    rw [feedAll_cons stored, feed_extract?, extract?_of_le due] at equal
    have windows := congrArg Prod.fst equal
    simp [feedAll] at windows
  have early_agrees : ∀ (block : List α) (rest : List (List α)), ring.fresh < ring.hop →
      (block :: rest).flatten = [] → ring.feedAll [] = ring.feedAll (block :: rest) := by
    intro block rest early empty
    rw [feedAll_cons stored, ← List.flatten_cons, empty, feed_nil, extract?_of_lt early]
    rfl
  cases first with
  | nil =>
    cases second with
    | nil => simp
    | cons block rest =>
      obtain early | due := Nat.lt_or_ge ring.fresh ring.hop
      · simp [early, early_agrees block rest early same.symm]
      · simp [Nat.not_lt.mpr due, due_differs block rest due]
  | cons block rest =>
    cases second with
    | nil =>
      obtain early | due := Nat.lt_or_ge ring.fresh ring.hop
      · simp [early, early_agrees block rest early same]
      · simp [Nat.not_lt.mpr due, (due_differs block rest due).symm]
    | cons other others =>
      rw [feedAll_cons stored, feedAll_cons stored, ← List.flatten_cons, ← List.flatten_cons, same]
      simp

end SampleRing

end Waterfall
