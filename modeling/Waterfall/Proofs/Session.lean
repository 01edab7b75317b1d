import Waterfall.Analysis.Session
import Waterfall.Proofs.History.Replay
import Waterfall.Proofs.Mailbox.Offers
import Waterfall.Proofs.Row
import Waterfall.Proofs.SampleRing.Feed

/-! # A consumer that keeps up

An eager session takes every window out of the mailbox before the next one is offered. Its slot is
then empty and its pool full at every offer, so no window is refused, replaced or dropped, and each
one becomes a row of the history. Every part calculates its lengths from the settings on its own,
and all of them agree, so nothing on the way from the samples to the rows is a breach.
-/

namespace Waterfall

namespace AnalysisConfig

/-- The bytes of the buffers that a session is made with: the points of the history, the cells of
the ring, the slot and the pool of the mailbox with all its windows, and of the pipeline the taper,
the tapered window, the values of the transform, the bins and the row. What a transform needs for
itself, such as its factors, is not counted. -/
def bufferBytes (config : AnalysisConfig) : Nat :=
  config.layout.rows * config.layout.rowLength * History.pointBytes +
    Overlap.ringCapacity config.windowLength config.overlap * Word.sampleBytes +
    (Mailbox.placeBytes + Mailbox.poolBytes config.windowLength config.spareWindows) +
    (config.windowLength * Word.sampleBytes + config.windowLength * Word.sampleBytes) +
    (config.windowLength * Bin.bytes + config.bins * Bin.bytes + config.bins * History.pointBytes)

theorem Valid.rows_pos {config : AnalysisConfig} (valid : config.Valid) : 0 < config.layout.rows :=
  valid.historyRows_pos

end AnalysisConfig

namespace Mailbox

variable {α : Type} {windowLength : Nat} {mailbox : Mailbox α}

/-- Nothing waits in the slot, every buffer is in the pool, and no window was lost so far. -/
structure Idle (windowLength : Nat) (mailbox : Mailbox α) : Prop where
  latest_eq : mailbox.latest = none
  length_spare : mailbox.spare.length = mailbox.room
  room_pos : 0 < mailbox.room
  length_buffer : ∀ buffer ∈ mailbox.spare, buffer.length = windowLength
  none_dropped : mailbox.dropped = 0

theorem idle_create (silence : α) (windowLength spareWindows : Nat) :
    (create silence windowLength spareWindows).Idle windowLength where
  latest_eq := rfl
  length_spare := List.length_replicate
  room_pos := room_create_pos silence windowLength spareWindows
  length_buffer := by
    intro buffer member
    rw [List.eq_of_mem_replicate member, List.length_replicate]
  none_dropped := rfl

/-- A window goes through an idle mailbox whole, and leaves it idle when its buffer is returned. -/
theorem Idle.passOn (idle : mailbox.Idle windowLength) {window : Window α}
    (fits : window.length = windowLength) :
    ∃ offered, mailbox.offer window = .ok (true, offered) ∧
      offered.take.1 = some window.samples ∧
      (offered.take.2.recycle window.samples).Idle windowLength := by
  obtain ⟨buffer, rest, spare_eq⟩ : ∃ buffer rest, mailbox.spare = buffer :: rest :=
    List.exists_cons_of_length_pos (idle.length_spare.symm ▸ idle.room_pos)
  have room : rest.length + 1 = mailbox.room := by
    rw [← idle.length_spare, spare_eq, List.length_cons]
  have buffers : ∀ spare ∈ rest, spare.length = windowLength := fun spare member =>
    idle.length_buffer spare (spare_eq ▸ List.mem_cons_of_mem _ member)
  have same : window.length = buffer.length :=
    fits.trans (idle.length_buffer buffer (spare_eq ▸ List.mem_cons_self)).symm
  refine ⟨_, offer_of_cons spare_eq same (by omega), rfl, ?_⟩
  simp only [take, idle.latest_eq, Option.toList_none, List.append_nil, List.length_nil,
    Nat.add_zero]
  constructor
  · rw [latest_recycle]
  · rw [spare_recycle _ (by dsimp only; omega), room_recycle, List.length_append,
      List.length_singleton]
    exact room
  · rw [room_recycle]
    exact idle.room_pos
  · rw [spare_recycle _ (by dsimp only; omega)]
    intro spare member
    obtain kept | returned := List.mem_append.mp member
    · exact buffers spare kept
    · rw [List.mem_singleton.mp returned, Window.length_samples, fits]
  · rw [dropped_recycle]
    exact idle.none_dropped

end Mailbox

namespace Session

variable {config : AnalysisConfig} {spectrum : Array Bin → Array Bin} {scale : Scale}

/-- A fresh session with the given settings and transform. -/
def createWith (spectrum : Array Bin → Array Bin) (config : AnalysisConfig) (scale : Scale) :
    Except Breach Session := do
  return {
    board := ← Board.create config.layout scale
    ring := ← SampleRing.allocate 0 config.windowLength config.overlap
    mailbox := ← Mailbox.allocate 0 config.windowLength config.spareWindows
    pipeline := ← Pipeline.ofSpectrum spectrum config }

theorem createWith_transform (config : AnalysisConfig) (scale : Scale) :
    createWith Fourier.transform config scale = create config scale := by
  rw [createWith, Pipeline.ofSpectrum_transform, create]

/-- The session of accepted settings before the first sample. -/
def fresh (valid : config.Valid) (spectrum : Array Bin → Array Bin) (scale : Scale) : Session where
  board := ⟨History.create Point.origin config.layout valid.rows_pos, scale⟩
  ring := SampleRing.create 0 config.windowLength config.overlap
  mailbox := Mailbox.create 0 config.windowLength config.spareWindows
  pipeline := Pipeline.fresh spectrum config

/-- Accepted settings have a session if there is memory for all its buffers together. -/
theorem createWith_of_bufferBytes_lt (valid : config.Valid)
    (granted : config.bufferBytes < Word.addressLimit) (spectrum : Array Bin → Array Bin)
    (scale : Scale) : createWith spectrum config scale = .ok (fresh valid spectrum scale) := by
  have address_le : Word.addressLimit ≤ Word.storageLimit := by decide
  rw [AnalysisConfig.bufferBytes] at granted
  have history :
      config.layout.rows * config.layout.rowLength * History.pointBytes < Word.storageLimit := by
    omega
  have ring : Overlap.ringCapacity config.windowLength config.overlap * Word.sampleBytes <
      Word.storageLimit := by
    omega
  have pool : Mailbox.poolBytes config.windowLength config.spareWindows < Word.addressLimit := by
    omega
  have transform : config.windowLength * Bin.bytes < Word.storageLimit := by
    omega
  rw [createWith, Board.create, History.allocate_eq _ valid.rows_pos (Nat.succ_pos _),
    if_pos history, SampleRing.allocate_of_lt _ ring,
    Mailbox.allocate_of_poolBytes_lt _ pool, Pipeline.ofSpectrum_eq spectrum valid,
    if_pos transform]
  rfl

/-- Every session of accepted settings starts alike, with its history and its ring stored. -/
theorem eq_fresh_of_createWith (valid : config.Valid) {session : Session}
    (created : createWith spectrum config scale = .ok session) :
    session = fresh valid spectrum scale ∧ session.board.history.Stored ∧ session.ring.Stored := by
  obtain ⟨board, board_made, created⟩ := bind_eq_ok.mp created
  obtain ⟨ring, ring_allocated, created⟩ := bind_eq_ok.mp created
  obtain ⟨mailbox, mailbox_allocated, created⟩ := bind_eq_ok.mp created
  obtain ⟨pipeline, pipeline_made, created⟩ := bind_eq_ok.mp created
  cases created
  rw [Board.create, History.allocate_eq _ valid.rows_pos (Nat.succ_pos _)] at board_made
  rw [Pipeline.ofSpectrum_eq spectrum valid] at pipeline_made
  obtain ⟨rfl, ring_stored⟩ := SampleRing.stored_of_allocate ring_allocated
  obtain rfl := Mailbox.eq_create_of_allocate mailbox_allocated
  split at board_made
  case isFalse => cases board_made
  case isTrue points_fit =>
    cases board_made
    split at pipeline_made
    case isFalse => cases pipeline_made
    case isTrue =>
      cases pipeline_made
      exact ⟨rfl, ⟨Nat.succ_pos _, points_fit⟩, ring_stored⟩

/-- Without a mailbox there is no session, though there be a history and a ring. -/
theorem createWith_of_no_mailbox {history : History Point} {ring : SampleRing Float32}
    {cause : Breach} (spectrum : Array Bin → Array Bin) (scale : Scale)
    (history_allocated : History.allocate Point.origin config.layout = .ok history)
    (ring_allocated : SampleRing.allocate 0 config.windowLength config.overlap = .ok ring)
    (refused : Mailbox.allocate (0 : Float32) config.windowLength config.spareWindows =
      .error cause) :
    createWith spectrum config scale = .error cause := by
  rw [createWith, Board.create, history_allocated, ring_allocated, refused]
  rfl

/-- The consumer kept up so far: nothing waits for it, and each of the accepted windows became one
of `rows`. -/
structure KeptUp (valid : config.Valid) (spectrum : Array Bin → Array Bin) (scale : Scale)
    (rows : List (List Point)) (session : Session) : Prop where
  follows : session.pipeline.Follows config spectrum
  idle : session.mailbox.Idle config.windowLength
  scale_eq : session.board.scale = scale
  replayed : (History.create Point.origin config.layout valid.rows_pos).replay rows =
    (rows.map fun _ => .ok (), session.board.history)
  accepted_eq : session.accepted = rows.length
  published_eq : session.published = rows.length

theorem keptUp_fresh (valid : config.Valid) (spectrum : Array Bin → Array Bin) (scale : Scale) :
    (fresh valid spectrum scale).KeptUp valid spectrum scale [] where
  follows := ⟨rfl, rfl, List.length_replicate⟩
  idle := Mailbox.idle_create 0 config.windowLength config.spareWindows
  scale_eq := rfl
  replayed := rfl
  accepted_eq := rfl
  published_eq := rfl

variable {valid : config.Valid} {rows : List (List Point)} {session : Session}

/-- Every row was accepted by the history, so it shows them all. -/
theorem KeptUp.shows (kept : session.KeptUp valid spectrum scale rows) :
    session.board.history.layout = config.layout ∧
      session.board.history.Shows Point.origin rows := by
  obtain ⟨verdicts, layout, shows⟩ :=
    (History.shows_create Point.origin config.layout valid.rows_pos).replay rows
  rw [kept.replayed] at verdicts layout shows
  have whole : History.accepted config.layout rows = rows := by
    refine List.filter_eq_self.mpr ?_
    intro row member
    have accepted : Except.ok () = History.verdict config.layout row :=
      List.map_inj_left.mp verdicts row member
    rw [History.verdict] at accepted
    split at accepted
    · simpa
    · cases accepted
  dsimp only [History.create] at shows
  rw [whole, List.nil_append] at shows
  exact ⟨layout, shows⟩

theorem KeptUp.rows_eq (kept : session.KeptUp valid spectrum scale rows) :
    session.board.history.rows = rows.rtake (min rows.length config.historyRows) := by
  obtain ⟨layout, shows⟩ := kept.shows
  rw [shows.rows_eq, layout]
  rfl

theorem KeptUp.stored (kept : session.KeptUp valid spectrum scale rows)
    (stored : (fresh valid spectrum scale).board.history.Stored) :
    session.board.history.Stored := by
  refine ⟨?_, ?_⟩
  · rw [kept.shows.1]
    exact stored.rowLength_pos
  · rw [kept.shows.1]
    exact stored.points_fit

/-- The guarded history takes the same rows, and none of its accesses is a breach. -/
theorem KeptUp.replay_state (kept : session.KeptUp valid spectrum scale rows)
    (stored : (fresh valid spectrum scale).board.history.Stored) :
    (fresh valid spectrum scale).board.history.state.replay rows =
      .ok (rows.map fun _ => .ok (), session.board.history.state) := by
  rw [HistoryState.replay_state stored]
  exact congrArg (fun outcome => Except.ok (outcome.1, outcome.2.state)) kept.replayed

/-- One window is accepted, taken and published before the next one. -/
theorem KeptUp.passOn (sized : Transform.KeepsSize spectrum config.windowLength)
    (kept : session.KeptUp valid spectrum scale rows) {window : Window Float32}
    (fits : window.length = config.windowLength) :
    ∃ offered after, session.offer window = .ok offered ∧ offered.consume = .ok after ∧
      after.ring = session.ring ∧
      after.KeptUp valid spectrum scale
        (rows ++ [config.rowOf spectrum scale window.samples]) := by
  have whole : window.samples.length = config.windowLength := by rw [Window.length_samples, fits]
  have length : (config.rowOf spectrum scale window.samples).length =
      session.board.history.layout.rowLength := by
    rw [kept.shows.1, AnalysisConfig.length_rowOf valid sized scale whole]
  obtain ⟨mailbox, offered, taken, idle⟩ := kept.idle.passOn fits
  obtain ⟨history, pushed, _⟩ := History.push_of_eq length
  have processed := kept.follows.process valid sized whole (kept.scale_eq ▸ pushed)
  have taken_out : mailbox.take = (some window.samples, mailbox.take.2) := Prod.ext taken rfl
  refine ⟨{ session with mailbox, accepted := session.accepted + 1 },
    { session with
      mailbox := mailbox.take.2.recycle window.samples
      pipeline := { session.pipeline with bins := config.binsOf spectrum window.samples }
      board := { session.board with history }
      accepted := session.accepted + 1
      published := session.published + 1 }, ?_, ?_, rfl, ?_, idle, kept.scale_eq, ?_, ?_, ?_⟩
  · rw [offer, offered]
    rfl
  · rw [consume]
    dsimp only
    rw [taken_out]
    dsimp only
    rw [processed]
    rfl
  · exact ⟨kept.follows.table_eq, kept.follows.transform_eq,
      AnalysisConfig.length_binsOf valid sized whole⟩
  · rw [History.replay_concat, kept.replayed, History.perform, pushed, List.map_append]
    rfl
  · rw [kept.accepted_eq, List.length_append, List.length_singleton]
  · rw [kept.published_eq, List.length_append, List.length_singleton]

/-- An eager session turns windows into rows one after the other. -/
theorem KeptUp.offerAll (sized : Transform.KeepsSize spectrum config.windowLength)
    (kept : session.KeptUp valid spectrum scale rows) {windows : List (Window Float32)}
    (fit : ∀ window ∈ windows, window.length = config.windowLength) :
    ∃ after, session.offerAll true windows = .ok after ∧ after.ring = session.ring ∧
      after.KeptUp valid spectrum scale
        (rows ++ (windows.map Window.samples).map (config.rowOf spectrum scale)) := by
  induction windows generalizing session rows with
  | nil => exact ⟨session, rfl, rfl, (List.append_nil rows).symm ▸ kept⟩
  | cons window rest ih =>
    obtain ⟨fits, fit⟩ := List.forall_mem_cons.mp fit
    obtain ⟨offered, next, accepted, consumed, ring, kept⟩ := kept.passOn sized fits
    obtain ⟨after, offered_all, same, kept⟩ := ih kept fit
    refine ⟨after, ?_, same.trans ring, ?_⟩
    · rw [Session.offerAll, accepted, ok_bind, if_pos rfl, consumed, ok_bind]
      exact offered_all
    · rwa [List.map_cons, List.map_cons, List.append_cons]

/-- The consumer has nothing left to do after a block, since it took every window before. -/
theorem KeptUp.consume (kept : session.KeptUp valid spectrum scale rows) :
    session.consume = .ok session := by
  rw [Session.consume, Mailbox.take, kept.idle.latest_eq]
  rfl

/-- A block becomes the rows of the windows it completes. -/
theorem KeptUp.feed (sized : Transform.KeepsSize spectrum config.windowLength)
    (kept : session.KeptUp valid spectrum scale rows) {block : List Float32}
    (fit : ∀ window ∈ (session.ring.feed block).1, window.length = config.windowLength) :
    ∃ after, session.feed true block = .ok after ∧ after.ring = (session.ring.feed block).2 ∧
      after.KeptUp valid spectrum scale
        (rows ++ ((session.ring.feed block).1.map Window.samples).map
          (config.rowOf spectrum scale)) := by
  have ready : { session with ring := (session.ring.feed block).2 }.KeptUp valid spectrum scale
      rows := ⟨kept.follows, kept.idle, kept.scale_eq, kept.replayed, kept.accepted_eq,
    kept.published_eq⟩
  obtain ⟨after, offered, ring, kept⟩ := ready.offerAll sized fit
  refine ⟨after, ?_, ring, kept⟩
  rw [Session.feed]
  dsimp only
  rw [offered, ok_bind, kept.consume]

/-- Feed blocks one after the other. -/
def feedAll (eager : Bool) (session : Session) : List (List Float32) → Except Breach Session
  | [] => return session
  | block :: rest => do feedAll eager (← session.feed eager block) rest

/-- Blocks become the rows of the windows they complete. -/
theorem KeptUp.feedAll (sized : Transform.KeepsSize spectrum config.windowLength)
    (kept : session.KeptUp valid spectrum scale rows) {stream : List Float32}
    (holds : session.ring.Holds 0 stream)
    (full : session.ring.windowLength = config.windowLength) (blocks : List (List Float32)) :
    ∃ after, session.feedAll true blocks = .ok after ∧
      after.ring = (session.ring.feedAll blocks).2 ∧
      after.KeptUp valid spectrum scale
        (rows ++ ((session.ring.feedAll blocks).1.map Window.samples).map
          (config.rowOf spectrum scale)) := by
  induction blocks generalizing session rows stream with
  | nil => exact ⟨session, rfl, rfl, (List.append_nil rows).symm ▸ kept⟩
  | cons block rest ih =>
    have nonempty : 1 ≤ session.ring.windowLength :=
      full ▸ Nat.le_of_succ_le valid.two_le_windowLength
    obtain ⟨next, fed, ring, kept⟩ := kept.feed sized fun window member =>
      (SampleRing.length_of_mem_feed holds nonempty block window member).trans full
    have full_next : next.ring.windowLength = config.windowLength := by
      rw [ring, SampleRing.windowLength_feed, full]
    obtain ⟨after, fed_all, same, kept⟩ := ih kept (ring ▸ holds.feed block) full_next
    refine ⟨after, ?_, ?_, ?_⟩
    · rw [Session.feedAll, fed, ok_bind]
      exact fed_all
    · rw [same, ring]
      rfl
    · rw [ring, List.append_assoc, ← List.map_append, ← List.map_append] at kept
      exact kept

/-- Whatever samples arrive, and however they are cut into blocks, a session whose consumer keeps up
takes every window, drops none, and shows the rows of the newest ones: each row is made from its own
window, and the windows end at the multiples of the hop. No part meets a breach on the way: the
ring's guarded feed goes on after any blocks, and the guarded history accepts every row and shows
the newest. The checks on the settings do not ensure that there is memory for a session; there is
one if all its buffers together can be addressed. -/
theorem newest_rows_of_blocks {config : AnalysisConfig} (accepted : config.validate = .ok ())
    {spectrum : Array Bin → Array Bin}
    (sized : Transform.KeepsSize spectrum config.windowLength)
    (scale : Scale) (blocks : List (List Float32)) :
    (config.bufferBytes < Word.addressLimit →
      ∃ session, createWith spectrum config scale = .ok session) ∧
    ∀ session, createWith spectrum config scale = .ok session →
      ∃ after, session.feedAll true blocks = .ok after ∧
      let count := blocks.flatten.length / config.hop
      let windows := (List.range count).map fun index =>
        streamWindow 0 config.windowLength (blocks.flatten.take ((index + 1) * config.hop))
      let rows := windows.map (config.rowOf spectrum scale)
      after.accepted = count ∧ after.published = count ∧ after.mailbox.dropped = 0 ∧
      after.board.history.rows = rows.rtake (min count config.historyRows) ∧
      (∀ block, after.ring.state.feed (block.length + 1) block =
        .ok (some ((after.ring.feed block).1, (after.ring.feed block).2.state))) ∧
      session.board.history.state.replay rows =
        .ok (rows.map fun _ => .ok (), after.board.history.state) ∧
      after.board.history.state.rows = .ok after.board.history.rows := by
  have valid := config.validate_eq_ok_iff.mp accepted
  refine ⟨fun granted => ⟨_, createWith_of_bufferBytes_lt valid granted spectrum scale⟩, ?_⟩
  intro session created
  obtain ⟨rfl, history_stored, ring_stored⟩ := eq_fresh_of_createWith valid created
  have silent := SampleRing.holds_create (0 : Float32) config.windowLength config.overlap
  obtain ⟨after, fed, ring, kept⟩ :=
    (keptUp_fresh valid spectrum scale).feedAll sized silent rfl blocks
  have fed_windows : ((fresh valid spectrum scale).ring.feedAll blocks).1.map Window.samples =
      hopWindows 0 config.windowLength config.hop 0 [] blocks.flatten :=
    SampleRing.samples_feedAll ring_stored silent (Nat.le_of_succ_le valid.two_le_windowLength)
      (SampleRing.hop_pos _) blocks
  rw [fed_windows, hopWindows_start, List.nil_append] at kept
  refine ⟨after, fed, ?_⟩
  intro count windows rows
  have length_rows : rows.length = count := by
    rw [List.length_map, List.length_map, List.length_range]
  refine ⟨?_, ?_, kept.idle.none_dropped, ?_, ?_, kept.replay_state history_stored,
    HistoryState.rows_state (kept.stored history_stored)⟩
  · rw [kept.accepted_eq, length_rows]
  · rw [kept.published_eq, length_rows]
  · rw [kept.rows_eq, length_rows]
  · intro block
    have stored_after : after.ring.Stored := ring ▸ ring_stored.feedAll blocks
    exact RingState.feed_state stored_after (Nat.lt_succ_self _)

/-- Five samples in three blocks complete two windows of four that share two; a history of one row
shows the second. -/
theorem newest_row_of_three_blocks :
    AnalysisConfig.validate { windowLength := 4, historyRows := 1 } = .ok () ∧
      AnalysisConfig.bufferBytes { windowLength := 4, historyRows := 1 } < Word.addressLimit ∧
      Transform.KeepsSize Fourier.transform 4 ∧
      ∃ session after,
        create { windowLength := 4, historyRows := 1 } .logarithmic = .ok session ∧
        session.feedAll true [[1, 2], [], [3, 4, 5]] = .ok after ∧
        after.accepted = 2 ∧ after.published = 2 ∧ after.mailbox.dropped = 0 ∧
        after.board.history.rows =
          [AnalysisConfig.rowOf { windowLength := 4, historyRows := 1 } Fourier.transform
            .logarithmic [1, 2, 3, 4]] := by
  have accepted : AnalysisConfig.validate { windowLength := 4, historyRows := 1 } = .ok () := rfl
  have granted : AnalysisConfig.bufferBytes { windowLength := 4, historyRows := 1 } <
      Word.addressLimit := by decide +kernel
  have hop : AnalysisConfig.hop { windowLength := 4, historyRows := 1 } = 2 := by decide +kernel
  obtain ⟨exists_session, feeds⟩ :=
    newest_rows_of_blocks accepted (Transform.keepsSize_transform 4) .logarithmic
      [[1, 2], [], [3, 4, 5]]
  obtain ⟨session, created⟩ := exists_session granted
  obtain ⟨after, fed, taken, published, dropped, rows, _⟩ := feeds session created
  rw [createWith_transform] at created
  rw [hop] at taken published rows
  exact ⟨accepted, granted, Transform.keepsSize_transform 4, session, after, created, fed, taken,
    published, dropped, rows⟩

/-- The checks on the settings do not bound the pool: these pass, and their history can be stored,
but the mailbox cannot, so there is no session that samples could be fed to. -/
theorem no_session_of_huge_pool :
    AnalysisConfig.validate { windowLength := 4, historyRows := 2, spareWindows := 2 ^ 62 } =
        .ok () ∧
      (∃ history, History.allocate Point.origin (AnalysisConfig.layout
        { windowLength := 4, historyRows := 2, spareWindows := 2 ^ 62 }) = .ok history) ∧
      Mailbox.allocate (0 : Float32) 4 (2 ^ 62) = .error .overflow ∧
      ∀ scale, create { windowLength := 4, historyRows := 2, spareWindows := 2 ^ 62 } scale =
        .error .overflow := by
  have refused : Mailbox.allocate (0 : Float32) 4 (2 ^ 62) = .error .overflow := by
    have huge : ¬max (2 ^ 62) 1 * Mailbox.placeBytes < Word.storageLimit := by decide
    rw [Mailbox.allocate, Word.reserve, if_neg huge]
    rfl
  refine ⟨rfl, ⟨_, rfl⟩, refused, ?_⟩
  intro scale
  rw [← createWith_transform]
  exact createWith_of_no_mailbox Fourier.transform scale rfl
    (SampleRing.allocate_of_lt 0 (by decide +kernel)) refused

end Session

end Waterfall
