import ClusterCapacity.Proofs.Generator
import ClusterCapacity.Proofs.Text.Utf8
import ClusterCapacity.Session

/-!
# A failing sink holds a prefix

A sink that takes some of the bytes of every offer or fails has taken a prefix of the text of a
report when the report ends (`Generator.generate_prefix`).  The report is brought just if the prefix
is the whole text and the sink could be flushed; otherwise the error is the sink's own, of a write
that was offered the rest of the text or of the flush.
-/

namespace ClusterCapacity

namespace Sink

variable {σ : Type} {sink : Sink (StateM σ)} {place : σ → Buffer}

/-- Whether a sink adds the first bytes of every offer, at least one, or fails and adds none. -/
structure Receives (sink : Sink (StateM σ)) (place : σ → Buffer) : Prop
    extends Appends sink place where
  pos {offered : List UInt8} (hoffered : offered ≠ []) {state after : σ} {count : Nat}
    (h : (sink.write offered).run state = (.ok count, after)) : 0 < count

/-- The bytes that are taken until a write fails are a prefix of the bytes, and the write that fails
was offered the rest. -/
theorem Receives.exists_prefix (h : sink.Receives place) (bytes : List UInt8) (state : σ) :
    ∃ taken left written, bytes = taken ++ left ∧ sink.Takes bytes state left written ∧
      (place written).contents = (place state).contents ++ taken ∧
      ((left = [] ∧ (sink.writeAll bytes).run state = (.ok (), written)) ∨
        left ≠ [] ∧ ∃ error after, (sink.writeAll bytes).run state = (.error error, after) ∧
          (sink.write left).run written = (.error error, after)) := by
  obtain ⟨taken, left, written, hsplit, htakes, hcontents, hend⟩ := h.exists_writeAll bytes state
  refine ⟨taken, left, written, hsplit, htakes, hcontents, hend.imp_right ?_⟩
  rintro ⟨hleft, error, after, hrun, -, hwrite | hwrite⟩
  · exact ⟨hleft, error, after, hrun, hwrite⟩
  · exact absurd (h.pos hleft hwrite) (Nat.lt_irrefl 0)

/-! ### Sinks with little room -/

/-- Whether a sink takes from every offer what there is room for, and fails when it is full. -/
structure HasRoom (sink : Sink (StateM σ)) (place : σ → Buffer) (room : Nat) : Prop where
  fits {offered : List UInt8} (hoffered : offered ≠ []) {state : σ}
    (hroom : (place state).contents.length < room) : ∃ after,
    (sink.write offered).run state
        = (.ok (min (room - (place state).contents.length) offered.length), after) ∧
      place after = ⟨(place state).contents
        ++ offered.take (room - (place state).contents.length), (place state).writes + 1⟩
  full {offered : List UInt8} (hoffered : offered ≠ []) {state : σ}
    (hroom : room ≤ (place state).contents.length) : ∃ error after,
    (sink.write offered).run state = (.error error, after) ∧
      place after = ⟨(place state).contents, (place state).writes + 1⟩
  flush (state : σ) : place (sink.flush.run state).2 = place state

theorem HasRoom.receives {room : Nat} (h : sink.HasRoom place room) : sink.Receives place where
  write {offered} hoffered state := by
    rcases Nat.lt_or_ge (place state).contents.length room with hroom | hroom
    · obtain ⟨after, hwrite, hplace⟩ := h.fits hoffered hroom
      refine .inl ⟨_, after, hwrite, Nat.min_le_right _ _, ?_⟩
      rw [hplace, ← List.take_eq_take_min]
    · exact .inr (h.full hoffered hroom)
  flush := h.flush
  pos {offered} hoffered {state after count} hwrite := by
    rcases Nat.lt_or_ge (place state).contents.length room with hroom | hroom
    · obtain ⟨next, hfits, -⟩ := h.fits hoffered hroom
      have hlength := List.length_pos_iff.mpr hoffered
      rw [hfits] at hwrite
      cases hwrite
      omega
    · obtain ⟨error, next, hfull, -⟩ := h.full hoffered hroom
      rw [hfull] at hwrite
      nomatch hwrite

/-- A full sink is offered the bytes once. -/
theorem HasRoom.place_of_full {room : Nat} (h : sink.HasRoom place room) {bytes : List UInt8}
    (hbytes : bytes ≠ []) {state : σ} (hroom : room ≤ (place state).contents.length) :
    place ((sink.writeAll bytes).run state).2
      = ⟨(place state).contents, (place state).writes + 1⟩ := by
  obtain ⟨byte, rest, rfl⟩ := List.exists_cons_of_ne_nil hbytes
  obtain ⟨error, after, hwrite, hplace⟩ := h.full hbytes hroom
  rw [run_writeAll_cons, hwrite]
  exact hplace

/-- A sink that is empty at first is offered the bytes once if it takes all or nothing of them, and
twice if it takes a part. -/
theorem HasRoom.place_writeAll {room : Nat} (h : sink.HasRoom place room) {bytes : List UInt8}
    (hbytes : bytes ≠ []) {state : σ} (hempty : place state = {}) :
    place ((sink.writeAll bytes).run state).2
      = ⟨bytes.take room, if room = 0 ∨ bytes.length ≤ room then 1 else 2⟩ := by
  obtain ⟨byte, rest, rfl⟩ := List.exists_cons_of_ne_nil hbytes
  cases room with
  | zero =>
    rw [h.place_of_full hbytes (Nat.zero_le _), hempty]
    rfl
  | succ room =>
    have hroom : (place state).contents.length < room + 1 := by
      rw [hempty]
      exact Nat.zero_lt_succ room
    obtain ⟨next, hwrite, hplace⟩ := h.fits hbytes hroom
    rw [hempty] at hwrite hplace
    have hcontents : place next = ⟨(byte :: rest).take (room + 1), 1⟩ := hplace
    have hcount : min (room + 1) (rest.length + 1) = min room rest.length + 1 := by omega
    have hwrite : (sink.write (byte :: rest)).run state = (.ok (min room rest.length + 1), next) :=
      hcount ▸ hwrite
    rw [run_writeAll_cons, hwrite]
    simp only [Nat.succ_ne_zero, ↓reduceIte, Nat.add_sub_cancel, false_or, List.length_cons,
      Nat.add_le_add_iff_right]
    -- what does not fit is offered again to the sink that is full now
    split
    case isTrue hfits =>
      rw [Nat.min_eq_right hfits, List.drop_length, writeAll]
      exact hcontents
    case isFalse hrest =>
      have hleft : rest.drop (min room rest.length) ≠ [] := by
        rw [Ne, List.drop_eq_nil_iff]
        omega
      have hfull : (place next).contents.length = room + 1 := by
        rw [hcontents, List.length_take, List.length_cons]
        omega
      rw [h.place_of_full hleft hfull.ge, hcontents]

end Sink

namespace Generator

variable {σ : Type} {generator : Generator (StateM σ)} {sink : Sink (StateM σ)} {place : σ → Buffer}
  {selector : Selector} {workers : List Worker} {state fetched : σ}

/-- Whether the source and the log of a generator leave a place of the state alone. -/
structure Spares (generator : Generator (StateM σ)) (place : σ → Buffer) : Prop where
  fetch (query : Query) (state : σ) :
    place ((generator.source.fetch query).run state).2 = place state
  log (event : Event) (state : σ) : place (generator.log event state).2 = place state

theorem Spares.logged (h : generator.Spares place) (events : List Event) (state : σ) :
    place (generator.logged events state) = place state := by
  rw [Generator.logged]
  induction events generalizing state with
  | nil => rfl
  | cons event rest ih => rw [List.foldl_cons, ih, h.log]

/-- How a report ends that is written to a sink, when `written` is the state after the bytes of its
text that have been taken and `left` are the others. -/
inductive Ends (sink : Sink (StateM σ)) (report : Report) (written : σ) :
    List UInt8 → Except ReportError Report × σ → Prop where
  | delivered {after : σ} (hflush : sink.flush.run written = (.ok (), after)) :
    Ends sink report written [] (.ok report, after)
  | unflushed {error : IoError} {after : σ}
    (hflush : sink.flush.run written = (.error error, after)) :
    Ends sink report written [] (.error (.output error), after)
  | unwritten {left : List UInt8} {error : IoError} {after : σ} (hleft : left ≠ [])
    (hwrite : (sink.write left).run written = (.error error, after)) :
    Ends sink report written left (.error (.output error), after)

/-- A report is brought just if nothing of its text is left and the sink could be flushed. -/
theorem Ends.eq_ok_iff {report found : Report} {written : σ} {left : List UInt8}
    {outcome : Except ReportError Report × σ} (h : Ends sink report written left outcome) :
    outcome.1 = .ok found ↔
      found = report ∧ left = [] ∧ (sink.flush.run written).1 = .ok () := by
  cases h with
  | delivered hflush =>
    rw [hflush]
    exact ⟨fun heq => ⟨(Except.ok.inj heq).symm, rfl, rfl⟩, fun ⟨heq, _, _⟩ => heq ▸ rfl⟩
  | unflushed hflush =>
    rw [hflush]
    exact iff_of_false nofun fun ⟨_, _, heq⟩ => nomatch heq
  | unwritten hleft => exact iff_of_false nofun fun ⟨_, heq, _⟩ => hleft heq

/-- With its workers a generator writes the text of their report and flushes the sink. -/
theorem run_generate_of_fetched
    (hfetch : (generator.source.fetch selector.query).run state = (.ok workers, fetched)) :
    (generator.generate selector sink).run state
      = let report := Report.collect generator.displayTiers selector.range workers
        match (sink.writeAll report.text.toUTF8.toList).run
          (generator.logged (report.notes workers) fetched) with
        | (.error error, written) => (.error (.output error), written)
        | (.ok _, written) =>
          match sink.flush.run written with
          | (.error error, after) => (.error (.output error), after)
          | (.ok _, after) => (.ok report, after) := by
  rw [run_generate, hfetch]
  dsimp only
  rw [Sink.run_deliver]
  rcases (sink.writeAll _).run (generator.logged _ fetched) with ⟨error | _, written⟩
  · rfl
  · rcases hflush : sink.flush.run written with ⟨error | _, after⟩ <;> simp only [hflush]

/-- The sink holds what it was left with by the last write. -/
theorem place_generate (hflush : ∀ state, place (sink.flush.run state).2 = place state)
    (hfetch : (generator.source.fetch selector.query).run state = (.ok workers, fetched)) :
    let report := Report.collect generator.displayTiers selector.range workers
    place ((generator.generate selector sink).run state).2
      = place ((sink.writeAll report.text.toUTF8.toList).run
          (generator.logged (report.notes workers) fetched)).2 := by
  rw [run_generate_of_fetched hfetch]
  dsimp only
  rcases (sink.writeAll _).run (generator.logged _ fetched) with ⟨error | _, written⟩
  · rfl
  · have hafter := hflush written
    dsimp only
    rcases hrun : sink.flush.run written with ⟨error | _, after⟩ <;> rw [hrun] at hafter <;>
      exact hafter

/-- The bytes of a text are not empty, because it ends in a line break. -/
theorem text_bytes_ne_nil (report : Report) : report.text.toUTF8.toList ≠ [] := by
  have hbreak : ("\n".toList.flatMap String.utf8EncodeChar) ≠ [] := by decide
  rw [Utf8.toList_toUTF8, Report.text, String.toList_append, List.flatMap_append]
  exact List.append_ne_nil_of_right_ne_nil _ hbreak

/-- A sink that takes some bytes of each offer or fails is left with a prefix of the text of the
report: the report is brought just if the prefix is the whole text and the sink is flushed, and
otherwise the error is the sink's own.  A sink that is empty at first and has little room is left
with what there is room for. -/
theorem generate_prefix (hspares : generator.Spares place) (hsink : sink.Receives place)
    (hfetch : (generator.source.fetch selector.query).run state = (.ok workers, fetched)) :
    let report := Report.collect generator.displayTiers selector.range workers
    let bytes := report.text.toUTF8.toList
    let outcome := (generator.generate selector sink).run state
    (∃ taken left written, bytes = taken ++ left ∧
      (place outcome.2).contents = (place state).contents ++ taken ∧
      sink.Takes bytes (generator.logged (report.notes workers) fetched) left written ∧
      (place written).contents = (place state).contents ++ taken ∧
      Ends sink report written left outcome ∧
      ∀ found, outcome.1 = .ok found ↔
        found = report ∧ left = [] ∧ (sink.flush.run written).1 = .ok ()) ∧
    ∀ room, sink.HasRoom place room → place state = {} →
      place outcome.2
        = ⟨bytes.take room, if room = 0 ∨ bytes.length ≤ room then 1 else 2⟩ := by
  intro report bytes outcome
  let start := generator.logged (report.notes workers) fetched
  have hstart : place start = place state := by
    have hfetched := hspares.fetch selector.query state
    rw [hfetch] at hfetched
    exact (hspares.logged _ _).trans hfetched
  have hplace : place outcome.2 = place ((sink.writeAll bytes).run start).2 :=
    place_generate hsink.flush hfetch
  constructor
  · obtain ⟨taken, left, written, hsplit, htakes, hcontents, hend⟩ :=
      hsink.exists_prefix bytes start
    have hgenerate : outcome = match (sink.writeAll bytes).run start with
        | (.error error, written) => (.error (.output error), written)
        | (.ok _, written) =>
          match sink.flush.run written with
          | (.error error, after) => (.error (.output error), after)
          | (.ok _, after) => (.ok report, after) := run_generate_of_fetched hfetch
    rw [hstart] at hcontents
    suffices hends : Ends sink report written left outcome ∧
        (place outcome.2).contents = (place state).contents ++ taken from
      ⟨taken, left, written, hsplit, hends.2, htakes, hcontents, hends.1,
        fun found => hends.1.eq_ok_iff⟩
    rcases hend with ⟨rfl, hrun⟩ | ⟨hleft, error, after, hrun, hwrite⟩
    · rw [hplace, hgenerate, hrun]
      refine ⟨?_, hcontents⟩
      dsimp only
      rcases hflush : sink.flush.run written with ⟨error | _, after⟩
      · exact .unflushed hflush
      · exact .delivered hflush
    · rw [hplace, hgenerate, hrun]
      refine ⟨.unwritten hleft hwrite, ?_⟩
      -- a write that fails leaves what is in the sink
      rcases hsink.write hleft written with ⟨count, next, hnext, -⟩ | ⟨_, next, hnext, hkept⟩
      · rw [hwrite] at hnext
        nomatch hnext
      · obtain rfl : after = next := congrArg Prod.snd (hwrite.symm.trans hnext)
        rw [hkept]
        exact hcontents
  · intro room hroom hempty
    rw [hplace, hroom.place_writeAll (text_bytes_ne_nil report) (hstart.trans hempty)]

end Generator

/-! ### Sessions -/

namespace Session

theorem spares_generator (displayTiers : List String) :
    (generator displayTiers).Spares World.buffer := ⟨fun _ _ => rfl, fun _ _ => rfl⟩

theorem run_write (behaviour : Buffer.Behaviour) (offered : List UInt8) (world : World) :
    ((sink behaviour).write offered).run world = ((world.buffer.write behaviour offered).1,
      { world with buffer := (world.buffer.write behaviour offered).2 }) := rfl

/-- The bounded sink of a session has as much room as it is given. -/
theorem hasRoom_sink (room : Nat) (flushFails : Bool) :
    (sink (Buffer.bounded (some room) flushFails)).HasRoom World.buffer room where
  fits := by
    intro offered hoffered world hroom
    have haccept : (Buffer.bounded (some room) flushFails).accept world.buffer offered
        = .ok (min offered.length (room - world.buffer.contents.length)) :=
      if_neg (Nat.not_le_of_lt hroom)
    have hwrite := Buffer.write_of_accept_ok haccept
    rw [Nat.min_eq_left (Nat.min_le_left _ _), Nat.min_comm, ← List.take_eq_take_min] at hwrite
    rw [run_write, hwrite]
    exact ⟨_, rfl, rfl⟩
  full := by
    intro offered hoffered world hroom
    have haccept : (Buffer.bounded (some room) flushFails).accept world.buffer offered
        = .error (.other "sink is full") := if_pos hroom
    rw [run_write, Buffer.write_of_accept_error haccept]
    exact ⟨_, _, rfl, rfl⟩
  flush _ := rfl

/-- A sink with room for three bytes. -/
theorem generate_prefix_full_sink :
    let outcome := ((generator ["MEM"]).generate .lost
      (sink (Buffer.bounded (some 3) false))).run { memory := {} }
    outcome.1 = .error (.output (.other "sink is full")) ∧
      outcome.2.buffer = ⟨"Cap".toUTF8.toList, 2⟩ := by
  intro outcome
  have hroom := hasRoom_sink 3 false
  have hfetch : (source.fetch Selector.lost.query).run { memory := {} }
      = (.ok [], { memory := { asked := [Selector.lost.query] } }) := rfl
  have hbuffer := (Generator.generate_prefix (spares_generator ["MEM"]) hroom.receives hfetch).2
    3 hroom rfl
  refine ⟨by decide +kernel, hbuffer.trans ?_⟩
  decide +kernel

end Session

end ClusterCapacity
