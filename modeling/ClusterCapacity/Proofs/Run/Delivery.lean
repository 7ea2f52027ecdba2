import ClusterCapacity.Sink

/-!
# Delivering a text to a sink

A sink that adds what it takes of each offer is left with a prefix of the bytes that were to be
written (`Sink.Appends.exists_writeAll`).  So what a delivery adds to the contents of a sink in
memory is a prefix of the text, and the whole text exactly if no write failed
(`Buffer.writeAll_sink`).  A sink that keeps taking bytes takes all of it
(`Buffer.deliver_of_accepting`).  Any sink that keeps its buffer somewhere in a larger state does to
this buffer what the buffer alone would do (`Sink.Mirrors.run_deliver`).
-/

namespace ClusterCapacity

/-! ### Steps that can fail -/

namespace Steps

variable {σ ε ε' α β : Type}

theorem run_pure (value : α) (state : σ) :
    (pure value : ExceptT ε (StateM σ) α).run state = (.ok value, state) := rfl

theorem run_ofExcept (result : Except ε α) (state : σ) :
    (liftM result : ExceptT ε (StateM σ) α).run state = (result, state) := by
  cases result <;> rfl

theorem run_adapt (f : ε → ε') (step : ExceptT ε (StateM σ) α) (state : σ) :
    (step.adapt f).run state = ((step.run state).1.mapError f, (step.run state).2) := rfl

/-- A step that fails ends the steps after it. -/
theorem run_bind (step : ExceptT ε (StateM σ) α) (next : α → ExceptT ε (StateM σ) β) (state : σ) :
    (step >>= next).run state = match step.run state with
      | (.ok value, state) => (next value).run state
      | (.error error, state) => (.error error, state) := by
  show (match step.run state with | (result, state) => ExceptT.bindCont next result state) = _
  rcases step.run state with ⟨_ | value, after⟩ <;> rfl

/-- A step that cannot fail hands on to the steps after it. -/
theorem run_liftM_bind (step : StateM σ α) (next : α → ExceptT ε (StateM σ) β) (state : σ) :
    ((liftM step : ExceptT ε (StateM σ) α) >>= next).run state
      = (next (step state).1).run (step state).2 := rfl

end Steps

/-! ### Writing to the end -/

namespace Sink

variable {σ : Type}

theorem run_writeAll_cons (sink : Sink (StateM σ)) (byte : UInt8) (rest : List UInt8) (state : σ) :
    (sink.writeAll (byte :: rest)).run state = match (sink.write (byte :: rest)).run state with
      | (.ok count, state) =>
        if count = 0 then (.error .nothingWritten, state)
        else (sink.writeAll (rest.drop (count - 1))).run state
      | (.error error, state) => (.error error, state) := by
  rw [writeAll, Steps.run_bind]
  rcases (sink.write (byte :: rest)).run state with ⟨_ | count, after⟩
  · rfl
  · show (if count = 0 then throw .nothingWritten
      else sink.writeAll (rest.drop (count - 1))).run after = if count = 0 then _ else _
    split <;> rfl

theorem run_deliver (sink : Sink (StateM σ)) (text : String) (state : σ) :
    (sink.deliver text).run state = match (sink.writeAll text.toUTF8.toList).run state with
      | (.ok _, state) => sink.flush.run state
      | (.error error, state) => (.error error, state) := by
  rw [deliver, Steps.run_bind]
  rcases (sink.writeAll text.toUTF8.toList).run state with ⟨error | _, after⟩ <;> rfl

/-- Whether a sink, which keeps its bytes and counts its writes at some place of the state, adds the
first bytes of an offer, as many as it answers, or fails and adds none. -/
structure Appends (sink : Sink (StateM σ)) (place : σ → Buffer) : Prop where
  write {offered : List UInt8} (hoffered : offered ≠ []) (state : σ) :
    (∃ count after, (sink.write offered).run state = (.ok count, after) ∧ count ≤ offered.length ∧
      place after = ⟨(place state).contents ++ offered.take count, (place state).writes + 1⟩) ∨
    ∃ error after, (sink.write offered).run state = (.error error, after) ∧
      place after = ⟨(place state).contents, (place state).writes + 1⟩
  flush (state : σ) : place (sink.flush.run state).2 = place state

/-- Writes that take some bytes each, from a state with bytes to write to one in which some of them
are left. -/
inductive Takes (sink : Sink (StateM σ)) : List UInt8 → σ → List UInt8 → σ → Prop where
  | refl (bytes : List UInt8) (state : σ) : Takes sink bytes state bytes state
  | write {bytes left : List UInt8} {state next written : σ} {count : Nat} (hpos : 0 < count)
    (hwrite : (sink.write bytes).run state = (.ok count, next))
    (hrest : Takes sink (bytes.drop count) next left written) : Takes sink bytes state left written

/-- The bytes that are taken until a write fails are a prefix of the bytes; the last write was
offered the rest and failed or took nothing, unless nothing was left. -/
theorem Appends.exists_writeAll {sink : Sink (StateM σ)} {place : σ → Buffer}
    (h : sink.Appends place) (bytes : List UInt8) (state : σ) :
    ∃ taken left written, bytes = taken ++ left ∧ sink.Takes bytes state left written ∧
      (place written).contents = (place state).contents ++ taken ∧
      ((left = [] ∧ (sink.writeAll bytes).run state = (.ok (), written)) ∨
        left ≠ [] ∧ ∃ error after, (sink.writeAll bytes).run state = (.error error, after) ∧
          (place after).contents = (place written).contents ∧
          ((sink.write left).run written = (.error error, after) ∨
            (sink.write left).run written = (.ok 0, after))) := by
  induction bytes using Sink.writeAll.induct generalizing state with
  | case1 =>
    refine ⟨[], [], state, rfl, .refl _ _, (List.append_nil _).symm, .inl ⟨rfl, ?_⟩⟩
    rw [writeAll]
    rfl
  | case2 byte rest ih =>
    rw [run_writeAll_cons]
    rcases h.write (List.cons_ne_nil byte rest) state with
      ⟨count, next, hwrite, hle, hplace⟩ | ⟨error, next, hwrite, hplace⟩
    · rw [hwrite]
      cases count with
      | zero =>
        refine ⟨[], byte :: rest, state, rfl, .refl _ _, (List.append_nil _).symm,
          .inr ⟨List.cons_ne_nil _ _, _, next, rfl, ?_, .inr hwrite⟩⟩
        rw [hplace, List.take_zero, List.append_nil]
      | succ count =>
        obtain ⟨taken, left, written, hsplit, htakes, hcontents, hend⟩ := ih (count + 1) next
        rw [Nat.add_sub_cancel] at hsplit htakes hend
        refine ⟨(byte :: rest).take (count + 1) ++ taken, left, written, ?_,
          .write (Nat.succ_pos count) hwrite htakes, ?_, hend⟩
        · rw [List.append_assoc, ← hsplit]
          exact (List.take_append_drop (count + 1) (byte :: rest)).symm
        · rw [hcontents, hplace, List.append_assoc]
    · rw [hwrite]
      refine ⟨[], byte :: rest, state, rfl, .refl _ _, (List.append_nil _).symm,
        .inr ⟨List.cons_ne_nil _ _, error, next, rfl, ?_, .inl hwrite⟩⟩
      rw [hplace]

end Sink

/-! ### Sinks in memory -/

namespace Buffer

/-- The sink that is nothing but a buffer. -/
def sink (behaviour : Behaviour) : Sink (StateM Buffer) where
  write offered := fun buffer => buffer.write behaviour offered
  flush := fun buffer => (behaviour.flush, buffer)

theorem run_sink_write (behaviour : Behaviour) (offered : List UInt8) (buffer : Buffer) :
    ((sink behaviour).write offered).run buffer = buffer.write behaviour offered := rfl

theorem write_of_accept_error {behaviour : Behaviour} {offered : List UInt8} {buffer : Buffer}
    {error : IoError} (h : behaviour.accept buffer offered = .error error) :
    buffer.write behaviour offered
      = (.error error, { buffer with writes := buffer.writes + 1 }) := by
  rw [write, h]

theorem write_of_accept_ok {behaviour : Behaviour} {offered : List UInt8} {buffer : Buffer}
    {count : Nat} (h : behaviour.accept buffer offered = .ok count) :
    buffer.write behaviour offered = (.ok (min count offered.length),
      ⟨buffer.contents ++ offered.take count, buffer.writes + 1⟩) := by
  rw [write, h]

theorem appends_sink (behaviour : Behaviour) : (sink behaviour).Appends id where
  write {offered} _ buffer := by
    rw [run_sink_write]
    cases haccept : behaviour.accept buffer offered with
    | ok count =>
      rw [write_of_accept_ok haccept]
      refine .inl ⟨_, _, rfl, Nat.min_le_right _ _, ?_⟩
      rw [← List.take_eq_take_min]
      rfl
    | error error =>
      rw [write_of_accept_error haccept]
      exact .inr ⟨_, _, rfl, rfl⟩
  flush _ := rfl

/-- The bytes that are written until a write fails are a prefix of the bytes; all of them are
written exactly if none fails. -/
theorem writeAll_sink (behaviour : Behaviour) (bytes : List UInt8) (buffer : Buffer) :
    ∃ taken left, bytes = taken ++ left ∧
      (((sink behaviour).writeAll bytes).run buffer).2.contents = buffer.contents ++ taken ∧
      ((((sink behaviour).writeAll bytes).run buffer).1 = .ok () ↔ left = []) := by
  obtain ⟨taken, left, written, hsplit, -, hcontents, hend⟩ :=
    (appends_sink behaviour).exists_writeAll bytes buffer
  refine ⟨taken, left, hsplit, ?_⟩
  rcases hend with ⟨hleft, hrun⟩ | ⟨hleft, error, after, hrun, hafter, -⟩
  · rw [hrun]
    exact ⟨hcontents, iff_of_true rfl hleft⟩
  · rw [hrun]
    exact ⟨hafter.trans hcontents, iff_of_false nofun hleft⟩

/-- What becomes of a buffer when a text is delivered to it. -/
def deliver (behaviour : Behaviour) (text : String) (buffer : Buffer) :
    Except IoError Unit × Buffer :=
  ((sink behaviour).deliver text).run buffer

/-- A delivery leaves a prefix of the text; it succeeds exactly if the whole text was taken and
flushing does not fail. -/
theorem deliver_spec (behaviour : Behaviour) (text : String) (buffer : Buffer) :
    ∃ taken left, text.toUTF8.toList = taken ++ left ∧
      (deliver behaviour text buffer).2.contents = buffer.contents ++ taken ∧
      ((deliver behaviour text buffer).1 = .ok () ↔ left = [] ∧ behaviour.flush = .ok ()) := by
  obtain ⟨taken, left, hsplit, hcontents, hok⟩ :=
    writeAll_sink behaviour text.toUTF8.toList buffer
  refine ⟨taken, left, hsplit, ?_⟩
  -- flushing adds nothing, but it is tried only after everything was written
  rw [deliver, Sink.run_deliver]
  rcases hwrite : ((sink behaviour).writeAll text.toUTF8.toList).run buffer with ⟨error | _, after⟩
  · rw [hwrite] at hcontents hok
    have hleft : left ≠ [] := fun h => absurd (hok.mpr h) nofun
    exact ⟨hcontents, iff_of_false nofun (fun h => hleft h.1)⟩
  · rw [hwrite] at hcontents hok
    have hleft : left = [] := hok.mp rfl
    exact ⟨hcontents, (and_iff_right hleft).symm⟩

end Buffer

/-! ### Sinks that keep taking bytes -/

namespace Buffer

/-- Whether a sink takes some of the bytes of every offer, and can be flushed. -/
structure Behaviour.Accepting (behaviour : Behaviour) : Prop where
  accept : ∀ buffer offered, offered ≠ [] →
    ∃ count, 0 < count ∧ behaviour.accept buffer offered = .ok count
  flush : behaviour.flush = .ok ()

theorem accepting_unbounded : unbounded.Accepting where
  accept _ offered hne := ⟨offered.length, List.length_pos_iff.mpr hne, rfl⟩
  flush := rfl

theorem writeAll_of_accepting {behaviour : Behaviour} (h : behaviour.Accepting)
    (bytes : List UInt8) (buffer : Buffer) :
    (((sink behaviour).writeAll bytes).run buffer).1 = .ok () := by
  induction bytes using Sink.writeAll.induct generalizing buffer with
  | case1 =>
    rw [Sink.writeAll]
    rfl
  | case2 byte rest ih =>
    obtain ⟨count, hpos, haccept⟩ := h.accept buffer (byte :: rest) (List.cons_ne_nil _ _)
    have hcount : min count (byte :: rest).length ≠ 0 := by
      rw [List.length_cons]
      omega
    rw [Sink.run_writeAll_cons, run_sink_write, write_of_accept_ok haccept]
    dsimp only
    rw [if_neg hcount]
    exact ih _ _

theorem deliver_of_accepting {behaviour : Behaviour} (h : behaviour.Accepting) (text : String)
    (buffer : Buffer) : (deliver behaviour text buffer).1 = .ok () := by
  have hwritten := writeAll_of_accepting h text.toUTF8.toList buffer
  rw [deliver, Sink.run_deliver]
  rcases hrun : ((sink behaviour).writeAll text.toUTF8.toList).run buffer with ⟨error | _, after⟩
  · rw [hrun] at hwritten
    exact absurd hwritten (by simp)
  · exact h.flush

end Buffer

/-! ### Buffers within a larger state -/

/-- Whether a sink does to the buffer that `put` places in a state what the buffer alone would
do. -/
structure Sink.Mirrors {σ : Type} (sink : Sink (StateM σ)) (behaviour : Buffer.Behaviour)
    (put : Buffer → σ) : Prop where
  run_write (offered : List UInt8) (buffer : Buffer) : (sink.write offered).run (put buffer)
    = ((buffer.write behaviour offered).1, put (buffer.write behaviour offered).2)
  run_flush (buffer : Buffer) : sink.flush.run (put buffer) = (behaviour.flush, put buffer)

namespace Sink.Mirrors

variable {σ : Type} {sink : Sink (StateM σ)} {behaviour : Buffer.Behaviour} {put : Buffer → σ}

theorem run_writeAll (h : sink.Mirrors behaviour put) (bytes : List UInt8) (buffer : Buffer) :
    (sink.writeAll bytes).run (put buffer)
      = ((((Buffer.sink behaviour).writeAll bytes).run buffer).1,
        put (((Buffer.sink behaviour).writeAll bytes).run buffer).2) := by
  induction bytes using Sink.writeAll.induct generalizing buffer with
  | case1 => rw [Sink.writeAll, Sink.writeAll, Steps.run_pure, Steps.run_pure]
  | case2 byte rest ih =>
    rw [run_writeAll_cons, run_writeAll_cons, h.run_write, Buffer.run_sink_write]
    rcases buffer.write behaviour (byte :: rest) with ⟨error | count, after⟩
    · rfl
    · by_cases hcount : count = 0
      · simp only [hcount, ↓reduceIte]
      · simp only [hcount, ↓reduceIte, ih]

theorem run_deliver (h : sink.Mirrors behaviour put) (text : String) (buffer : Buffer) :
    (sink.deliver text).run (put buffer) = ((Buffer.deliver behaviour text buffer).1,
      put (Buffer.deliver behaviour text buffer).2) := by
  rw [Sink.run_deliver, h.run_writeAll, Buffer.deliver, Sink.run_deliver]
  rcases ((Buffer.sink behaviour).writeAll text.toUTF8.toList).run buffer with ⟨error | _, after⟩
  · rfl
  · exact h.run_flush after

end Sink.Mirrors

end ClusterCapacity
