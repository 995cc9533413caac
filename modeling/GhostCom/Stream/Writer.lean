import GhostCom.Clients.StreamWrite
import GhostCom.DataPath.Transfer

/-!
# The writing side of a stream

The stream machinery calls `_write` with one chunk at a time: the next one comes after the callback
of the one before it, and none comes after an error or after a `_write` that threw. Each chunk that
reaches `PortStreamNative::write` gets a thread of its own, which runs `do_write`.
-/

namespace GhostCom

open Channel.State (items)
open Direction (companionToCom)
open StreamWrite (Attempt Control Wait entered issuedBytes)

namespace Stream

/-- Where the writing side stands: between two chunks, with a chunk whose `do_write` has issued the
given requests, or after the last chunk. -/
inductive WriterPoint where
  | idle
  | busy (chunk : List UCHAR) (issued : List RequestId) (control : Control)
  | failed (chunk : List UCHAR) (issued : List RequestId)

/-- The chunks whose callbacks reported success, oldest first, and where the writing side stands. -/
structure Writer where
  written : List (List UCHAR)
  point : WriterPoint

/-- The writing side of a new stream. -/
def Writer.initial : Writer := ⟨[], .idle⟩

/-- `_write` is called with a chunk and its thread is spawned or not, `do_write` takes a step, or
the event loop runs the callback. -/
inductive WriterEvent where
  | write (chunk : List UCHAR) (spawned : Bool)
  | iterate (attempt : Attempt)
  | result (wait : Wait)
  | callback

/-- A step of `do_write` for a chunk. -/
def writeThreadStep (driver : DataPath) (w : Writer) (event : StreamWrite.Event) :
    Option (DataPath × Writer) :=
  match w.point with
  | .busy chunk issued control =>
      let s := StreamWrite.step chunk ⟨driver, issued, control⟩ event
      some (s.driver, { w with point := .busy chunk s.issued s.control })
  | _ => none

/-- One event of the writing side. -/
def writerStep (driver : DataPath) (w : Writer) : WriterEvent → Option (DataPath × Writer)
  | .write chunk spawned =>
      match w.point with
      | .idle => some (driver, { w with
          point := if spawned then .busy chunk [] (.test 0) else .failed chunk [] })
      | _ => none
  | .iterate attempt => writeThreadStep driver w (.iterate attempt)
  | .result wait => writeThreadStep driver w (.result wait)
  | .callback =>
      match w.point with
      | .busy chunk _ (.returned true) =>
          some (driver, { written := w.written ++ [chunk], point := .idle })
      | .busy chunk issued (.returned false) =>
          some (driver, { w with point := .failed chunk issued })
      | _ => none

/-! ## The account of the writer -/

/-- The bytes that have entered `CompanionToCom` since the creation of the pair. -/
def acceptedFrom (driver : DataPath) : List UCHAR :=
  acceptedBytes (laneTrace companionToCom driver.trace)

/-- What holds of the chunk that is being written. -/
structure Writing (driver : DataPath) (written : List (List UCHAR)) (chunk : List UCHAR)
    (issued : List RequestId) (control : Control) : Prop where
  sound : StreamWrite.Sound chunk ⟨driver, issued, control⟩
  account : acceptedFrom driver = written.flatten ++ entered driver issued
  own : ∀ req ∈ driver.pair.compWriteQueue, req.id ∈ issued

/-- What holds of the writing side in every state of a run. -/
def Writer.Sound (driver : DataPath) (w : Writer) : Prop :=
  match w.point with
  | .idle => driver.Numbered ∧ driver.Progressing ∧ driver.pair.compWriteQueue = [] ∧
      acceptedFrom driver = w.written.flatten
  | .busy chunk issued control => Writing driver w.written chunk issued control
  | .failed chunk issued => Writing driver w.written chunk issued (.returned false)

variable {driver : DataPath} {chunk : List UCHAR} {issued : List RequestId} {control : Control}
  {written : List (List UCHAR)}

/-- All entries belong to requests of the list. -/
theorem issued_bytes_all {entries : List (ℕ × List UCHAR)}
    (h : ∀ entry ∈ entries, entry.1 ∈ issued) : issuedBytes issued entries = items entries := by
  have hfilter : entries.filter (·.1 ∈ issued) = entries := by
    rw [List.filter_eq_self]
    intro entry hentry
    simpa using h entry hentry
  rw [issuedBytes, hfilter, items]

/-- What an event adds to the bytes that have entered, and which writes it leaves pended, if the
writes it sees are all of the given requests. -/
theorem accepted_step {e : PairEvent}
    (hown : ∀ req ∈ driver.pair.compWriteQueue ++ e.arrival driver.nextRequest, req.id ∈ issued) :
    acceptedFrom (driver.pairStep e) = acceptedFrom driver ++ issuedBytes issued
        (acceptedEntries (laneTrace companionToCom (e.call driver.nextRequest driver.pair).2)) ∧
      ∀ req ∈ (driver.pairStep e).pair.compWriteQueue, req.id ∈ issued := by
  obtain ⟨handled, hh⟩ := e.writes_handled driver.nextRequest driver.pair
  constructor
  · have hall : ∀ entry ∈ acceptedEntries
        (laneTrace companionToCom (e.call driver.nextRequest driver.pair).2),
        entry.1 ∈ issued := by
      intro entry hentry
      rw [hh.entries] at hentry
      obtain ⟨w, hw, hid⟩ := WritesHandled.entry_id hentry
      rw [← hid]
      exact hown _ (hh.mem_before hw)
    rw [issued_bytes_all hall]
    show acceptedBytes (laneTrace companionToCom (driver.trace ++ _)) = _
    rw [lane_trace_append, accepted_bytes_append]
    rfl
  · intro req hreq
    exact hown req (hh.mem_before_of_after hreq)

/-- A callback other than a companion write keeps what holds of the chunk. -/
theorem Writing.beside (h : Writing driver written chunk issued control) {e : PairEvent}
    (hnone : e.arrival driver.nextRequest = []) :
    Writing (driver.pairStep e) written chunk issued control := by
  have hown : ∀ req ∈ driver.pair.compWriteQueue ++ e.arrival driver.nextRequest,
      req.id ∈ issued := by
    rw [hnone, List.append_nil]
    exact h.own
  obtain ⟨haccepted, hafter⟩ := accepted_step hown
  refine ⟨h.sound.step (.driver e), ?_, hafter⟩
  rw [haccepted, h.account, StreamWrite.entered_step, List.append_assoc]

/-- A callback other than a companion write keeps the account of the writer. -/
theorem Writer.Sound.beside {w : Writer} (h : w.Sound driver) {e : PairEvent}
    (hnone : e.arrival driver.nextRequest = []) : w.Sound (driver.pairStep e) := by
  unfold Writer.Sound at h ⊢
  split at h
  · obtain ⟨hnumbered, hprogressing, hqueue, haccount⟩ := h
    have hown : ∀ req ∈ driver.pair.compWriteQueue ++ e.arrival driver.nextRequest,
        req.id ∈ ([] : List RequestId) := by
      rw [hqueue, hnone]
      exact fun req hreq ↦ absurd hreq List.not_mem_nil
    obtain ⟨haccepted, hafter⟩ := accepted_step hown
    refine ⟨hnumbered.step e, hprogressing.step e, ?_, ?_⟩
    · rw [List.eq_nil_iff_forall_not_mem]
      exact fun req hreq ↦ List.not_mem_nil (hafter req hreq)
    · rw [haccepted, StreamWrite.issued_bytes_of_none (fun _ _ ↦ List.not_mem_nil),
        List.append_nil, haccount]
  · exact Writing.beside h hnone
  · exact Writing.beside h hnone

/-- The request that `do_write` issues is one of its own. -/
theorem Writing.issue {offset : ℕ} (h : Writing driver written chunk issued (.test offset))
    (fits : (chunk.drop offset).length < 2 ^ 32) (wdf : Wdf)
    (hsound : StreamWrite.Sound chunk
      ⟨driver.pairStep (.data (.compWrite (chunk.drop offset) fits wdf)),
        issued ++ [driver.nextRequest], .waiting offset driver.nextRequest⟩) :
    Writing (driver.pairStep (.data (.compWrite (chunk.drop offset) fits wdf))) written chunk
      (issued ++ [driver.nextRequest]) (.waiting offset driver.nextRequest) := by
  have hown : ∀ req ∈ driver.pair.compWriteQueue ++
      PairEvent.arrival driver.nextRequest (.data (.compWrite (chunk.drop offset) fits wdf)),
      req.id ∈ issued ++ [driver.nextRequest] := by
    intro req hreq
    cases List.mem_append.mp hreq with
    | inl hpended => exact List.mem_append_left _ (h.own req hpended)
    | inr hnew =>
        rw [List.mem_singleton.mp hnew]
        exact List.mem_append_right _ (List.mem_singleton_self _)
  obtain ⟨haccepted, hafter⟩ := accepted_step hown
  -- the new request has put in nothing before it was issued
  have hentered : entered driver (issued ++ [driver.nextRequest]) = entered driver issued := by
    apply StreamWrite.issued_bytes_fresh
    intro entry hentry
    exact Nat.ne_of_lt (h.sound.numbered.entered_lt entry hentry)
  refine ⟨hsound, ?_, hafter⟩
  rw [haccepted, h.account, StreamWrite.entered_step, hentered, List.append_assoc]

/-- A step of `do_write` keeps what holds of its chunk. -/
theorem Writing.iterate (h : Writing driver written chunk issued control) (attempt : Attempt) :
    let s := StreamWrite.step chunk ⟨driver, issued, control⟩ (.iterate attempt)
    Writing s.driver written chunk s.issued s.control := by
  intro s
  have hsound : StreamWrite.Sound chunk s := h.sound.step (.iterate attempt)
  cases control with
  | test offset =>
      by_cases hlt : offset < chunk.length
      · have hs : s = StreamWrite.iterate chunk ⟨driver, issued, .test offset⟩ offset attempt :=
          if_pos hlt
        rw [hs] at hsound ⊢
        cases attempt with
        | issued wdf =>
            by_cases fits : (chunk.drop offset).length < 2 ^ 32
            · simp only [StreamWrite.iterate, dif_pos fits] at hsound ⊢
              exact h.issue fits wdf hsound
            · simp only [StreamWrite.iterate, dif_neg fits] at hsound ⊢
              exact ⟨hsound, h.account, h.own⟩
        | noEvent => exact ⟨hsound, h.account, h.own⟩
        | refused => exact ⟨hsound, h.account, h.own⟩
      · have hs : s = ⟨driver, issued, .returned true⟩ := if_neg hlt
        rw [hs] at hsound ⊢
        exact ⟨hsound, h.account, h.own⟩
  | waiting offset id => exact h
  | returned ok => exact h
  | panicked => exact h

/-- Taking a result issues nothing. -/
theorem result_driver (s : StreamWrite.State) (wait : Wait) :
    (StreamWrite.step chunk s (.result wait)).driver = s.driver ∧
      (StreamWrite.step chunk s (.result wait)).issued = s.issued := by
  obtain ⟨driver, issued, control⟩ := s
  unfold StreamWrite.step
  dsimp only
  split
  · exact ⟨rfl, rfl⟩
  · split <;> exact ⟨rfl, rfl⟩
  · exact ⟨rfl, rfl⟩

/-- A step of the writing side keeps its account. -/
theorem Writer.Sound.step {w w' : Writer} {driver' : DataPath} {event : WriterEvent}
    (h : w.Sound driver) (hstep : writerStep driver w event = some (driver', w')) :
    w'.Sound driver' := by
  obtain ⟨written, point⟩ := w
  cases event with
  | write chunk spawned =>
      cases point with
      | idle =>
          obtain ⟨hnumbered, hprogressing, hqueue, haccount⟩ := h
          cases hstep
          have hsound : StreamWrite.Sound chunk ⟨driver, [], .test 0⟩ :=
            StreamWrite.start_sound hnumbered hprogressing
          have hentered : entered driver [] = [] :=
            StreamWrite.issued_bytes_of_none fun _ _ ↦ List.not_mem_nil
          have hbytes : acceptedFrom driver = written.flatten ++ entered driver [] := by
            rw [hentered, List.append_nil]
            exact haccount
          have hown : ∀ req ∈ driver.pair.compWriteQueue, req.id ∈ ([] : List RequestId) := by
            rw [hqueue]
            exact fun req hreq ↦ absurd hreq List.not_mem_nil
          cases spawned with
          | true => exact ⟨hsound, hbytes, hown⟩
          | false =>
              exact ⟨⟨hnumbered, hprogressing, hsound.issued_lt, 0, .inl hsound.control⟩, hbytes,
                hown⟩
      | _ => cases hstep
  | iterate attempt =>
      cases point with
      | busy chunk issued control =>
          cases hstep
          exact Writing.iterate h attempt
      | _ => cases hstep
  | result wait =>
      cases point with
      | busy chunk issued control =>
          cases hstep
          have hresult := @result_driver chunk ⟨driver, issued, control⟩ wait
          obtain ⟨hdriver, hissued⟩ := hresult
          have hsound := Writing.sound h |>.step (.result wait)
          have haccount := Writing.account h
          have hown := Writing.own h
          refine ⟨hsound, ?_, ?_⟩
          · rw [hdriver, hissued]
            exact haccount
          · rw [hdriver, hissued]
            exact hown
      | _ => cases hstep
  | callback =>
      cases point with
      | busy chunk issued control =>
          cases control with
          | returned ok =>
              have hwriting : Writing driver written chunk issued (.returned ok) := h
              cases ok with
              | true =>
                  cases hstep
                  -- all of the chunk has entered, and none of its requests is pended
                  have hidle : StreamWrite.Idle chunk driver issued chunk.length :=
                    hwriting.sound.control
                  refine ⟨hwriting.sound.numbered, hwriting.sound.progressing, ?_, ?_⟩
                  · rw [List.eq_nil_iff_forall_not_mem]
                    exact fun req hreq ↦ hidle.none req hreq (hwriting.own req hreq)
                  · rw [hwriting.account, hidle.entered, List.take_length]
                    simp
              | false =>
                  cases hstep
                  exact hwriting
          | _ => cases hstep
      | _ => cases hstep

/-- The part of the last chunk that has entered. -/
theorem Writer.Sound.entered_prefix {w : Writer} (h : w.Sound driver) :
    ∃ rest : List UCHAR, acceptedFrom driver = w.written.flatten ++ rest ∧
      match w.point with
      | .idle => rest = []
      | .busy chunk _ _ | .failed chunk _ => rest <+: chunk := by
  have hprefix {chunk issued control}
      (h : Writing driver w.written chunk issued control) : entered driver issued <+: chunk := by
    have hcontrol := h.sound.control
    cases control with
    | test offset =>
        rw [hcontrol.entered]
        exact List.take_prefix ..
    | waiting offset id => exact hcontrol.ended.entered_prefix
    | returned ok =>
        cases ok with
        | true =>
            rw [hcontrol.entered]
            exact List.take_prefix ..
        | false => exact hcontrol.entered_prefix
    | panicked => exact hcontrol.entered_prefix
  unfold Writer.Sound at h
  split at h
  · exact ⟨[], by rw [h.2.2.2, List.append_nil], rfl⟩
  · exact ⟨_, h.account, hprefix h⟩
  · exact ⟨_, h.account, hprefix h⟩

end Stream

end GhostCom
