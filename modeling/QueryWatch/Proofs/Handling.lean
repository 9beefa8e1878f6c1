import QueryWatch.Handler

/-!
# What handling one capture does

A capture is judged by its contents and the handler alone. Whatever the judgement,
handling it counts one outcome, asks for at most one process and leaves a
beginning of one rendering with the writer. All statements about runs rest on
this single step.
-/
namespace QueryWatch

/-- Pieces that are written one after another leave a beginning of their
concatenation, and all of it unless writing them fails. -/
theorem Writer.accepted_writePieces (writer : Writer) (pieces : List Octets) :
    ∃ part, part <+: pieces.flatten ∧
      (writer.writePieces pieces).1.accepted = writer.accepted ++ part ∧
      ((writer.writePieces pieces).2 = none → part = pieces.flatten) := by
  induction pieces generalizing writer with
  | nil => exact ⟨[], List.nil_prefix, by simp [writePieces, accepted_flush], fun _ => rfl⟩
  | cons piece pieces ih =>
    obtain ⟨part, begins, accepted, whole⟩ := writer.accepted_write piece
    rw [List.flatten_cons, writePieces]
    split
    next written result =>
      obtain ⟨more, continues, accepted_more, whole_more⟩ := ih written
      rw [result] at accepted whole
      obtain rfl := whole rfl
      refine ⟨part ++ more, List.prefix_append_right_inj part |>.2 continues, ?_, ?_⟩
      · rw [accepted_more, accepted, List.append_assoc]
      · intro sound
        rw [whole_more sound]
    next written fault result =>
      rw [result] at accepted
      exact ⟨part, begins.trans (List.prefix_append _ _), accepted, by simp⟩

/-- Writing a sighting leaves a beginning of its text, and all of it unless that
fails. -/
theorem Display.accepted_emit (display : Display) (writer : Writer) (s : Sighting) :
    ∃ part, part <+: Utf8.encode (display.render s) ∧
      (display.emit writer s).1.accepted = writer.accepted ++ part ∧
      ((display.emit writer s).2 = none → part = Utf8.encode (display.render s)) := by
  simpa [emit] using writer.accepted_writePieces [Utf8.encode (display.render s)]

namespace Outcome

/-- The process that was asked for. -/
def asked? (outcome : Outcome) : Option UInt32 :=
  outcome.sighting?.map (·.query.processId)

theorem sighting?_eq_none_iff {outcome : Outcome} :
    outcome.sighting? = none ↔ outcome = .malformed ∨ ∃ reason, outcome = .filtered reason := by
  cases outcome <;> simp [sighting?]

end Outcome

/-- What an outcome leaves with the writer. -/
inductive Leaves (display : Display) : Outcome → Octets → Prop
  | malformed : Leaves display .malformed []
  | filtered (reason : Rejection) : Leaves display (.filtered reason) []
  | emitted (s : Sighting) : Leaves display (.emitted s) (Utf8.encode (display.render s))
  | emitFailed (s : Sighting) {part : Octets}
      (begins : part <+: Utf8.encode (display.render s)) :
      Leaves display (.emitFailed s) part

namespace Handler

/-- What a handler makes of a capture, whatever the writer does. -/
inductive Judges (handler : Handler) (arrival : Arrival) : Outcome → Prop
  | malformed (unread : Query.ofCapture? arrival.now arrival.capture = none) :
      Judges handler arrival .malformed
  | filtered {query : Query} {reason : Rejection}
      (read : Query.ofCapture? arrival.now arrival.capture = some query)
      (refused : handler.admission.rejection? query = some reason) :
      Judges handler arrival (.filtered reason)
  | published {query : Query} {outcome : Outcome}
      (read : Query.ofCapture? arrival.now arrival.capture = some query)
      (admitted : handler.admission.rejection? query = none)
      (sighting : outcome.sighting? = some ⟨query, (handler.resolver query.processId).sender⟩) :
      Judges handler arrival outcome

/-- One step of the ledger, its notices apart. -/
structure Effect (handler : Handler) (before : Progress) (outcome : Outcome)
    (after : Progress) : Prop where
  tally : after.tally = before.tally.record outcome
  asked : after.asked = before.asked ++ outcome.asked?.toList
  accepted : ∃ part, Leaves handler.display outcome part ∧
    after.writer.accepted = before.writer.accepted ++ part

/-- A handler that admits everything, knows no process and writes lines. -/
def unrestricted : Handler :=
  ⟨.empty, ProcessTable.lookup fun _ => none, ⟨.compact, .universal⟩⟩

variable (handler : Handler) (progress : Progress)

theorem publish_sighting (query : Query) :
    (handler.publish progress query).2.sighting? =
      some ⟨query, (handler.resolver query.processId).sender⟩ := by
  simp only [publish]
  split <;> rfl

theorem publish_effect (query : Query) :
    handler.Effect progress (handler.publish progress query).2
      (handler.publish progress query).1 := by
  simp only [publish]
  obtain ⟨part, begins, accepted, whole⟩ := handler.display.accepted_emit progress.writer
    ⟨query, (handler.resolver query.processId).sender⟩
  split
  next writer result =>
    rw [result] at accepted whole
    obtain rfl := whole rfl
    exact ⟨rfl, rfl, _, .emitted _, accepted⟩
  next writer fault result =>
    rw [result] at accepted
    exact ⟨rfl, rfl, part, .emitFailed _ begins, accepted⟩

theorem conclude_effect {outcome : Outcome} (unwritten : outcome.sighting? = none)
    (notices : List Notice) :
    handler.Effect progress outcome ((progress.note notices).conclude outcome).1 := by
  obtain rfl | ⟨reason, rfl⟩ := Outcome.sighting?_eq_none_iff.1 unwritten
  · exact ⟨rfl, (List.append_nil _).symm, [], .malformed, (List.append_nil _).symm⟩
  · exact ⟨rfl, (List.append_nil _).symm, [], .filtered reason, (List.append_nil _).symm⟩

/-- What handling a capture can do. Either nothing is written, and notices and outcome are
the same for every ledger, or the query of the capture is published. -/
theorem handle_cases (arrival : Arrival) :
    (∃ notices outcome, handler.Judges arrival outcome ∧ outcome.sighting? = none ∧
      ∀ progress, handler.handle progress arrival
        = (progress.note notices).conclude outcome) ∨
    ∃ query, Query.ofCapture? arrival.now arrival.capture = some query ∧
      handler.admission.rejection? query = none ∧
      ∀ progress, handler.handle progress arrival
        = handler.publish (progress.note (arrivalNotices arrival.capture)) query := by
  cases read : Query.ofCapture? arrival.now arrival.capture with
  | none =>
    refine .inl ⟨arrivalNotices arrival.capture, .malformed, .malformed read, rfl, ?_⟩
    intro progress
    simp only [handle, read]
  | some query =>
    cases judged : handler.admission.rejection? query with
    | some reason =>
      refine .inl ⟨arrivalNotices arrival.capture ++ [.queryDropped query.name reason],
        .filtered reason, .filtered read judged, rfl, ?_⟩
      intro progress
      simp only [handle, read, judged, Progress.note, List.append_assoc]
    | none =>
      refine .inr ⟨query, rfl, judged, ?_⟩
      intro progress
      simp only [handle, read, judged]

theorem handle_judges (arrival : Arrival) :
    handler.Judges arrival (handler.handle progress arrival).2 := by
  obtain ⟨_, _, judges, -, handled⟩ | ⟨query, read, admitted, handled⟩ :=
    handler.handle_cases arrival
  · rw [handled]
    exact judges
  · rw [handled]
    exact .published read admitted (handler.publish_sighting _ query)

theorem handle_effect (arrival : Arrival) :
    handler.Effect progress (handler.handle progress arrival).2
      (handler.handle progress arrival).1 := by
  obtain ⟨notices, _, -, unwritten, handled⟩ | ⟨query, -, -, handled⟩ :=
    handler.handle_cases arrival
  · rw [handled]
    exact handler.conclude_effect progress unwritten notices
  · rw [handled]
    have published := handler.publish_effect (progress.note (arrivalNotices arrival.capture)) query
    exact ⟨published.tally, published.asked, published.accepted⟩

end Handler
end QueryWatch
