import FractionCalculator.Proofs.Session.Ending

namespace FractionCalculator

-- Solving looks at the words of a line and at nothing else.
theorem solve_congr (mode : RenderMode) {line other : String}
    (h : Text.words other = Text.words line) : solve mode other = solve mode line := by
  simp only [solve, Token.ofLine, h]

theorem answerLine_congr (mode : RenderMode) {line other : String}
    (h : Text.words other = Text.words line) : answerLine mode other = answerLine mode line := by
  rw [answerLine, solve_congr mode h, answerLine]

-- Blanks around a line do not change its answer.
theorem answerLine_trim (mode : RenderMode) (line : String) :
    answerLine mode (Text.trim line) = answerLine mode line :=
  answerLine_congr mode (Text.words_trim line)

namespace Session

variable (s : Session)

-- The log lines in front of an answer, none when no log is shown.
def logText (line : String) : String :=
  (s.showLog (answerLog s.mode line)).err

theorem logText_of_no_log (h : s.logTime = none) (line : String) : s.logText line = "" := by
  simp [logText, showLog, h, Output.empty]

-- What is written for an event that does not end the session. A line is answered by itself: nothing
-- that came before it has a say.
inductive Reacts : Event → Output → Prop
  | interrupt : Reacts .interrupt ⟨"^C\n", ""⟩
  | result {text value : String}
      (h : answerLine s.mode (Text.trim text) = .ok (.result value)) :
      Reacts (.line text) ⟨"= " ++ value ++ "\n", s.logText (Text.trim text)⟩
  | diagnostic {text message : String}
      (h : answerLine s.mode (Text.trim text) = .ok (.diagnostic message)) :
      Reacts (.line text) ⟨"", s.logText (Text.trim text) ++ (message ++ "\n")⟩

theorem answer_of_answerLine {line : String} {answer : Answer}
    (h : answerLine s.mode line = .ok answer) :
    s.answer line = .ok (answer, s.showLog (answerLog s.mode line) ++ answer.output) := by
  rw [Session.answer, h]
  rfl

-- The log goes to the channel of the diagnostics, in front of what is written there.
theorem showLog_append (line : String) (output : Output) :
    s.showLog (answerLog s.mode line) ++ output = ⟨output.out, s.logText line ++ output.err⟩ := by
  have hout : (s.showLog (answerLog s.mode line)).out = "" := by
    unfold showLog
    split <;> rfl
  change Output.mk ((s.showLog _).out ++ output.out) _ = _
  rw [hout, String.empty_append]
  rfl

theorem exists_reacts {event : Event} (hends : ¬ event.Ends)
    (h : ∀ text, event = .line text → ∃ answer, answerLine s.mode text = .ok answer) :
    ∃ output, s.respond event = .ok (some output) ∧ s.Reacts event output := by
  cases event with
  | endOfInput => exact absurd trivial hends
  | interrupt => exact ⟨_, rfl, .interrupt⟩
  | line text =>
      obtain ⟨answer, hanswer⟩ := h text rfl
      rw [← answerLine_trim] at hanswer
      rw [s.respond_line_of_not_allBlank hends, s.answer_of_answerLine hanswer, showLog_append]
      refine ⟨_, rfl, ?_⟩
      cases answer with
      | result value => simpa [Answer.output] using .result hanswer
      | diagnostic message => exact .diagnostic hanswer

theorem run_cons_of_respond {event : Event} {output : Output} {events unread : List Event}
    {outputs : List Output} (h : s.respond event = .ok (some output))
    (hrun : s.run events = .ok (outputs, unread)) :
    s.run (event :: events) = .ok (output :: outputs, unread) := by
  rw [run, h]
  change (s.run events >>= _) = _
  rw [hrun]
  rfl

-- A run reads events up to the first that ends it, the end of the events being one more, and writes
-- for each of them but the last. The rest stays unread.
structure Transcribes (events read : List Event) (outputs : List Output) (unread : List Event) :
    Prop where
  run_eq : s.run events = .ok (outputs ++ [.empty], unread)
  reacts : List.Forall₂ s.Reacts read outputs
  not_ends : ∀ event ∈ read, ¬ event.Ends
  stops : events = read ∧ unread = [] ∨ ∃ last : Event, last.Ends ∧ events = read ++ last :: unread

theorem transcribes_nil : s.Transcribes [] [] [] [] where
  run_eq := rfl
  reacts := .nil
  not_ends := by simp
  stops := .inl ⟨rfl, rfl⟩

theorem transcribes_of_ends {event : Event} (h : event.Ends) (events : List Event) :
    s.Transcribes (event :: events) [] [] events where
  run_eq := s.run_cons_of_ends h events
  reacts := .nil
  not_ends := by simp
  stops := .inr ⟨event, h, rfl⟩

variable {s}

theorem Transcribes.cons {event : Event} {output : Output} {events read unread : List Event}
    {outputs : List Output} (h : s.Transcribes events read outputs unread) (hends : ¬ event.Ends)
    (hrespond : s.respond event = .ok (some output)) (hreacts : s.Reacts event output) :
    s.Transcribes (event :: events) (event :: read) (output :: outputs) unread where
  run_eq := s.run_cons_of_respond hrespond h.run_eq
  reacts := .cons hreacts h.reacts
  not_ends := List.forall_mem_cons.mpr ⟨hends, h.not_ends⟩
  stops := by
    rcases h.stops with ⟨rfl, hunread⟩ | ⟨last, hlast, rfl⟩
    · exact .inl ⟨rfl, hunread⟩
    · exact .inr ⟨last, hlast, rfl⟩

end Session

-- A session asks for one line after the other and answers each on its own until a blank line or the
-- end of input, as long as no line brings it down. Without a log nothing else is written.
theorem run_transcribes (s : Session) (events : List Event)
    (h : ∀ text, .line text ∈ events → ∃ answer, answerLine s.mode text = .ok answer) :
    (∃ read outputs unread, s.Transcribes events read outputs unread) ∧
      (s.logTime = none → ∀ line, s.logText line = "") := by
  refine ⟨?_, fun hlog => s.logText_of_no_log hlog⟩
  induction events with
  | nil => exact ⟨[], [], [], s.transcribes_nil⟩
  | cons event events ih =>
      by_cases hends : event.Ends
      · exact ⟨[], [], events, s.transcribes_of_ends hends events⟩
      · obtain ⟨output, hrespond, hreacts⟩ := s.exists_reacts hends fun text htext =>
          h text (by simp [htext])
        obtain ⟨read, outputs, unread, hrest⟩ := ih fun text hmem =>
          h text (List.mem_cons_of_mem _ hmem)
        exact ⟨_, _, _, hrest.cons hends hrespond hreacts⟩

-- A malformed line and an interrupt come first, and a blank line leaves the rest unread.
theorem run_transcribes_blank_line :
    let s : Session := ⟨.mixed, "> ", none⟩
    let events : List Event :=
      [.line "1 +", .interrupt, .line " 27/5\t", .line "\u2003", .line "9", .interrupt]
    ∃ read outputs unread, s.Transcribes events read outputs unread ∧
      outputs = [⟨"", "! Error evaluating expression: Line does not parse as a valid expression: " ++
        "1 values for 1 operators\n"⟩, ⟨"^C\n", ""⟩, ⟨"= 5_2/5\n", ""⟩] ∧
      unread = [.line "9", .interrupt] := by
  intro s events
  have hanswers : ∀ text ∈ ["1 +", " 27/5\t", "\u2003", "9"],
      (answerLine s.mode text).isOk = true := by decide +kernel
  have hlines : ∀ text, Event.line text ∈ events → ∃ answer, answerLine s.mode text = .ok answer := by
    intro text htext
    have hok := hanswers text (by simpa [events] using htext)
    cases hanswer : answerLine s.mode text with
    | ok answer => exact ⟨answer, rfl⟩
    | error e => simp [hanswer, Except.isOk, Except.toBool] at hok
  obtain ⟨read, outputs, unread, htranscribes⟩ := (run_transcribes s events hlines).1
  refine ⟨read, outputs, unread, htranscribes, ?_⟩
  have hrun : s.run events = .ok ([⟨"", "! Error evaluating expression: Line does not parse as a " ++
      "valid expression: 1 values for 1 operators\n"⟩, ⟨"^C\n", ""⟩, ⟨"= 5_2/5\n", ""⟩] ++ [.empty],
      [.line "9", .interrupt]) := by decide +kernel
  rw [htranscribes.run_eq, Except.ok.injEq, Prod.mk.injEq, List.append_cancel_right_eq] at hrun
  exact hrun

end FractionCalculator
