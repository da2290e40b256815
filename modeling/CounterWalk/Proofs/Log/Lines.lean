import CounterWalk.Log.View

/-!
# The lines of a whole log

If nothing is held back there is one line for each event, and a span around some work shows as the
outermost span of each line of that work.

Main definitions:

- `Line.under`: a line seen from outside a span;
- `Log.executions`: the lines that tell which actions were done.

Main results:

- Theorem `Log.lines_full`: the lines of a log are its events.
- Theorem `Log.lines_within_full`: the lines of work done inside a span.
- Theorem `Line.tellsExecution_ofEvent`: an action that was done can be told by the text of a line.
-/

namespace CounterWalk

@[simp]
theorem Threshold.shows_full (l : Level) : full.shows l = true := by
  cases l <;> rfl

namespace Event

theorem head?_toList_append {s : String} {c : Char} (h : s.toList.head? = some c) (t : String) :
    (s ++ t).toList.head? = some c := by
  rw [String.toList_append, List.head?_append, h, Option.some_or]

/-- The letter with which the sentence that reports an event begins. -/
def initial : Event → Char
  | .flagChanged .. => 'F'
  | .valueDrawn _ | .rejected _ => 'R'
  | .counterMade .. | .counterIncremented _ | .counterReset | .mismatched .. => 'C'
  | .executed _ => 'E'
  | .modelReset => 'M'
  | .walkPassed _ | .walkFailed .. => 'W'

theorem head?_message (e : Event) : e.message.toList.head? = some e.initial := by
  cases e with
  | flagChanged a b =>
    exact head?_toList_append (head?_toList_append (head?_toList_append rfl _) _) _
  | valueDrawn v | counterIncremented v | executed a => exact head?_toList_append rfl _
  | counterMade v flag | rejected a | walkPassed n =>
    exact head?_toList_append (head?_toList_append rfl _) _
  | counterReset | modelReset => rfl
  | mismatched e v =>
    exact head?_toList_append (head?_toList_append (head?_toList_append rfl _) _) _
  | walkFailed k a e =>
    iterate 5 apply head?_toList_append
    rfl

end Event

namespace Line

/-- The line of an event inside spans. -/
def ofEvent (e : List Span × Event) : Line := ⟨e.2.level, e.2.message, e.1.map Span.describe⟩

/-- The line seen from outside a span. -/
def under (s : Span) (l : Line) : Line := { l with spans := s.describe :: l.spans }

/-- Whether a line tells that an action was done. -/
def tellsExecution (l : Line) : Bool := "Executed ".toList.isPrefixOf l.text.toList

theorem ofEvent_text (e : List Span × Event) : (ofEvent e).text = e.2.message :=
  rfl

/-- An action that was done can be told by the text of a line. -/
theorem tellsExecution_ofEvent (e : List Span × Event) :
    (ofEvent e).tellsExecution = true ↔ ∃ a, e.2 = .executed a := by
  rw [tellsExecution, List.isPrefixOf_iff_prefix]
  constructor
  · rintro ⟨rest, hrest⟩
    have hlead : "Executed ".toList.head? = some 'E' := by decide
    have hinitial : e.2.initial = 'E' := by
      have hhead := e.2.head?_message
      rw [← ofEvent_text, ← hrest, List.head?_append, hlead, Option.some_or] at hhead
      exact (Option.some.inj hhead).symm
    cases hevent : e.2 <;> simp [hevent, Event.initial] at hinitial ⊢
  · rintro ⟨a, ha⟩
    have htext : (ofEvent e).text = "Executed " ++ a.label := by
      rw [ofEvent_text, ha]
      rfl
    rw [htext, String.toList_append]
    exact List.prefix_append _ _

end Line

namespace Log

/-- The lines that tell which actions were done. -/
def executions (log : Log) : List Line := (log.lines .full).filter Line.tellsExecution

/-- The lines of a log are its events. -/
theorem lines_full (log : Log) : log.lines .full = log.events.map Line.ofEvent := by
  rw [lines, events, List.map_filterMap]
  congr 1
  funext e
  rcases e with ⟨spans, _ | _ | e⟩
  · rfl
  · rfl
  · have hspans : Threshold.full.spans spans = spans :=
      List.filter_eq_self.mpr fun s _ => Threshold.shows_full s.level
    simp [Entry.line?, Entry.event?, Line.ofEvent, hspans]

/-- The lines of work done inside a span. -/
theorem lines_within_full (s : Span) (log : Log) :
    (log.within s).lines .full = (log.lines .full).map (Line.under s) := by
  rw [lines_full, lines_full, events_within, List.map_map, List.map_map]
  rfl

theorem lines_append_event (log : Log) (spans : List Span) (e : Event) :
    (log ++ [⟨spans, .event e⟩] : Log).lines .full =
      log.lines .full ++ [Line.ofEvent (spans, e)] := by
  rw [lines_append, lines_full [_]]
  rfl

theorem executions_eq_nil_iff {log : Log} :
    log.executions = [] ↔ ∀ e ∈ log.events, ∀ a, e.2 ≠ .executed a := by
  simp only [executions, lines_full, List.filter_eq_nil_iff, List.forall_mem_map,
    Line.tellsExecution_ofEvent, not_exists, ne_eq]

theorem executions_append (l₁ l₂ : Log) :
    executions (l₁ ++ l₂) = l₁.executions ++ l₂.executions := by
  rw [executions, lines_append, List.filter_append]
  rfl

theorem executions_append_executed (log : Log) (spans : List Span) (a : Action) :
    executions (log ++ [⟨spans, .event (.executed a)⟩]) =
      log.executions ++ [Line.ofEvent (spans, .executed a)] := by
  have htells : (Line.ofEvent (spans, .executed a)).tellsExecution = true :=
    (Line.tellsExecution_ofEvent _).mpr ⟨a, rfl⟩
  rw [executions, lines_append_event, List.filter_append, List.filter_cons_of_pos htells]
  rfl

/-- Only the note of an action that was done tells of one. -/
theorem executions_append_event_of_ne {e : Event} (log : Log) (spans : List Span)
    (h : ∀ a, e ≠ .executed a) : executions (log ++ [⟨spans, .event e⟩]) = log.executions := by
  have htells : ¬ (Line.ofEvent (spans, e)).tellsExecution = true := by
    rw [Line.tellsExecution_ofEvent, not_exists]
    exact h
  rw [executions, lines_append_event, List.filter_append, List.filter_cons_of_neg htells]
  exact List.append_nil _

theorem executions_within (s : Span) (log : Log) :
    (log.within s).executions = log.executions.map (Line.under s) := by
  rw [executions, lines_within_full, List.filter_map]
  rfl

end Log

end CounterWalk
