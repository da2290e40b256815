import CounterWalk.Log.Filter

/-!
# Views of the log

Lines show the events up to a threshold, each with the spans around it that are shown. Records are
made under a filter, and tell also when a span opens and closes.

Main definitions:

- `Log.lines`: the events, one line each;
- `Log.records`: the events and the ends of spans, one record each.
-/

namespace CounterWalk

/-- The spans that are shown under a threshold. -/
def Threshold.spans (t : Threshold) (spans : List Span) : List Span :=
  spans.filter fun s => t.shows s.level

/-- An event as it is shown. -/
structure Line where
  level : Level
  text : String
  spans : List String
deriving DecidableEq, Repr

/-- An entry as it is kept in a file. -/
structure Record where
  level : Level
  text : String
  /-- The fields of the spans, in which an inner span comes before an outer one of the same name. -/
  fields : List (String × String)
deriving DecidableEq, Repr

namespace Span

/-- The name in capital letters. -/
def heading (s : Span) : String := s.name.toUpper

/-- The fields of spans, the outermost first; of two fields of one name the inner one is kept. -/
def fields (spans : List Span) : List (String × String) :=
  spans.foldl (fun fs s => fs.filter (·.1 ≠ s.field.1) ++ [s.field]) []

end Span

namespace Entry

/-- The line of an entry that notes an event. -/
def line? (t : Threshold) (e : Entry) : Option Line :=
  match e.mark with
  | .event ev =>
    if t.shows ev.level then
      some ⟨ev.level, ev.message, (t.spans e.spans).map Span.describe⟩
    else none
  | .opened | .closed => none

/-- The text for the beginning or the end of the innermost span, or for an event inside it. -/
def heading (s : Span) (what : String) : String := "[" ++ s.heading ++ " - " ++ what ++ "]"

/-- The record of an end of the innermost span, if that is shown. -/
def spanRecord? (f : Filter) (spans : List Span) (what : String) : Option Record := do
  let s ← spans.getLast?
  let (around, scope) := f.visible [] spans.dropLast
  if f.showsSpan scope s then
    some ⟨s.level, heading s what, Span.fields (around ++ [s])⟩
  else none

/-- The record of an event, if it is shown. -/
def eventRecord? (f : Filter) (spans : List Span) (e : Event) : Option Record :=
  let (spans, scope) := f.visible [] spans
  if f.showsEvent scope e then
    let text := match spans.getLast? with
      | none => e.message
      | some s => heading s "EVENT" ++ " " ++ e.message
    some ⟨e.level, text, Span.fields spans⟩
  else none

/-- The record of an entry. -/
def record? (f : Filter) (e : Entry) : Option Record :=
  match e.mark with
  | .opened => spanRecord? f e.spans "START"
  | .closed => spanRecord? f e.spans "END"
  | .event ev => eventRecord? f e.spans ev

end Entry

namespace Log

/-- The events that are shown, in order. -/
def lines (t : Threshold) (log : Log) : List Line := log.filterMap (Entry.line? t)

/-- The records that are shown, in order. -/
def records (f : Filter) (log : Log) : List Record := log.filterMap (Entry.record? f)

theorem lines_append (t : Threshold) (l₁ l₂ : Log) :
    lines t (l₁ ++ l₂) = lines t l₁ ++ lines t l₂ := List.filterMap_append

theorem records_append (f : Filter) (l₁ l₂ : Log) :
    records f (l₁ ++ l₂) = records f l₁ ++ records f l₂ := List.filterMap_append

end Log

end CounterWalk
