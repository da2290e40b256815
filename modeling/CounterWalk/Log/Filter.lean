import CounterWalk.Log.Directive

/-!
# Filters

A filter says what is shown of the log. It is written as directives between commas. A directive that
names neither a span nor the value of a field sets a threshold for the spans and events of the parts
of the program that it is about; where several do, the most special one decides. A directive that
names a span or a field selects spans: those that it is about are shown themselves, and while they
last its threshold holds for all that happens inside them.

Main definitions:

- `Filter.ofText?`: the filter that a text spells;
- `Filter.showsEvent`, `Filter.showsSpan`: whether an event or a span is shown, inside spans that
  set thresholds;
- `Filter.visible`: the spans that are shown out of those around an entry.
-/

namespace CounterWalk

namespace FieldTest

/-- Whether a field is less special than another. Any field is more special than none, and of two
the name that comes later is. -/
def precedes : Option FieldTest → Option FieldTest → Bool
  | none, none | some _, none => false
  | none, some _ => true
  | some a, some b => a.name < b.name

end FieldTest

namespace Selection

/-- Whether a selection is about whole parts of the program. -/
def isBroad (s : Selection) : Bool := s.span.isNone && s.field.all (·.value.isNone)

/-- Whether a selection is about spans of a name or with a field. -/
def isNarrow (s : Selection) : Bool := s.span.isSome || s.field.isSome

/-- Whether a selection is less special than another that is about the same. -/
def precedes (a b : Selection) : Bool :=
  a.target.length < b.target.length ||
    (a.target.length = b.target.length && FieldTest.precedes a.field b.field)

/-- Whether a broad selection is about an event. Events have no field but their message. -/
def coversEvent (s : Selection) (e : Event) : Bool :=
  s.isBroad && s.target.isPrefixOf e.origin.toList && s.field.all (·.name = "message")

/-- Whether a broad selection is about a span. -/
def coversSpan (s : Selection) (span : Span) : Bool :=
  s.isBroad && s.target.isPrefixOf span.origin.toList

/-- Whether a narrow selection is about a span, whatever the values of its fields. -/
def selects (s : Selection) (span : Span) : Bool :=
  s.isNarrow && s.target.isPrefixOf span.origin.toList && s.span.all (· = span.name) &&
    s.field.all (·.name = span.field.1)

/-- Whether the field of a span is as the selection asks. -/
def holds (s : Selection) (span : Span) : Bool :=
  s.field.all fun f => f.value.all (·.holds span.field.2)

end Selection

/-- The directives in the order in which they are written. -/
abbrev Filter := List Directive

namespace Filter

/-- What is shown without any filter. -/
def usual : Filter := [{ threshold := some .info }]

/-- The filter that a text spells. Empty directives do not count, and if there are no others only
errors are shown. -/
def ofText? (text : String) : Except FilterError Filter :=
  match (text.toList.splitOn ',').filter (!·.isEmpty) with
  | [] => return [{ threshold := some .error }]
  | parts => parts.mapM Directive.ofText?

/-- The directives of which no later one is about the same. -/
def latest : Filter → Filter
  | [] => []
  | d :: rest => if rest.any (·.selection = d.selection) then latest rest else d :: latest rest

/-- The most special directive, and of several such the last. -/
def deciding? (f : Filter) : Option Directive :=
  f.foldl
    (fun best d => match best with
      | none => some d
      | some b => if d.selection.precedes b.selection then some b else some d)
    none

/-- The threshold of the directive that decides among some. -/
def decided (f : Filter) : Threshold := f.deciding?.elim none Directive.threshold

/-- What may be shown at all. A directive with the value of a field may be about any span. -/
def reach (f : Filter) : Threshold :=
  if f.any fun d => d.selection.field.any (·.value.isSome) then .full
  else .unions (f.map Directive.threshold)

/-- Whether a directive selects a span. -/
def selects (f : Filter) (s : Span) : Bool := f.any (·.selection.selects s)

/-- The threshold that holds inside a span that is selected. -/
def threshold (f : Filter) (s : Span) : Threshold :=
  .unions ((f.latest.filter fun d => d.selection.selects s && d.selection.holds s).map
    Directive.threshold)

/-- Whether an event is shown, where the spans around it set thresholds. -/
def showsEvent (f : Filter) (scope : List Threshold) (e : Event) : Bool :=
  scope.any (·.shows e.level) || (decided (f.filter (·.selection.coversEvent e))).shows e.level

/-- Whether a span is shown, where the spans around it set thresholds. -/
def showsSpan (f : Filter) (scope : List Threshold) (s : Span) : Bool :=
  (f.selects s && f.reach.shows s.level) || scope.any (·.shows s.level) ||
    (decided (f.filter (·.selection.coversSpan s))).shows s.level

/-- The spans that are shown, where the spans around them set thresholds, and the thresholds inside
all of them. -/
def visible (f : Filter) (scope : List Threshold) : List Span → List Span × List Threshold
  | [] => ([], scope)
  | s :: rest =>
    if f.showsSpan scope s then
      let inside := if f.selects s then f.threshold s :: scope else scope
      let (shown, scope) := f.visible inside rest
      (s :: shown, scope)
    else f.visible scope rest

end Filter

end CounterWalk
