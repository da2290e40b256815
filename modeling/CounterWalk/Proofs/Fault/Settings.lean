import CounterWalk.CommandLine.Run
import CounterWalk.Proofs.Log.Changes
import CounterWalk.Proofs.Walk.Notes

/-!
# What work sets the flag to

A piece of work sets the flag to some values, one after another, or to none.  This says what flag it
leaves and which changes it notes.  Such a description of two pieces of work is one of the first
followed by the second, so each function is described from the functions that it is made of: guards
set the flag once, a run of the options sets it once, and making counters, doing actions and walking
do not set it at all.

Main definition:

- `SetsFlag`: the values to which work sets the flag.

Main results:

- Theorem `SetsFlag.bind`: work that is followed by other work.
- Theorem `SetsFlag.recounts`: the log of work tells the story of the flag.
- Theorem `Guard.setsFlag_engage` and `Guard.setsFlag_release`: guards.
- Theorem `WalkPlan.setsFlag_run`: walks leave the flag alone.
- Theorem `Options.setsFlag_run`: a run of the options sets the flag once.
-/

namespace CounterWalk

/-- Work that finds the flag with a value sets it to others one after another: it leaves the flag,
which is seen in the outcome of the work, at the last of them, and notes the changes among them. -/
structure SetsFlag {α : Type} (flag : α → Bool) (before : Bool) (values : List Bool)
    (work : Logged α) : Prop where
  left : flag work.value = values.getLastD before
  noted : work.log.flagChanges = Log.changesFrom before values

namespace SetsFlag

variable {α β : Type} {flag : α → Bool} {flag' : β → Bool} {before : Bool}
  {values later : List Bool} {work : Logged α} {next : α → Logged β}

theorem pure {a : α} (h : flag a = before) : SetsFlag flag before [] (pure a) :=
  ⟨h, rfl⟩

/-- Work that is followed by other work sets the flag to the values of both. -/
theorem bind (h : SetsFlag flag before values work)
    (hnext : SetsFlag flag' (flag work.value) later (next work.value)) :
    SetsFlag flag' before (values ++ later) (work >>= next) where
  left := by
    rw [Logged.value_bind, hnext.left, h.left, List.getLastD_eq_getLast?, List.getLastD_eq_getLast?,
      List.getLastD_eq_getLast?, List.getLast?_append]
    cases later.getLast? <;> rfl
  noted := by
    rw [Logged.log_bind, Log.flagChanges_append, h.noted, hnext.noted, h.left,
      Log.changesFrom_append]

/-- What is left to do when all is noted: the outcome is put together. -/
theorem bind_pure (h : SetsFlag flag before values work) {f : α → β}
    (hflag : flag' (f work.value) = flag work.value) :
    SetsFlag flag' before values (work >>= fun a => Pure.pure (f a)) := by
  have hnext : SetsFlag flag' (flag work.value) [] (Pure.pure (f work.value)) := ⟨hflag, rfl⟩
  rw [← List.append_nil values]
  exact h.bind hnext

theorem within (h : SetsFlag flag before values work) (s : Span) :
    SetsFlag flag before values (work.within s) :=
  ⟨h.left, by rw [Logged.log_within, Log.flagChanges_within, h.noted]⟩

/-- The changes that work notes are the story of the flag. -/
theorem recounts (h : SetsFlag flag before values work) :
    Log.Recounts before work.log.flagChanges (flag work.value) := by
  rw [h.noted, h.left]
  exact Log.recounts_changesFrom before values

/-- Work that sets the flag once at most notes just how the flag is changed by it. -/
theorem flagChanges_eq_change (h : SetsFlag flag before values work) (honce : values.length ≤ 1) :
    work.log.flagChanges = Log.change before (flag work.value) := by
  rw [h.noted, h.left, Log.changesFrom_of_length_le_one before honce]

/-- A note that is none of a change leaves the flag alone. -/
theorem note {e : Event} (h : e.flagChange? = none) (b : Bool) :
    SetsFlag (fun _ => b) b [] (Logged.note e) :=
  ⟨rfl, by rw [Logged.log_note, Log.flagChanges_event, h]; rfl⟩

/-- Work that leaves the flag alone does so however often it is done. -/
theorem times (flag : α → Bool) {f : α → Logged α} (h : ∀ a, SetsFlag flag (flag a) [] (f a))
    (n : Nat) (a : α) : SetsFlag flag (flag a) [] (Logged.times f n a) := by
  induction n with
  | zero => exact pure rfl
  | succ n ih =>
    rw [Logged.times_succ]
    exact ih.bind (h _)

end SetsFlag

/-! ## The flag and its guards -/

theorem Environment.setsFlag_setFaulty (v : Bool) (env : Environment) :
    SetsFlag faulty env.faulty [v] (env.setFaulty v) where
  left := rfl
  noted := by
    by_cases h : env.faulty = v
    · simp [setFaulty, Log.changesFrom, Log.change, h]
    · simp [setFaulty, Log.changesFrom, Log.change, h, Log.flagChanges_event, Event.flagChange?]

namespace Guard

theorem setsFlag_engage (v : Bool) (env : Environment) :
    SetsFlag (fun x => x.2.faulty) env.faulty [v] (engage v env) :=
  (env.setsFlag_setFaulty v).bind_pure rfl

theorem setsFlag_release (g : Guard) (env : Environment) :
    SetsFlag Environment.faulty env.faulty [g.previous] (g.release env) :=
  env.setsFlag_setFaulty g.previous

end Guard

/-! ## Making and changing counters -/

theorem WordSource.faulty_draw (source : WordSource) (env : Environment) :
    (source.draw env).2.2.faulty = env.faulty := by
  cases source <;> rfl

namespace StartSource

theorem setsFlag_draw (source : StartSource) (env : Environment) :
    SetsFlag (fun x => x.2.2.faulty) env.faulty [] (source.draw env) := by
  cases source with
  | zero | fixed => exact ⟨rfl, rfl⟩
  | randomized words =>
    exact (SetsFlag.note rfl env.faulty).bind_pure (words.faulty_draw env)
  | cycle first others ahead => cases ahead <;> exact ⟨rfl, rfl⟩

theorem setsFlag_drawMany (source : StartSource) (env : Environment) (n : Nat) :
    SetsFlag (fun d => d.environment.faulty) env.faulty [] (source.drawMany env n) :=
  SetsFlag.times (fun d : Drawing => d.environment.faulty)
    (fun d => (d.source.setsFlag_draw d.environment).bind_pure rfl) n
    { source, environment := env }

end StartSource

namespace Counter

theorem setsFlag_ofSource (source : StartSource) (env : Environment) :
    SetsFlag (fun x => x.2.2.faulty) env.faulty [] (ofSource source env) :=
  (source.setsFlag_draw env).bind ((SetsFlag.note rfl _).bind_pure rfl)

theorem setsFlag_ofFlag (env : Environment) :
    SetsFlag (fun x => x.2.faulty) env.faulty [] (ofFlag env) :=
  ((StartSource.forFlag env.faulty).setsFlag_draw env).bind ((SetsFlag.note rfl _).bind_pure rfl)

theorem setsFlag_increment (c : Counter) (b : Bool) : SetsFlag (fun _ => b) b [] c.increment :=
  SetsFlag.within ((SetsFlag.note rfl b).bind_pure rfl) _

theorem setsFlag_incrementMany (c : Counter) (n : Nat) (b : Bool) :
    SetsFlag (fun _ => b) b [] (c.incrementMany n) :=
  SetsFlag.times (fun _ => b) (fun c => c.setsFlag_increment b) n c

theorem setsFlag_reset (c : Counter) (b : Bool) : SetsFlag (fun _ => b) b [] c.reset :=
  SetsFlag.within ((SetsFlag.note rfl b).bind_pure rfl) _

end Counter

theorem Supply.setsFlag_make (supply : Supply) :
    SetsFlag (fun x => x.2.environment.faulty) supply.environment.faulty [] (make supply) := by
  obtain ⟨maker, env⟩ := supply
  cases maker with
  | flagged => exact (Counter.setsFlag_ofFlag env).bind_pure rfl
  | drawing source => exact (Counter.setsFlag_ofSource source env).bind_pure rfl

/-! ## Models and walks -/

namespace Model

/-- The flag that a model's supply of counters is under. -/
def faulty (m : Model Supply) : Bool := m.supply.environment.faulty

theorem setsFlag_done (a : Action) (m : Model Supply) :
    SetsFlag (fun x => x.2.faulty) m.faulty [] (done a m) :=
  (SetsFlag.note rfl m.faulty).bind_pure rfl

/-- The end of an action that failed. -/
theorem setsFlag_refused {e : Event} (h : e.flagChange? = none) (error : ModelError)
    (m : Model Supply) :
    SetsFlag (fun x : Outcome × Model Supply => x.2.faulty) m.faulty [] (do
      Logged.note e
      return (.error error, m)) :=
  (SetsFlag.note h m.faulty).bind_pure rfl

theorem setsFlag_perform (m : Model Supply) (a : Action) :
    SetsFlag (fun x => x.2.faulty) m.faulty [] (m.perform Supply.make a) := by
  obtain ⟨counter, expected, supply⟩ := m
  cases counter with
  | none =>
    cases a with
    | create =>
      exact supply.setsFlag_make.bind (setsFlag_done .create
        ⟨some supply.make.value.1, 0, supply.make.value.2⟩)
    | destroy | increment | reset | count => exact setsFlag_refused rfl _ ⟨_, expected, supply⟩
  | some c =>
    cases a with
    | create => exact setsFlag_refused rfl _ ⟨_, expected, supply⟩
    | destroy => exact setsFlag_done .destroy ⟨none, expected, supply⟩
    | increment =>
      exact (c.setsFlag_increment supply.environment.faulty).bind
        (setsFlag_done .increment ⟨some c.increment.value, expected + 1, supply⟩)
    | reset =>
      exact (c.setsFlag_reset supply.environment.faulty).bind
        (setsFlag_done .reset ⟨some c.reset.value, 0, supply⟩)
    | count =>
      by_cases h : c.value = expected
      · simp only [perform, if_pos h]
        exact setsFlag_done .count ⟨some c, expected, supply⟩
      · simp only [perform, if_neg h]
        exact setsFlag_refused rfl _ ⟨_, expected, supply⟩

theorem setsFlag_execute (m : Model Supply) (a : Action) :
    SetsFlag (fun x => x.2.faulty) m.faulty [] (m.execute Supply.make a) :=
  (m.setsFlag_perform a).within _

theorem setsFlag_runScript (actions : List Action) (m : Model Supply) :
    SetsFlag (fun x => x.2.faulty) m.faulty [] (runScript Supply.make actions m) := by
  induction actions generalizing m with
  | nil => exact ⟨rfl, rfl⟩
  | cons a actions ih =>
    refine (m.setsFlag_execute a).bind ?_
    generalize (m.execute Supply.make a).value = result
    obtain ⟨outcome, m'⟩ := result
    cases outcome with
    | ok _ => exact ih m'
    | error e => exact ⟨rfl, rfl⟩

theorem setsFlag_reset (m : Model Supply) : SetsFlag faulty m.faulty [] m.reset :=
  (SetsFlag.note rfl m.faulty).bind_pure rfl

end Model

theorem WalkPlan.setsFlag_run (plan : WalkPlan) (m : Model Supply) :
    SetsFlag (fun x => x.2.faulty) m.faulty [] (plan.run Supply.make m) where
  left := by
    rw [run_value]
    exact (m.setsFlag_runScript (plan.itinerary m)).left
  noted := by
    obtain ⟨last, hlog, hpass, hfail⟩ := plan.exists_log_run Supply.make m
    have hlast : last.flagChange? = none := by
      cases hverdict : (plan.run Supply.make m).value.1.verdict with
      | pass =>
        rw [hpass hverdict]
        rfl
      | fail step reason =>
        obtain ⟨a, e, -, -, rfl⟩ := hfail step reason hverdict
        rfl
    rw [hlog, Log.flagChanges_within, Log.flagChanges_append, Log.flagChanges_event, hlast,
      (Model.setsFlag_runScript _ m).noted]
    rfl

/-- A run of the options sets the flag as they say, and does not set it again. -/
theorem Options.setsFlag_run (o : Options) (env : Environment) :
    SetsFlag (fun x => x.2.faulty) env.faulty [o.faulty] (o.run env) := by
  have hseed : (o.walkSeed (env.setFaulty o.faulty).value).2.faulty = o.faulty := by
    cases hseed : o.seed <;> simp [walkSeed, hseed]
  change SetsFlag _ _ ([o.faulty] ++ []) _
  refine (env.setsFlag_setFaulty o.faulty).bind ?_
  have hwalk := WalkPlan.setsFlag_run
    ⟨(o.walkSeed (env.setFaulty o.faulty).value).1, o.steps⟩
    { supply := { environment := (o.walkSeed (env.setFaulty o.faulty).value).2 } }
  rw [Model.faulty, hseed] at hwalk
  exact hwalk.bind_pure rfl

end CounterWalk
