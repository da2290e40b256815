import Mathlib.Data.Int.ModEq
import Mathlib.Data.List.DropRight
import Mathlib.Logic.Function.Basic
import CounterWalk.Session.Command

/-!
# The counters of a session and their biographies

A session makes counters, moves them, copies them and drops them, while the fault flag goes up and
down, guards come and go and a model works with counters of its own.  A biography tells of one
counter alone: the value that it started from and what was done to it since.  A copy takes the
biography with it.  This is all that the value of a counter depends on.

Main results:

- Theorem `Biography.Tells.unique`: a biography tells one number.
- Theorem `Session.Faithful.after`: whatever a session is asked to do, biographies that were
  faithful to its counters still are when they have been continued.
- Theorem `Session.recordAll_of_not_replaces`: while a name keeps its counter, the biography grows
  by what is done under this name, and by nothing else.
- Theorem `Session.counters_follow_biographies`: after any commands the biographies tell the values
  of all counters, what is answered about them, and which of them are equal.
-/

namespace CounterWalk

/-! ## Biographies -/

/-- What can be done to a counter once it is made. -/
inductive Deed where
  | increment
  | reset
deriving DecidableEq, Repr

/-- The value that a counter started from and what was done to it since, first things first. -/
structure Biography where
  start : Int64
  deeds : List Deed := []
deriving DecidableEq, Repr

namespace Biography

variable {b : Biography} {v : Int64} {y z : Int}

/-- The number from which the increments are counted. -/
def base (b : Biography) : Int := if .reset ∈ b.deeds then 0 else b.start.toInt

/-- The number of increments since the last reset, or since the start if there was none. -/
def increments (b : Biography) : Nat := (b.deeds.rtakeWhile (· ≠ .reset)).length

/-- The biography with later deeds. -/
def add (b : Biography) (ds : List Deed) : Biography := { b with deeds := b.deeds ++ ds }

theorem add_add (b : Biography) (ds ds' : List Deed) : (b.add ds).add ds' = b.add (ds ++ ds') := by
  simp [add, List.append_assoc]

@[simp] theorem add_nil (b : Biography) : b.add [] = b := by simp [add]

@[simp] theorem base_start (v : Int64) : base { start := v } = v.toInt := by simp [base]

@[simp] theorem increments_start (v : Int64) : increments { start := v } = 0 := by
  simp [increments]

@[simp] theorem base_add_increment (b : Biography) : (b.add [.increment]).base = b.base := by
  simp [base, add]

@[simp]
theorem increments_add_increment (b : Biography) :
    (b.add [.increment]).increments = b.increments + 1 := by
  simp [increments, add]

@[simp] theorem base_add_reset (b : Biography) : (b.add [.reset]).base = 0 := by simp [base, add]

@[simp] theorem increments_add_reset (b : Biography) : (b.add [.reset]).increments = 0 := by
  simp [increments, add]

/-- The biography tells a number: a signed one of 64 bits that agrees with the count of the
increments up to multiples of `2 ^ 64`. -/
structure Tells (b : Biography) (z : Int) : Prop where
  least : -2 ^ 63 ≤ z
  greatest : z < 2 ^ 63
  congr : z ≡ b.base + b.increments [ZMOD 2 ^ 64]

namespace Tells

/-- Numbers of the range that agree up to multiples of its length are equal. -/
theorem unique (hy : b.Tells y) (hz : b.Tells z) : y = z := by
  have hdvd : (2 ^ 64 : Int) ∣ z - y := (hy.congr.trans hz.congr.symm).dvd
  obtain ⟨hleast, hgreatest, -⟩ := hy
  obtain ⟨hleast', hgreatest', -⟩ := hz
  omega

/-- The value of a counter is told as soon as it agrees with the count. -/
theorem of_modEq (h : v.toInt ≡ b.base + b.increments [ZMOD 2 ^ 64]) : b.Tells v.toInt :=
  ⟨v.le_toInt, v.toInt_lt, h⟩

/-- A counter that has just been made is where it started. -/
theorem start (v : Int64) : Tells { start := v } v.toInt := of_modEq (by simp)

/-- One step up is one more increment, also where the values wrap. -/
theorem succ {c : Counter} (h : b.Tells c.value.toInt) :
    (b.add [.increment]).Tells c.succ.value.toInt := by
  apply of_modEq
  calc c.succ.value.toInt
      ≡ c.value.toInt + 1 [ZMOD 2 ^ 64] := by
        rw [Counter.value_succ, Int64.toInt_add]
        exact Int.bmod_emod
    _ ≡ b.base + b.increments + 1 [ZMOD 2 ^ 64] := h.congr.add_right 1
    _ = (b.add [.increment]).base + (b.add [.increment]).increments := by
        simp [Int.add_assoc]

/-- After a reset nothing of what was before counts. -/
theorem zero (b : Biography) : (b.add [.reset]).Tells Counter.zero.value.toInt :=
  of_modEq (by simp)

end Tells

/-- A reading shows the value of the biography or, if the counter was not reset, how far it has come
from where it started. -/
def Shows (b : Biography) : Reading → Prop
  | .exact v => b.Tells v.toInt
  | .moved d => .reset ∉ b.deeds ∧ d.toInt ≡ b.increments [ZMOD 2 ^ 64]

/-- What a session keeps of a counter goes by its biography. -/
structure Follows (b : Biography) (t : Tracked) : Prop where
  value : b.Tells t.counter.value.toInt
  origin : ∀ v, t.origin = some v → v = b.start ∧ .reset ∉ b.deeds

namespace Follows

variable {c : Biography} {t u : Tracked}

theorem start (v : Int64) (isRandom : Bool) :
    Follows { start := v } (Tracked.start ⟨v⟩ isRandom) where
  value := Tells.start v
  origin w hw := by cases isRandom <;> simp_all [Tracked.start]

theorem increment (h : Follows b t) :
    Follows (b.add [.increment]) { t with counter := t.counter.succ } where
  value := h.value.succ
  origin v hv := by
    obtain ⟨rfl, hreset⟩ := h.origin v hv
    exact ⟨rfl, by simp [add, hreset]⟩

/-- Many steps up are as many increments. -/
theorem incrementMany (h : Follows b t) (n : Nat) :
    Follows (b.add (List.replicate n .increment))
      { t with counter := (t.counter.incrementMany n).value } := by
  induction n with
  | zero => simpa [Counter.incrementMany] using h
  | succ n ih =>
    rw [List.replicate_succ', ← add_add, Counter.incrementMany, Logged.times_succ]
    exact ih.increment

theorem reset (b : Biography) : Follows (b.add [.reset]) { counter := .zero } where
  value := Tells.zero b
  origin _ hv := nomatch hv

/-- What is told of the counter is what the biography shows. -/
theorem shows (h : Follows b t) : b.Shows t.reading := by
  cases horigin : t.origin with
  | none =>
    rw [Tracked.reading, horigin]
    exact h.value
  | some v =>
    obtain ⟨rfl, hreset⟩ := h.origin v horigin
    rw [Tracked.reading, horigin]
    refine ⟨hreset, ?_⟩
    have hbase : b.base = b.start.toInt := if_neg hreset
    calc (t.counter.value - b.start).toInt
        ≡ t.counter.value.toInt - b.start.toInt [ZMOD 2 ^ 64] := by
          rw [Int64.toInt_sub]
          exact Int.bmod_emod
      _ ≡ b.base + b.increments - b.start.toInt [ZMOD 2 ^ 64] := h.value.congr.sub_right _
      _ = b.increments := by rw [hbase]; omega

/-- The value of the counter is the one number that the biography tells. -/
theorem tells_iff (h : Follows b t) : b.Tells z ↔ z = t.counter.value.toInt :=
  ⟨fun hz => hz.unique h.value, fun hz => hz ▸ h.value⟩

/-- Counters are equal if their biographies tell one number. -/
theorem counter_eq_iff (hb : Follows b t) (hc : Follows c u) (hy : b.Tells y) (hz : c.Tells z) :
    t.counter = u.counter ↔ y = z := by
  obtain rfl := hb.tells_iff.mp hy
  obtain rfl := hc.tells_iff.mp hz
  rw [Int64.toInt_inj, Counter.mk.injEq]

end Follows

end Biography

/-! ## What commands do to counters -/

namespace Command

/-- What a command does to the counter under a name. -/
def deedsOn (name : String) : Command → List Deed
  | .increment counter n => if counter = name then List.replicate n .increment else []
  | .reset counter => if counter = name then [.reset] else []
  | _ => []

/-- Whether a command may put another counter under a name, or leave none there. -/
def replaces (name : String) : Command → Bool
  | .make counter | .makeFrom counter _ | .copy _ counter | .discard counter => counter = name
  | _ => false

end Command

namespace Session

variable {s : Session} {told : String → Option Biography} {name : String} {c : Command}

/-- The starting value that a source gives next. -/
def startFrom (source : StartSource) (s : Session) : Int64 := (source.draw s.environment).value.1

/-- The biographies after a command.  Only here is it seen where a new counter starts; after that a
biography grows by deeds alone. -/
def record (c : Command) (s : Session) (told : String → Option Biography) :
    String → Option Biography :=
  match c with
  | .make counter =>
    Function.update told counter (some { start := s.startFrom (.forFlag s.faulty) })
  | .makeFrom counter source =>
    match s.sources.get? source with
    | none => told
    | some source => Function.update told counter (some { start := s.startFrom source })
  | .increment counter _ | .reset counter =>
    Function.update told counter ((told counter).map fun b => b.add (c.deedsOn counter))
  | .copy counter target =>
    match told counter with
    | none => told
    | some b => Function.update told target (some b)
  | .discard counter => Function.update told counter none
  | _ => told

/-- The biographies after commands that are done one after another. -/
def recordAll : List Command → Session → (String → Option Biography) → String → Option Biography
  | [], _, told => told
  | c :: cs, s, told => recordAll cs (s.attempt c).value.2 (s.record c told)

theorem recordAll_append (cs later : List Command) (s : Session)
    (told : String → Option Biography) :
    recordAll (cs ++ later) s told =
      recordAll later (performAll cs s).value.2 (recordAll cs s told) := by
  induction cs generalizing s told with
  | nil => rfl
  | cons c cs ih => exact ih _ _

/-! ## A name that keeps its counter -/

/-- A command that leaves its counter to a name adds what it does there, and nothing else. -/
theorem record_of_not_replaces (s : Session) (told : String → Option Biography)
    (h : c.replaces name = false) :
    s.record c told name = (told name).map fun b => b.add (c.deedsOn name) := by
  cases c with
  | make counter | discard counter =>
    have hne : name ≠ counter := fun heq => by simp [Command.replaces, heq] at h
    simp [record, Command.deedsOn, hne]
  | makeFrom counter source =>
    have hne : name ≠ counter := fun heq => by simp [Command.replaces, heq] at h
    cases hsource : s.sources.get? source <;> simp [record, Command.deedsOn, hsource, hne]
  | copy counter target =>
    have hne : name ≠ target := fun heq => by simp [Command.replaces, heq] at h
    cases hcounter : told counter <;> simp [record, Command.deedsOn, hcounter, hne]
  | increment counter n | reset counter =>
    by_cases heq : name = counter
    · subst heq
      simp [record]
    · simp [record, Command.deedsOn, heq, Ne.symm heq]
  | _ => simp [record, Command.deedsOn]

/-- As long as a name keeps its counter, the biography grows by what is done under this name:
nothing else that is done in between leaves a trace in it. -/
theorem recordAll_of_not_replaces {later : List Command} (s : Session)
    (told : String → Option Biography) (h : ∀ c ∈ later, c.replaces name = false) :
    recordAll later s told name =
      (told name).map fun b => b.add (later.flatMap fun c => c.deedsOn name) := by
  induction later generalizing s told with
  | nil => simp [recordAll]
  | cons c later ih =>
    rw [List.forall_mem_cons] at h
    rw [recordAll, ih _ _ h.2, record_of_not_replaces s told h.1, Option.map_map]
    simp [Function.comp_def, Biography.add_add]

/-! ## Biographies and counters -/

/-- Every counter that is kept goes by the biography under its name, and no other name has a
biography. -/
def Faithful (told : String → Option Biography) (counters : Slots Tracked) : Prop :=
  ∀ name, Option.Rel Biography.Follows (told name) (counters.get? name)

namespace Faithful

variable {counters : Slots Tracked} {b : Biography} {t : Tracked}

theorem nil : Faithful (fun _ => none) [] := fun _ => .none

theorem put (h : Faithful told counters) (name : String) (hb : b.Follows t) :
    Faithful (Function.update told name (some b)) (counters.put name t) := by
  intro other
  by_cases heq : other = name
  · subst heq
    rw [Function.update_self, Slots.get?_put_self]
    exact .some hb
  · rw [Function.update_of_ne heq, Slots.get?_put_of_ne counters t heq]
    exact h other

theorem remove (h : Faithful told counters) (name : String) :
    Faithful (Function.update told name none) (counters.remove name) := by
  intro other
  by_cases heq : other = name
  · subst heq
    rw [Function.update_self, Slots.get?_remove_self]
    exact .none
  · rw [Function.update_of_ne heq, Slots.get?_remove_of_ne counters heq]
    exact h other

/-- A name has a biography and a counter that goes by it, or neither. -/
theorem none_or_follows (h : Faithful told counters) (name : String) :
    (told name = none ∧ counters.get? name = none) ∨
      ∃ b t, told name = some b ∧ counters.get? name = some t ∧ b.Follows t :=
  match told name, counters.get? name, h name with
  | none, none, .none => .inl ⟨rfl, rfl⟩
  | some b, some t, .some hb => .inr ⟨b, t, rfl, rfl, hb⟩

/-- What is done to the counter under a name, if there is one, is added to its biography. -/
theorem change (h : Faithful told counters) (name : String) {f : Tracked → Tracked}
    {ds : List Deed} (hf : ∀ b : Biography, ∀ t, b.Follows t → (b.add ds).Follows (f t)) :
    Faithful (Function.update told name ((told name).map fun b => b.add ds))
      ((counters.get? name).elim counters fun t => counters.put name (f t)) := by
  rcases h.none_or_follows name with ⟨htold, hkept⟩ | ⟨b, t, htold, hkept, hb⟩
  · rw [hkept, htold, Option.map_none, ← htold, Function.update_eq_self]
    exact h
  · rw [hkept, htold]
    exact h.put name (hf b t hb)

end Faithful

theorem counters_attempt (c : Command) (s : Session) :
    (s.attempt c).value.2.counters =
      ((s.perform c).elim s.counters fun work => work.value.2.counters) := by
  unfold attempt
  cases s.perform c <;> rfl

/-- A command that does nothing to the counters when it is done does nothing to them at all. -/
theorem counters_attempt_of_work
    (hwork : ∀ work, s.perform c = some work → work.value.2.counters = s.counters) :
    (s.attempt c).value.2.counters = s.counters :=
  attempt_keeps (P := fun t => t.counters = s.counters) rfl hwork

theorem counters_engage (guard : String) (faulty : Bool) (s : Session) :
    (s.engage guard faulty).value.2.counters = s.counters := by
  cases hget : s.guards.get? guard <;> simp [engage, hget, withEnvironment]

/-- Whatever a session is asked to do, the biographies stay faithful to its counters. -/
theorem Faithful.after (h : Faithful told s.counters) (c : Command) :
    Faithful (s.record c told) (s.attempt c).value.2.counters := by
  cases c with
  -- a counter is put under a name
  | make counter => exact h.put counter (Biography.Follows.start _ s.faulty)
  | makeFrom counter source =>
    rw [counters_attempt, perform, record]
    cases s.sources.get? source with
    | none => exact h
    | some source => exact h.put counter (Biography.Follows.start _ source.isUnpredictable)
  | copy counter target =>
    rw [counters_attempt, perform, record]
    rcases h.none_or_follows counter with ⟨htold, hkept⟩ | ⟨b, t, htold, hkept, hb⟩
    · rw [htold, hkept]
      exact h
    · rw [htold, hkept]
      exact h.put target hb
  -- the counter under a name is changed
  | increment counter n =>
    rw [counters_attempt, perform, record, Command.deedsOn, if_pos rfl]
    have hchange := h.change counter fun _ _ hb => hb.incrementMany n
    cases hkept : s.counters.get? counter <;> rwa [hkept] at hchange
  | reset counter =>
    rw [counters_attempt, perform, record, Command.deedsOn, if_pos rfl]
    have hchange := h.change counter fun b _ _ => Biography.Follows.reset b
    cases hkept : s.counters.get? counter <;> rwa [hkept] at hchange
  | discard counter =>
    rw [counters_attempt, perform, record]
    rcases h.none_or_follows counter with ⟨htold, hkept⟩ | ⟨b, t, htold, hkept, -⟩
    · rw [hkept, ← htold, Function.update_eq_self]
      exact h
    · rw [hkept]
      exact h.remove counter
  -- the counters stay as they are
  | engage guard v =>
    rw [counters_attempt]
    exact (counters_engage guard v s).symm ▸ h
  | compare counter other =>
    rw [counters_attempt_of_work]
    · exact h
    · intro work hwork
      obtain ⟨t, -, hwork⟩ := Option.bind_eq_some_iff.mp hwork
      obtain ⟨u, -, hwork⟩ := Option.bind_eq_some_iff.mp hwork
      obtain rfl := Option.some.inj hwork
      rfl
  | release name | draw name n | count name | describe name =>
    rw [counters_attempt_of_work]
    · exact h
    · intro work hwork
      obtain ⟨found, -, hwork⟩ := Option.bind_eq_some_iff.mp hwork
      obtain rfl := Option.some.inj hwork
      rfl
  | flag | setFlag v | keep source start | execute a | runScript as | resetModel
  | isEnabled a | walk plan | run o => exact h

/-- What one command keeps, a session keeps. -/
theorem Faithful.performAll (h : Faithful told s.counters) (cs : List Command) :
    Faithful (recordAll cs s told) (Session.performAll cs s).value.2.counters := by
  induction cs generalizing s told with
  | nil => exact h
  | cons c cs ih => exact ih (h.after c)

/-! ## Sessions -/

/-- What the biographies tell of a session: which names have a counter, the values of the counters,
what is answered when one is counted, and when two are compared. -/
structure Accounts (told : String → Option Biography) (s : Session) : Prop where
  isSome_eq : ∀ name, (s.counters.get? name).isSome = (told name).isSome
  value : ∀ name b t, told name = some b → s.counters.get? name = some t →
    ∀ z, b.Tells z ↔ z = t.counter.value.toInt
  count : ∀ name b, told name = some b →
    ∃ r, (s.attempt (.count name)).value.1 = some (.reading r) ∧ b.Shows r
  compare : ∀ name other b c y z, told name = some b → told other = some c →
    b.Tells y → c.Tells z →
    (s.attempt (.compare name other)).value.1 = some (.truth (decide (y = z)))

namespace Faithful

variable {b c : Biography} {other : String} {y z : Int}

/-- A biography is that of a counter that is kept. -/
theorem exists_of_told (h : Faithful told s.counters) (hb : told name = some b) :
    ∃ t, s.counters.get? name = some t ∧ b.Follows t := by
  rcases h.none_or_follows name with ⟨htold, -⟩ | ⟨b', t, htold, hkept, hfollows⟩
  · rw [htold] at hb
    contradiction
  · obtain rfl := Option.some.inj (htold.symm.trans hb)
    exact ⟨t, hkept, hfollows⟩

theorem reply_count (h : Faithful told s.counters) (hb : told name = some b) :
    ∃ r, (s.attempt (.count name)).value.1 = some (.reading r) ∧ b.Shows r := by
  obtain ⟨t, hkept, hfollows⟩ := h.exists_of_told hb
  exact ⟨t.reading, by simp [attempt, perform, hkept], hfollows.shows⟩

theorem reply_compare (h : Faithful told s.counters) (hb : told name = some b)
    (hc : told other = some c) (hy : b.Tells y) (hz : c.Tells z) :
    (s.attempt (.compare name other)).value.1 = some (.truth (decide (y = z))) := by
  obtain ⟨t, hkept, hfollows⟩ := h.exists_of_told hb
  obtain ⟨u, hkept', hfollows'⟩ := h.exists_of_told hc
  have heq := hfollows.counter_eq_iff hfollows' hy hz
  simp [attempt, perform, hkept, hkept', beq_eq_decide, heq]

/-- Faithful biographies tell all that can be seen of the counters. -/
theorem accounts (h : Faithful told s.counters) : Accounts told s where
  isSome_eq name := by
    rcases h.none_or_follows name with ⟨htold, hkept⟩ | ⟨b, t, htold, hkept, -⟩ <;>
      simp [htold, hkept]
  value name b t hb ht z := by
    obtain ⟨t', hkept, hfollows⟩ := h.exists_of_told hb
    obtain rfl := Option.some.inj (hkept.symm.trans ht)
    exact hfollows.tells_iff
  count _ _ hb := h.reply_count hb
  compare _ _ _ _ _ _ hb hc hy hz := h.reply_compare hb hc hy hz

end Faithful

/-- The biographies of the counters that commands make in a session that had none. -/
def biographies (cs : List Command) (s : Session) : String → Option Biography :=
  recordAll cs s fun _ => none

/-- What follows on a command that gives a name its counter: the biography begins with what the
command records, and goes on with what is done under the name. -/
theorem biographies_append_cons (cs : List Command) (s : Session) {later : List Command}
    (h : ∀ c ∈ later, c.replaces name = false) :
    biographies (cs ++ c :: later) s name =
      ((performAll cs s).value.2.record c (biographies cs s) name).map
        fun b => b.add (later.flatMap fun c => c.deedsOn name) := by
  rw [biographies, recordAll_append, recordAll, recordAll_of_not_replaces _ _ h, biographies]

/-- In a session that has no counters at first, on any model, with any sources and guards, and
whatever commands are done in it: the values of its counters, and what is answered about them, are
those of the biographies.  A biography begins where the counter is made, at the value that its
source gives, which is zero if the flag is asked and is down; a copy begins with the biography of
what it was copied from.  It goes on with what is done under the name of the counter, whatever else
is done in between. -/
theorem counters_follow_biographies (model : Model Supply) (sources : Slots StartSource)
    (guards : Slots Guard) (cs : List Command) :
    let s : Session := { model, sources, guards }
    let after : Session := (performAll cs s).value.2
    Accounts (biographies cs s) after ∧
    ∀ name later, (∀ c ∈ later, c.replaces name = false) →
      (after.faulty = false →
        biographies (cs ++ .make name :: later) s name =
          some { start := 0, deeds := later.flatMap fun c => c.deedsOn name }) ∧
      (after.faulty = true →
        biographies (cs ++ .make name :: later) s name =
          some { start := after.startFrom (.randomized .shared),
                 deeds := later.flatMap fun c => c.deedsOn name }) ∧
      (∀ place source, after.sources.get? place = some source →
        biographies (cs ++ .makeFrom name place :: later) s name =
          some { start := after.startFrom source,
                 deeds := later.flatMap fun c => c.deedsOn name }) ∧
      ∀ original b, biographies cs s original = some b →
        biographies (cs ++ .copy original name :: later) s name =
          some (b.add (later.flatMap fun c => c.deedsOn name)) := by
  intro s after
  have hstart : Faithful (fun _ => none) s.counters := Faithful.nil
  refine ⟨(hstart.performAll cs).accounts, ?_⟩
  intro name later hlater
  refine ⟨?_, ?_, ?_, ?_⟩
  · intro hfaulty
    rw [biographies_append_cons cs s hlater, record, Function.update_self, hfaulty]
    rfl
  · intro hfaulty
    rw [biographies_append_cons cs s hlater, record, Function.update_self, hfaulty]
    rfl
  · intro place source hsource
    rw [biographies_append_cons cs s hlater, record, hsource]
    simp only [Function.update_self]
    rfl
  · intro original b hb
    rw [biographies_append_cons cs s hlater, record, hb]
    simp only [Function.update_self]
    rfl

/-- The greatest value is followed by the least, a copy goes its own way, and the flag is raised in
vain. -/
example : ((performAll
    [.keep "edge" (.fixed Int64.maxValue), .makeFrom "a" "edge", .increment "a" 1, .copy "a" "b",
      .setFlag true, .increment "a" 1, .reset "b"]
    (start .flagged { entropy := { wordAt := fun _ => 7 } })).value.2.counters.map
      fun p => (p.1, p.2.counter.value)) =
    [("a", Int64.minValue + 1), ("b", 0)] :=
  rfl

end Session

end CounterWalk
