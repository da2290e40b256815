import CounterWalk.Proofs.CommandLine.Reading

/-!
# Numbers on the command line

The seed and the number of steps are words.  Any text may be given for them, and whether it is taken
is settled by the text alone: the numerals of words are, and for every other text the error tells
what keeps it from being one.

Main definition:

- `Options.JudgesNumeral`: how a text is answered that is given for a number.

Main results:

- Theorem `Options.ofArguments_attached`: a single setting whose value is attached to its name.
- Theorem `Options.ofArguments_number`: both settings that are numbers judge every text so.
-/

namespace CounterWalk

open CommandLine

theorem Argument.ofString_append (s t : String) :
    Argument.ofString (s ++ t) = Argument.ofString s ++ Argument.ofString t := by
  simp [Argument.ofString, Text.Utf8.encode]

/-- The value of a setting that is a text is read as the text, whatever it says. -/
theorem CommandLine.readNumber_ofString (s : Setting) (t : String) :
    readNumber s (.ofString t) =
      (Text.readNumeral t.toList).mapError (UsageError.invalidNumeral s t) := by
  rw [readNumber, Argument.ofString, Text.Utf8.decode?_encode]
  simp only [String.ofList_toList]
  cases Text.readNumeral t.toList <;> rfl

/-- The reason for which a text is refused that is the numeral of no word. -/
theorem Text.message_refusal (t : String) :
    (refusal t.toList).message =
      if t = "" then "cannot parse integer from empty string"
      else if UInt64.size ≤ leadingValue t.toList then "number too large to fit in target type"
      else "invalid digit found in string" := by
  have hempty : t.toList = [] ↔ t = "" := String.toList_eq_nil_iff
  simp only [refusal, hempty]
  split
  · rfl
  · split <;> rfl

namespace Options

/-- A single setting whose value is attached to its name. -/
theorem ofArguments_attached (s : Setting) (value : Argument) :
    ofArguments [.ofString (s.text ++ "=") ++ value] =
      ((({} : Given).put s value).map Given.options).mapError Halt.error := by
  have hstep := Progress.step_of_named (p := {}) rfl (Piece.ofArgument_attached s value)
  have htake : Progress.take {} (.setting s) (some value) =
      (({} : Given).put s value).mapError Halt.error >>= fun g => pure { given := g } := rfl
  rw [ofArguments, List.foldlM_cons, hstep, htake]
  cases ({} : Given).put s value <;> rfl

/-- How a text is judged that is given for a number: a numeral of a word is taken for that word, and
any other text is refused with a reason. -/
structure JudgesNumeral (answer : Except Halt Options) (s : Setting) (given : UInt64 → Options)
    (t : String) : Prop where
  value : ∀ n, answer = .ok (given n) ↔ Text.IsNumeralOf n.toNat t.toList
  accepted : (∃ o, answer = .ok o) ↔ ∃ n < UInt64.size, Text.IsNumeralOf n t.toList
  refused : (¬ ∃ n < UInt64.size, Text.IsNumeralOf n t.toList) →
    ∃ e, answer = .error (.error (.invalidNumeral s t e)) ∧ e.message =
      if t = "" then "cannot parse integer from empty string"
      else if UInt64.size ≤ Text.leadingValue t.toList then "number too large to fit in target type"
      else "invalid digit found in string"

/-- A setting whose value is read as a numeral, and only then put among the options, judges so. -/
theorem judgesNumeral_of_eq {answer : Except Halt Options} {s : Setting} {given : UInt64 → Options}
    {t : String} (hgiven : Function.Injective given)
    (h : answer = ((Text.readNumeral t.toList).map given).mapError
      fun e => .error (.invalidNumeral s t e)) : JudgesNumeral answer s given t := by
  have hvalue (n : UInt64) : answer = .ok (given n) ↔ Text.IsNumeralOf n.toNat t.toList := by
    rw [h, ← Text.readNumeral_eq_ok]
    cases Text.readNumeral t.toList with
    | error e => simp [Except.map, Except.mapError]
    | ok k => simp [Except.map, Except.mapError, hgiven.eq_iff]
  have hword : (∃ n < UInt64.size, Text.IsNumeralOf n t.toList) ↔
      ∃ n : UInt64, Text.IsNumeralOf n.toNat t.toList := by
    constructor
    · rintro ⟨n, hn, hnumeral⟩
      exact ⟨UInt64.ofNat n, by rwa [UInt64.toNat_ofNat_of_lt' hn]⟩
    · rintro ⟨n, hnumeral⟩
      exact ⟨n.toNat, n.toNat_lt, hnumeral⟩
  refine ⟨hvalue, ?_, ?_⟩
  · rw [hword]
    simp only [← hvalue]
    constructor
    · rintro ⟨o, ho⟩
      rw [h] at ho ⊢
      cases hread : Text.readNumeral t.toList with
      | error e =>
        rw [hread] at ho
        contradiction
      | ok n => exact ⟨n, rfl⟩
    · rintro ⟨n, hn⟩
      exact ⟨given n, hn⟩
  · rw [hword, not_exists]
    intro hnone
    refine ⟨Text.refusal t.toList, ?_, Text.message_refusal t⟩
    rw [h, Text.readNumeral_of_not_isNumeralOf hnone]
    rfl

/-- Whatever text is given for the seed or for the number of steps, it is taken if and only if it is
the numeral of a word: digits whose value is a word, before which a plus sign and zeros may stand.
The options then have that word and are otherwise as usual.  Any other text is refused.  The reason
is that it is empty, or that the digits in front are too large already, whatever stands after them,
or else that there is a character that is no digit, or no digit at all. -/
theorem ofArguments_number (t : String) :
    JudgesNumeral (ofArguments [.ofString ("--seed=" ++ t)]) .seed (fun n => { seed := some n }) t ∧
      JudgesNumeral (ofArguments [.ofString ("--steps=" ++ t)]) .steps (fun n => { steps := n })
        t := by
  have hseed : ofArguments [.ofString ("--seed=" ++ t)] =
      ((({} : Given).put .seed (.ofString t)).map Given.options).mapError Halt.error := by
    rw [Argument.ofString_append]
    exact ofArguments_attached .seed (.ofString t)
  have hsteps : ofArguments [.ofString ("--steps=" ++ t)] =
      ((({} : Given).put .steps (.ofString t)).map Given.options).mapError Halt.error := by
    rw [Argument.ofString_append]
    exact ofArguments_attached .steps (.ofString t)
  constructor
  · refine judgesNumeral_of_eq (fun n k h => by simpa using h) ?_
    rw [hseed, Given.put.eq_def]
    simp only [readNumber_ofString]
    cases Text.readNumeral t.toList <;> rfl
  · refine judgesNumeral_of_eq (fun n k h => by simpa using h) ?_
    rw [hsteps, Given.put.eq_def]
    simp only [readNumber_ofString]
    cases Text.readNumeral t.toList <;> rfl

end Options

end CounterWalk
