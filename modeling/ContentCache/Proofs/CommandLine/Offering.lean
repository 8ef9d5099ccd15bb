import ContentCache.CommandLine.Arguments
import ContentCache.Proofs.Time.Stamping

/-!
# Values that are offered to options

A number that is offered to an option is the number that the option gets, when the arguments are
understood at all: it is read as a whole, it fits, and nothing that follows takes its place.

* `Text.Denotes`: characters denote a number.
* `Offers`: arguments offer a value to an option.
* `Reading.Turn`: what an argument does to where reading stands.
* `Reading.Notes`, `Reading.Holds`: a value has been looked at, or it will be.

Main statements: `Reading.step_turn` (each argument does one of five things), `Reading.Holds.foldlM` (what is
offered is kept) and `count?_of_offers`.
-/

namespace ContentCache

namespace Text

/-- Characters denote a number: its decimal digits, perhaps with a plus sign in front. -/
def Denotes (cs : List Char) (n : Nat) : Prop :=
  ∃ width digits, 0 < width ∧ Shows width n digits ∧ (cs = digits ∨ cs = '+' :: digits)

/-- A number is read from what stands behind a plus sign, when there is one. -/
theorem readUnsigned_eq_body (largest : Nat) (cs : List Char) : ∃ body, (cs = body ∨ cs = '+' :: body) ∧
    readUnsigned largest cs =
      if cs.isEmpty then .error .empty
      else if largest < ofDigits (body.takeWhile Char.isDigit) then .error .tooLarge
      else if (body.takeWhile Char.isDigit).isEmpty ||
          (body.takeWhile Char.isDigit).length < body.length then .error .invalidDigit
      else .ok (ofDigits (body.takeWhile Char.isDigit)) := by
  by_cases hplus : ∃ d rest, cs = '+' :: d :: rest
  · obtain ⟨d, rest, rfl⟩ := hplus
    exact ⟨d :: rest, .inr rfl, rfl⟩
  · refine ⟨cs, .inl rfl, ?_⟩
    unfold readUnsigned
    split
    · next d rest => exact absurd ⟨d, rest, rfl⟩ hplus
    · rfl

/-- **What is read as a number** denotes it, and is not too large. -/
theorem denotes_of_readUnsigned {largest n : Nat} {cs : List Char}
    (h : readUnsigned largest cs = .ok n) : n ≤ largest ∧ Denotes cs n := by
  obtain ⟨body, hbody, hread⟩ := readUnsigned_eq_body largest cs
  rw [h] at hread
  split at hread
  · cases hread
  · split at hread
    · cases hread
    · next hlarge =>
      split at hread
      · cases hread
      · next hdigits =>
        obtain rfl := Except.ok.inj hread
        simp only [Bool.or_eq_true, decide_eq_true_eq, not_or, Nat.not_lt, List.isEmpty_iff] at hdigits
        have hwhole : body.takeWhile Char.isDigit = body :=
          (List.takeWhile_prefix _).eq_of_length_le hdigits.2
        rw [hwhole] at hlarge hdigits ⊢
        refine ⟨Nat.le_of_not_lt hlarge, body.length, body, List.length_pos_iff.2 hdigits.1, ?_, hbody⟩
        refine ⟨rfl, ?_, rfl⟩
        rw [← hwhole]
        exact fun c hc => List.all_eq_true.1 List.all_takeWhile c hc

end Text

namespace CommandLine

variable {p q : Parameter} {name value argument : String} {arguments : List String} {n : Nat}
  {r s : Reading} {g g' : Given}

/-- The value of a parameter is a number. -/
def Parameter.IsCount (p : Parameter) : Prop := p = .maxAge ∨ p = .retries ∨ p = .timeout

/-- Arguments in front of two hyphens offer a value to an option: behind an equals sign, or as the argument
that follows. -/
inductive Offers : List String → Parameter → String → Prop
  | joined {before after : List String} {name : String} (p : Parameter) (value : String)
      (unended : "--" ∉ before) (named : p.optionName? = some name) :
      Offers (before ++ ("--" ++ name ++ "=" ++ value) :: after) p value
  | apart {before after : List String} {name : String} (p : Parameter) (value : String)
      (unended : "--" ∉ before) (named : p.optionName? = some name) :
      Offers (before ++ ("--" ++ name) :: value :: after) p value

/-! ## Looking at a value -/

namespace Given

/-- **What looking at a value adds**: a number where the value is one, and else the value itself. Nothing has
been given to the parameter before. -/
theorem give_cases (h : g.give p value = .ok g') : g.has p = false ∧
    ((p.IsCount ∧ ∃ n, Text.readUnsigned largestNumber value.toList = .ok n ∧
        g' = { g with numbers := (p, n) :: g.numbers }) ∨
      (¬ p.IsCount ∧ g' = { g with texts := (p, value) :: g.texts })) := by
  unfold give at h
  split at h
  · cases h
  · next hhas =>
    refine ⟨Bool.eq_false_iff.2 hhas, ?_⟩
    cases p
    case maxAge | retries | timeout =>
      refine .inl ⟨by simp [Parameter.IsCount], ?_⟩
      dsimp only at h
      split at h
      · next n hn => exact ⟨n, hn, (Except.ok.inj h).symm⟩
      · cases h
    case config =>
      refine .inr ⟨by simp [Parameter.IsCount], ?_⟩
      dsimp only at h
      split at h
      · cases h
      · exact (Except.ok.inj h).symm
    case url | digest | token =>
      exact .inr ⟨by simp [Parameter.IsCount], (Except.ok.inj h).symm⟩

/-- A number that has been noted stays. -/
theorem number?_of_give (h : g.give q value = .ok g') (hn : g.number? p = some n) :
    g'.number? p = some n := by
  obtain ⟨hfirst, ⟨-, m, -, rfl⟩ | ⟨-, rfl⟩⟩ := give_cases h
  · have hne : (p == q) = false := by
      refine beq_false_of_ne ?_
      rintro rfl
      obtain ⟨l, l', hnumbers, -⟩ := List.lookup_eq_some_iff.1 hn
      simp [has, hnumbers] at hfirst
    rw [number?, List.lookup_cons, hne]
    exact hn
  · exact hn

end Given

/-! ## One argument -/

namespace Reading

/-- What an argument does to where reading stands, when reading goes on. -/
inductive Turn (r : Reading) (argument : String) : Reading → Prop
  /-- Two hyphens end the options. -/
  | ending (going : r.ended = false) (hyphens : argument = "--") : Turn r argument { r with ended := true }
  /-- An option waits for its value. -/
  | option {s : Reading} (p : Parameter) (going : r.ended = false) (settled : r.settle = .ok s) :
      Turn r argument { s with pending := .option p }
  /-- An option brings its value along, which is looked at at once. -/
  | joined {s : Reading} {given : Given} (p : Parameter) (value : String) (going : r.ended = false)
      (settled : r.settle = .ok s) (gives : s.given.give p value = .ok given) :
      Turn r argument { s with given, pending := .nothing }
  /-- The option before is given its value. -/
  | value {p : Parameter} (going : r.ended = false) (waiting : r.pending = .option p) :
      Turn r argument { r with pending := .value p argument }
  /-- An argument without an option is the value of a parameter that has none. -/
  | plain {s : Reading} (p : Parameter) (settled : r.settle = .ok s) :
      Turn r argument { s with plain := s.plain + 1, pending := .value p argument }

theorem bind_eq_ok {ε α β : Type} {x : Except ε α} {f : α → Except ε β} {b : β} (h : x >>= f = .ok b) :
    ∃ a, x = .ok a ∧ f a = .ok b := by
  cases x with
  | error e => cases h
  | ok a => exact ⟨a, rfl, h⟩

/-- **Looking at the value that waits**, if there is one. -/
theorem settle_cases (h : r.settle = .ok s) : (r.pending = .nothing ∧ s = r) ∨
    ∃ p value given, r.pending = .value p value ∧ r.given.give p value = .ok given ∧
      s = { r with given, pending := .nothing } := by
  unfold settle at h
  split at h
  · next hpending => exact .inl ⟨hpending, (Except.ok.inj h).symm⟩
  · cases h
  · next p value hpending =>
    split at h
    · next given hgive => exact .inr ⟨p, value, given, hpending, hgive, (Except.ok.inj h).symm⟩
    · cases h

theorem plainStep_turn (h : r.plainStep argument = .ok s) : Turn r argument s := by
  have turn (p : Parameter)
      (h : (r.settle >>= fun t => .ok { t with plain := t.plain + 1, pending := .value p argument }) =
        .ok s) : Turn r argument s := by
    obtain ⟨t, hsettle, h⟩ := bind_eq_ok h
    obtain rfl := Except.ok.inj h
    exact .plain p hsettle
  unfold plainStep at h
  split at h
  · exact turn _ h
  · exact turn _ h
  · cases h

/-- A flag stops reading. -/
theorem flagStep_ne_ok {flag : Stop} : r.flagStep flag ≠ .ok s := by
  intro h
  obtain ⟨t, -, h⟩ := bind_eq_ok h
  cases h

theorem optionStep_turn {value : Option String} (hgoing : r.ended = false)
    (h : r.optionStep name value = .ok s) : Turn r argument s := by
  unfold optionStep at h
  split at h
  · obtain ⟨t, hsettle, h⟩ := bind_eq_ok h
    obtain rfl := Except.ok.inj h
    exact .option _ hgoing hsettle
  · obtain ⟨t, hsettle, h⟩ := bind_eq_ok h
    obtain ⟨hpending, -⟩ | ⟨p, value, given, hpending, hgive, rfl⟩ := settle_cases h
    · cases hpending
    · cases hpending
      exact @Turn.joined r argument t given _ _ hgoing hsettle hgive
  · split at h
    · split at h
      · cases h
      · exact absurd h flagStep_ne_ok
    · cases h

/-- **Each argument** that reading goes on after does one of five things. -/
theorem step_turn (h : r.step argument = .ok s) : Turn r argument s := by
  unfold step at h
  split at h
  · exact plainStep_turn h
  · next hgoing =>
    have hgoing : r.ended = false := Bool.eq_false_iff.2 hgoing
    split at h
    · next hhyphens =>
      obtain rfl := Except.ok.inj h
      exact .ending hgoing (String.toList_inj.1 hhyphens)
    · exact optionStep_turn hgoing h
    · split at h
      · exact absurd h flagStep_ne_ok
      · split at h
        · exact absurd h flagStep_ne_ok
        · cases h
    · split at h
      · next p hpending =>
        obtain rfl := Except.ok.inj h
        exact .value hgoing hpending
      · exact plainStep_turn h

/-! ## Numbers that are offered -/

/-- A number has been noted for an option, and a value is read as it. -/
def Notes (r : Reading) (p : Parameter) (value : String) : Prop :=
  ∃ n, Text.readUnsigned largestNumber value.toList = .ok n ∧ r.given.number? p = some n

/-- The value of an option has been noted, or it waits to be looked at. -/
def Holds (r : Reading) (p : Parameter) (value : String) : Prop :=
  r.pending = .value p value ∨ r.Notes p value

theorem Notes.give {given : Given} (h : r.Notes p value) {v : String} (hgive : r.given.give q v = .ok given) :
    ∃ n, Text.readUnsigned largestNumber value.toList = .ok n ∧ given.number? p = some n := by
  obtain ⟨n, hread, hn⟩ := h
  exact ⟨n, hread, Given.number?_of_give hgive hn⟩

/-- **A value that waits** is noted when it is looked at, and what is noted stays. -/
theorem Holds.settle (hp : p.IsCount) (h : r.Holds p value) (hsettle : r.settle = .ok s) :
    s.Notes p value := by
  obtain ⟨hpending, rfl⟩ | ⟨q, v, given, hpending, hgive, rfl⟩ := settle_cases hsettle
  · rcases h with hvalue | hnotes
    · cases hpending.symm.trans hvalue
    · exact hnotes
  · rcases h with hvalue | hnotes
    · cases hpending.symm.trans hvalue
      obtain ⟨-, ⟨-, n, hread, rfl⟩ | ⟨hcount, -⟩⟩ := Given.give_cases hgive
      · exact ⟨n, hread, List.lookup_cons_self⟩
      · exact absurd hp hcount
    · exact hnotes.give hgive

/-- No argument takes the value of an option away. -/
theorem Holds.step (hp : p.IsCount) (h : r.Holds p value) (hstep : r.step argument = .ok s) :
    s.Holds p value := by
  cases step_turn hstep with
  | ending => exact h
  | option q going settled =>
    have hnotes := h.settle hp settled
    exact .inr hnotes
  | joined q v going settled gives => exact .inr ((h.settle hp settled).give gives)
  | value going waiting =>
    rcases h with hvalue | hnotes
    · cases waiting.symm.trans hvalue
    · exact .inr hnotes
  | plain q settled =>
    have hnotes := h.settle hp settled
    exact .inr hnotes

/-! ## All arguments -/

/-- What each of the arguments keeps is kept by all of them. -/
theorem foldlM_keeps {P : Reading → Prop}
    (keeps : ∀ argument ∈ arguments, ∀ r s, P r → r.step argument = .ok s → P s) (h : P r)
    (hread : arguments.foldlM Reading.step r = .ok s) : P s := by
  induction arguments generalizing r with
  | nil =>
    obtain rfl := Except.ok.inj hread
    exact h
  | cons argument arguments ih =>
    obtain ⟨t, hstep, hread⟩ := bind_eq_ok hread
    have hkept : P t := keeps argument (by simp) r t h hstep
    exact ih (fun x hx => keeps x (by simp [hx])) hkept hread

/-- **A value that an option has stays** whatever arguments follow. -/
theorem Holds.foldlM (hp : p.IsCount) (h : r.Holds p value)
    (hread : arguments.foldlM Reading.step r = .ok s) : s.Holds p value := by
  refine foldlM_keeps (P := fun r => r.Holds p value) ?_ h hread
  intro argument _ r s held hstep
  exact held.step hp hstep

theorem settle_ended (h : r.settle = .ok s) : s.ended = r.ended := by
  obtain ⟨-, rfl⟩ | ⟨p, value, given, -, -, rfl⟩ := settle_cases h
  · rfl
  · rfl

/-- Nothing but two hyphens ends the options. -/
theorem step_ended (hgoing : r.ended = false) (hargument : argument ≠ "--")
    (hstep : r.step argument = .ok s) : s.ended = false := by
  cases step_turn hstep with
  | ending _ hyphens => exact absurd hyphens hargument
  | option q _ settled => exact (settle_ended settled).trans hgoing
  | joined q v _ settled _ => exact (settle_ended settled).trans hgoing
  | value => exact hgoing
  | plain q settled => exact (settle_ended settled).trans hgoing

theorem foldlM_ended (hgoing : r.ended = false) (hyphens : "--" ∉ arguments)
    (hread : arguments.foldlM Reading.step r = .ok s) : s.ended = false := by
  refine foldlM_keeps (P := fun r => r.ended = false) ?_ hgoing hread
  intro argument hargument r s going hstep
  exact step_ended going (fun h => hyphens (h ▸ hargument)) hstep

/-- An option that waits for its value cannot be passed over. -/
theorem settle_of_waiting (waiting : r.pending = .option p) : r.settle ≠ .ok s := by
  intro h
  obtain ⟨hpending, -⟩ | ⟨q, value, given, hpending, -⟩ := settle_cases h
  · cases waiting.symm.trans hpending
  · cases waiting.symm.trans hpending

/-- When the options have ended, such an option never gets its value, and reading cannot go on. -/
theorem step_of_stuck (ended : r.ended = true) (waiting : r.pending = .option p) :
    r.step argument ≠ .ok s := by
  intro hstep
  cases step_turn hstep with
  | ending going => cases going.symm.trans ended
  | option q going => cases going.symm.trans ended
  | joined q v going => cases going.symm.trans ended
  | value going => cases going.symm.trans ended
  | plain q settled => exact settle_of_waiting waiting settled

/-! ## Options by name -/

theorem optionName_chars (named : p.optionName? = some name) :
    '=' ∉ name.toList ∧ name.toList ≠ [] ∧ Parameter.ofOption? name = some p := by
  cases p <;> cases named <;> decide

/-- An option by its name, with or without a value behind an equals sign. -/
theorem step_option {rest : List Char} (going : r.ended = false) (hrest : rest ≠ [])
    (hargument : argument.toList = '-' :: '-' :: rest) : r.step argument =
      r.optionStep (String.ofList (rest.takeWhile (· ≠ '='))) (behindEquals? rest) := by
  obtain ⟨c, rest, rfl⟩ := List.exists_cons_of_ne_nil hrest
  simp [step, going, hargument]

/-- A name reaches as far as the equals sign. -/
theorem span_of_name {front : List Char} (h : '=' ∉ front) (rest : List Char) :
    (front ++ rest).takeWhile (· ≠ '=') = front ++ rest.takeWhile (· ≠ '=') ∧
      (front ++ rest).dropWhile (· ≠ '=') = rest.dropWhile (· ≠ '=') := by
  have hfront : ∀ c ∈ front, decide (c ≠ '=') = true := by
    intro c hc
    refine decide_eq_true ?_
    rintro rfl
    exact h hc
  exact ⟨List.takeWhile_append_of_pos hfront, List.dropWhile_append_of_pos hfront⟩

/-- An option waits for the value that follows it. -/
theorem step_named (going : r.ended = false) (named : p.optionName? = some name)
    (hstep : r.step ("--" ++ name) = .ok s) : s.ended = false ∧ s.pending = .option p := by
  obtain ⟨hchars, hname, hoption⟩ := optionName_chars named
  obtain ⟨hfront, hback⟩ := span_of_name hchars []
  rw [List.append_nil] at hfront hback
  rw [step_option going hname (by simp), behindEquals?, hfront, hback] at hstep
  simp only [List.takeWhile_nil, List.dropWhile_nil, List.append_nil, String.ofList_toList, optionStep,
    hoption] at hstep
  obtain ⟨t, settled, hstep⟩ := bind_eq_ok hstep
  obtain rfl := Except.ok.inj hstep
  exact ⟨(settle_ended settled).trans going, rfl⟩

/-- A value behind an equals sign is looked at at once. -/
theorem step_joined (hp : p.IsCount) (going : r.ended = false) (named : p.optionName? = some name)
    (hstep : r.step ("--" ++ name ++ "=" ++ value) = .ok s) : s.Notes p value := by
  obtain ⟨hchars, hname, hoption⟩ := optionName_chars named
  obtain ⟨hfront, hback⟩ := span_of_name hchars ('=' :: value.toList)
  have hargument : ("--" ++ name ++ "=" ++ value).toList =
      '-' :: '-' :: (name.toList ++ '=' :: value.toList) := by simp
  rw [step_option going (by simp) hargument, behindEquals?, hfront, hback] at hstep
  simp only [ne_eq, decide_not, decide_true, Bool.not_true, List.takeWhile_cons, List.dropWhile_cons,
    Bool.false_eq_true, if_false, List.append_nil, String.ofList_toList, optionStep, hoption] at hstep
  obtain ⟨t, settled, hstep⟩ := bind_eq_ok hstep
  have hwaiting : Holds { t with pending := .value p value } p value := .inl rfl
  exact hwaiting.settle hp hstep

end Reading

/-! ## What is offered -/

open Reading

/-- **A number that is offered** is noted when all arguments are understood. -/
theorem notes_of_offers (hp : p.IsCount) (h : Offers arguments p value)
    (hread : arguments.foldlM Reading.step {} >>= Reading.settle = .ok r) : r.Notes p value := by
  obtain ⟨s, hread, settled⟩ := bind_eq_ok hread
  cases h with
  | joined _ _ unended named =>
    rw [List.foldlM_append] at hread
    obtain ⟨t, hbefore, hread⟩ := bind_eq_ok hread
    obtain ⟨u, hstep, hafter⟩ := bind_eq_ok hread
    have going : t.ended = false := foldlM_ended rfl unended hbefore
    have hnotes : u.Notes p value := step_joined hp going named hstep
    exact (Holds.foldlM hp (.inr hnotes) hafter).settle hp settled
  | @apart before after _ _ _ unended named =>
    rw [List.foldlM_append] at hread
    obtain ⟨t, hbefore, hread⟩ := bind_eq_ok hread
    obtain ⟨u, hstep, hread⟩ := bind_eq_ok hread
    obtain ⟨v, hvalue, hafter⟩ := bind_eq_ok hread
    obtain ⟨going, waiting⟩ := step_named (foldlM_ended rfl unended hbefore) named hstep
    cases step_turn hvalue with
    | ending =>
      -- The two hyphens leave the option without a value, and reading cannot go on.
      cases after with
      | nil =>
        obtain rfl := Except.ok.inj hafter
        exact absurd settled (settle_of_waiting waiting)
      | cons argument after =>
        obtain ⟨x, hstep, -⟩ := bind_eq_ok hafter
        exact absurd hstep (step_of_stuck rfl waiting)
    | option q _ unsettled => exact absurd unsettled (settle_of_waiting waiting)
    | joined q v _ unsettled => exact absurd unsettled (settle_of_waiting waiting)
    | @value q _ hasked =>
      obtain rfl := Pending.option.inj (waiting.symm.trans hasked)
      exact (Holds.foldlM hp (.inl rfl) hafter).settle hp settled
    | plain q unsettled => exact absurd unsettled (settle_of_waiting waiting)

/-- The number that arguments have for a parameter. -/
def Arguments.count? (a : Arguments) : Parameter → Option Nat
  | .maxAge => a.maxAge
  | .retries => some a.retries
  | .timeout => a.timeout
  | _ => none

/-- **A number that is offered to an option** is the number of the option, digit by digit, and it fits. -/
theorem count?_of_offers {a : Arguments} {envToken : Option String} (hp : p.IsCount)
    (h : Offers arguments p value)
    (parsed : Request.ofArguments arguments envToken = .ok (.fetch a)) :
    ∃ n ≤ largestNumber, Text.Denotes value.toList n ∧ a.count? p = some n := by
  unfold Request.ofArguments at parsed
  split at parsed
  · next r hread =>
    obtain ⟨n, hvalue, hn⟩ := notes_of_offers hp h hread
    obtain ⟨hfits, hdenotes⟩ := Text.denotes_of_readUnsigned hvalue
    refine ⟨n, hfits, hdenotes, ?_⟩
    unfold Given.arguments at parsed
    split at parsed
    · cases parsed
      obtain rfl | rfl | rfl := hp
      · exact hn
      · simp [Arguments.count?, hn]
      · exact hn
    · cases parsed
  · cases parsed
  · cases parsed
  · cases parsed

end CommandLine

end ContentCache
