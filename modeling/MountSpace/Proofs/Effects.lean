import MountSpace.Effect

/-!
# `MountSpace.Proofs.Effects`: what operations leave behind

`Ensures before action done refused` says that `action`, started in a
state with `before`, leaves an answer and a state with `done`, or a fault
and a state with `refused`. A state that nobody can ask any more is of no
interest, so nothing is said about an operation that stops.

`Completes before action done` says in addition that it is neither refused
nor stops.

An operation keeps a property of states (`Keeps`) when the property holds
after it whenever it held before, be it done or refused.

There is one rule for each way to put operations together
(`ensures_bind`, `keeps_attempt`, …). `Ensures.apply` and
`Ensures.of_after?` lead from the rules back to runs.

Two operations agree on states (`Agree`) when they end in the same way
from each of them, with the same answer or fault, and leave the same state.
What is put together of operations that agree agrees.
-/

set_option autoImplicit false

namespace MountSpace

/-- The state that an operation leaves, unless it stops. -/
def Ending.after? {σ α : Type} : Ending σ α → Option σ
  | .done _ state | .refused _ state => some state
  | .stopped _ => none

/-- How an operation is answered, unless it stops. -/
def Ending.reply? {σ α : Type} : Ending σ α → Option (Except Fault α)
  | .done value _ => some (.ok value)
  | .refused fault _ => some (.error fault)
  | .stopped _ => none

namespace Proofs.Effects

variable {σ τ α β : Type}

/-- What is said of an answer and a state, or of a fault and a state. -/
def Meets (done : α → σ → Prop) (refused : Fault → σ → Prop) :
    Ending σ α → Prop
  | .done value state => done value state
  | .refused fault state => refused fault state
  | .stopped _ => True

/-- From states with `before`, an operation leaves what is said. -/
def Ensures (before : σ → Prop) (action : Action σ α)
    (done : α → σ → Prop) (refused : Fault → σ → Prop) : Prop :=
  ∀ state, before state → Meets done refused (action.run state)

/-- From states with `before`, an operation is done, and leaves what is
said. -/
def Completes (before : σ → Prop) (action : Action σ α)
    (done : α → σ → Prop) : Prop :=
  ∀ state, before state →
    ∃ value after, action.run state = .done value after ∧ done value after

/-- An operation after which a property holds if it held before. -/
def Keeps (inv : σ → Prop) (action : Action σ α) : Prop :=
  Ensures inv action (fun _ => inv) (fun _ => inv)

/-! ### Computations that need no state -/

section

variable {answer : Except Fault α} {next : α → Except Fault β}

theorem ok_bind (value : α) (next : α → Except Fault β) :
    (Except.ok value >>= next) = next value := rfl

theorem error_bind (fault : Fault) (next : α → Except Fault β) :
    (Except.error fault >>= next) = .error fault := rfl

/-- Two steps have an answer when both have one. -/
theorem bind_eq_ok_iff {result : β} :
    (answer >>= next) = .ok result
      ↔ ∃ value, answer = .ok value ∧ next value = .ok result := by
  cases answer with
  | error fault => simp [error_bind]
  | ok value => simp [ok_bind]

end

/-! ### Single operations -/

section

variable {before : σ → Prop} {done : α → σ → Prop}
  {refused : Fault → σ → Prop} {action : Action σ α}

theorem Meets.imp {ending : Ending σ α} (meets : Meets done refused ending)
    {last : α → σ → Prop} {lastRefused : Fault → σ → Prop}
    (onDone : ∀ value state, done value state → last value state)
    (onRefused : ∀ fault state, refused fault state →
      lastRefused fault state) :
    Meets last lastRefused ending := by
  cases ending with
  | done value state => exact onDone value state meets
  | refused fault state => exact onRefused fault state meets
  | stopped trap => trivial

/-- Two things that are said of an ending. -/
theorem Meets.and {ending : Ending σ α} (meets : Meets done refused ending)
    {more : α → σ → Prop} {moreRefused : Fault → σ → Prop}
    (meetsMore : Meets more moreRefused ending) :
    Meets (fun value state => done value state ∧ more value state)
      (fun fault state => refused fault state ∧ moreRefused fault state)
      ending := by
  cases ending with
  | done value state => exact ⟨meets, meetsMore⟩
  | refused fault state => exact ⟨meets, meetsMore⟩
  | stopped trap => trivial

/-- As many things as there are. -/
theorem Meets.all {ι : Type} {known : ι → Prop} {ending : Ending σ α}
    {done : ι → α → σ → Prop} {refused : ι → Fault → σ → Prop}
    (meets : ∀ index, known index →
      Meets (done index) (refused index) ending) :
    Meets (fun value state => ∀ index, known index → done index value state)
      (fun fault state => ∀ index, known index → refused index fault state)
      ending := by
  cases ending with
  | done value state | refused fault state => exact meets
  | stopped trap => trivial

/-- What is said of an ending may name its answer. -/
theorem Meets.reply? {ending : Ending σ α}
    (meets : Meets done refused ending) :
    Meets
      (fun value state => ending.reply? = some (.ok value)
        ∧ done value state)
      (fun fault state => ending.reply? = some (.error fault)
        ∧ refused fault state)
      ending := by
  cases ending with
  | done value state => exact ⟨rfl, meets⟩
  | refused fault state => exact ⟨rfl, meets⟩
  | stopped trap => trivial

/-- What is answered with a value is done. -/
theorem eq_done_of_reply? {ending : Ending σ α} {value : α}
    (answered : ending.reply? = some (.ok value)) :
    ∃ state, ending = .done value state := by
  cases ending with
  | done found state =>
    cases answered
    exact ⟨state, rfl⟩
  | refused fault state => cases answered
  | stopped trap => cases answered

/-- What holds of all answers and states holds of every ending. -/
theorem meets_of_forall (ending : Ending σ α)
    (onDone : ∀ value state, done value state)
    (onRefused : ∀ fault state, refused fault state) :
    Meets done refused ending := by
  cases ending with
  | done value state => exact onDone value state
  | refused fault state => exact onRefused fault state
  | stopped trap => trivial

theorem Ensures.apply (ensures : Ensures before action done refused)
    {state : σ} (start : before state) :
    Meets done refused (action.run state) :=
  ensures state start

/-- Less may be known before, and more is known after. -/
theorem Ensures.imp (ensures : Ensures before action done refused)
    {first : σ → Prop} {last : α → σ → Prop} {lastRefused : Fault → σ → Prop}
    (weaken : ∀ state, first state → before state)
    (onDone : ∀ value state, done value state → last value state)
    (onRefused : ∀ fault state, refused fault state →
      lastRefused fault state) :
    Ensures first action last lastRefused :=
  fun state start => (ensures.apply (weaken state start)).imp onDone onRefused

/-- Two things that are known before, and two that are known after. -/
theorem Ensures.and (ensures : Ensures before action done refused)
    {first : σ → Prop} {last : α → σ → Prop} {lastRefused : Fault → σ → Prop}
    (more : Ensures first action last lastRefused) :
    Ensures (fun state => before state ∧ first state) action
      (fun value state => done value state ∧ last value state)
      (fun fault state => refused fault state ∧ lastRefused fault state) :=
  fun _ start => (ensures.apply start.1).and (more.apply start.2)

/-- Less is known after a refusal. -/
theorem Ensures.refusing (ensures : Ensures before action done refused)
    {lastRefused : Fault → σ → Prop}
    (onRefused : ∀ fault state, refused fault state →
      lastRefused fault state) :
    Ensures before action done lastRefused :=
  ensures.imp (fun _ start => start) (fun _ _ known => known) onRefused

theorem ensures_refuse {fault : Fault} :
    Ensures (refused fault) (Action.refuse fault : Action σ α) done refused :=
  fun _ start => start

/-- To ask for room leaves the state alone, and is not refused. -/
theorem ensures_reserve (inv : σ → Prop) (size : Nat) :
    Ensures inv (Action.reserve size) (fun _ => inv) refused := by
  intro state start
  by_cases fits : size < sizeLimit
  · rw [Action.run_reserve fits]
    exact start
  · rw [Action.run_reserve_of_le (Nat.not_lt.mp fits)]
    trivial

/-- What is known when a computation answers a value, or a fault. -/
theorem ensures_ofExcept {answer : Except Fault α} :
    Ensures
      (fun state => (∀ value, answer = .ok value → done value state)
        ∧ ∀ fault, answer = .error fault → refused fault state)
      (Action.ofExcept answer) done refused := by
  intro state ⟨onOk, onError⟩
  cases answer with
  | ok value => exact onOk value rfl
  | error fault => exact onError fault rfl

/-- What is left by runs that are done, with nothing said of refusals. -/
theorem ensures_of_done
    (leaves : ∀ state value after, before state →
      action.run state = .done value after → done value after) :
    Ensures before action done (fun _ _ => True) := by
  intro state start
  cases run : action.run state with
  | done value after => exact leaves state value after start run
  | refused fault after => trivial
  | stopped trap => trivial

/-- From one state, what is known of a run that is done comes with the
run. -/
theorem Ensures.running (ensures : Ensures before action done refused)
    {state : σ} (start : before state) :
    Ensures (· = state) action
      (fun value after => action.run state = .done value after
        ∧ done value after) refused := by
  rintro _ rfl
  have meets := ensures.apply start
  cases run : action.run _ with
  | done value after =>
    rw [run] at meets
    exact ⟨rfl, meets⟩
  | refused fault after =>
    rw [run] at meets
    exact meets
  | stopped trap => trivial

/-- A computation that needs no state leaves the state alone. -/
theorem ensures_answer (inv : σ → Prop) (answer : Except Fault α) :
    Ensures inv (Action.ofExcept answer)
      (fun value state => answer = .ok value ∧ inv state) (fun _ => inv) :=
  fun _ start => ensures_ofExcept.apply
    ⟨fun _ known => ⟨known, start⟩, fun _ _ => start⟩

end

/-! ### Operations put together -/

/-- What the first operation leaves is what the second one starts from. -/
theorem ensures_bind {before : σ → Prop} {between : α → σ → Prop}
    {done : β → σ → Prop} {refused : Fault → σ → Prop}
    {action : Action σ α} {next : α → Action σ β}
    (first : Ensures before action between refused)
    (second : ∀ value, Ensures (between value) (next value) done refused) :
    Ensures before (action >>= next) done refused := by
  intro state start
  have meets := first state start
  rw [Action.run_bind]
  cases ending : action.run state with
  | done value after =>
    rw [ending] at meets
    exact second value after meets
  | refused fault after =>
    rw [ending] at meets
    exact meets
  | stopped trap => trivial

theorem ensures_attempt {before : σ → Prop}
    {done : Except Fault α → σ → Prop} {refused : Fault → σ → Prop}
    {action : Action σ α}
    (ensures : Ensures before action (fun value => done (.ok value))
      (fun fault => done (.error fault))) :
    Ensures before action.attempt done refused := by
  intro state start
  have meets := ensures state start
  rw [Action.run_attempt]
  cases ending : action.run state with
  | done value after | refused fault after =>
    rw [ending] at meets
    exact meets
  | stopped trap => trivial

theorem ensures_onRefusal {before : σ → Prop} {done : α → σ → Prop}
    {between refused : Fault → σ → Prop} {action : Action σ α}
    {more : Fault → Action σ Unit}
    (first : Ensures before action done between)
    (second : ∀ fault, Ensures (between fault) (more fault)
      (fun _ => refused fault) refused) :
    Ensures before (action.onRefusal more) done refused := by
  intro state start
  have meets := first state start
  rw [Action.run_onRefusal]
  cases ending : action.run state with
  | done value after =>
    rw [ending] at meets
    exact meets
  | refused fault after =>
    rw [ending] at meets
    exact ensures_bind (second fault) (fun _ => ensures_refuse) after meets
  | stopped trap => trivial

/-- An operation on a part sees the part and changes nothing else. -/
theorem ensures_within {view : τ → σ} {update : σ → τ → τ}
    {before : τ → Prop} {done : α → τ → Prop} {refused : Fault → τ → Prop}
    {action : Action σ α}
    (ensures : ∀ whole, before whole →
      Meets (fun value part => done value (update part whole))
        (fun fault part => refused fault (update part whole))
        (action.run (view whole))) :
    Ensures before (Action.within view update action) done refused := by
  intro whole start
  have meets := ensures whole start
  rw [Action.run_within]
  cases ending : action.run (view whole) with
  | done value part | refused fault part =>
    rw [ending] at meets
    exact meets
  | stopped trap => trivial

/-! ### Operations that are done -/

/-- Two operations are done when the first one is, and then the second
one. -/
theorem run_bind_eq_done {action : Action σ α} {next : α → Action σ β}
    {state after : σ} {value : β} :
    (action >>= next).run state = .done value after
      ↔ ∃ first between, action.run state = .done first between
        ∧ (next first).run between = .done value after := by
  rw [Action.run_bind]
  cases action.run state with
  | refused fault between => simp
  | stopped trap => simp
  | done first between =>
    constructor
    · exact fun run => ⟨first, between, rfl, run⟩
    · rintro ⟨_, _, same, run⟩
      cases same
      exact run

section

variable {before : σ → Prop} {done : α → σ → Prop} {action : Action σ α}

theorem run_ofExcept_eq_done {answer : Except Fault α} {state after : σ}
    {value : α} (run : (Action.ofExcept answer).run state = .done value after) :
    answer = .ok value ∧ state = after := by
  cases answer with
  | error fault => nomatch run
  | ok other =>
    cases run
    exact ⟨rfl, rfl⟩

/-- Where there is room for so many bytes, there can be a string of them. -/
theorem run_reserve_eq_done {size : Nat} {state after : σ} {value : Unit}
    (run : (Action.reserve size).run state = .done value after) :
    size < sizeLimit ∧ state = after := by
  by_cases fits : size < sizeLimit
  · rw [Action.run_reserve fits] at run
    cases run
    exact ⟨fits, rfl⟩
  · rw [Action.run_reserve_of_le (Nat.not_lt.mp fits)] at run
    nomatch run

theorem completes_pure {value : α}
    (known : ∀ state, before state → done value state) :
    Completes before (pure value : Action σ α) done :=
  fun state start => ⟨value, state, rfl, known state start⟩

/-- Operations one after the other are done if each of them is. -/
theorem completes_bind {between : β → σ → Prop} {first : Action σ β}
    {next : β → Action σ α} (start : Completes before first between)
    (rest : ∀ value, Completes (between value) (next value) done) :
    Completes before (first >>= next) done := by
  intro state known
  obtain ⟨value, middle, run, known⟩ := start state known
  obtain ⟨last, after, runNext, known⟩ := rest value middle known
  refine ⟨last, after, ?_, known⟩
  rw [Action.run_bind, run]
  exact runNext

theorem Completes.imp (completes : Completes before action done)
    {first : σ → Prop} {last : α → σ → Prop}
    (weaken : ∀ state, first state → before state)
    (onDone : ∀ value state, done value state → last value state) :
    Completes first action last := by
  intro state known
  obtain ⟨value, after, run, known⟩ := completes state (weaken state known)
  exact ⟨value, after, run, onDone value after known⟩

/-- What is done leaves what is said, and nothing is said of refusals. -/
theorem Completes.ensures (completes : Completes before action done)
    (refused : Fault → σ → Prop) : Ensures before action done refused := by
  intro state known
  obtain ⟨value, after, run, known⟩ := completes state known
  rw [run]
  exact known

end

/-! ### Properties that are kept -/

section

variable {inv : σ → Prop}

/-- Nothing can be done about what does not depend on the state. -/
theorem keeps_fact (fact : Prop) (action : Action σ α) :
    Keeps (fun _ => fact) action :=
  fun _ holds => meets_of_forall _ (fun _ _ => holds) (fun _ _ => holds)

theorem keeps_true (action : Action σ α) : Keeps (fun _ => True) action :=
  keeps_fact True action

theorem keeps_pure (value : α) : Keeps inv (pure value : Action σ α) :=
  fun _ start => start

theorem keeps_refuse (fault : Fault) :
    Keeps inv (Action.refuse fault : Action σ α) :=
  fun _ start => start

theorem keeps_get : Keeps inv (Action.get : Action σ σ) :=
  fun _ start => start

theorem keeps_modify {change : σ → σ}
    (step : ∀ state, inv state → inv (change state)) :
    Keeps inv (Action.modify change) :=
  step

theorem keeps_ofExcept (answer : Except Fault α) :
    Keeps inv (Action.ofExcept answer : Action σ α) :=
  ensures_ofExcept.imp (fun _ start => ⟨fun _ _ => start, fun _ _ => start⟩)
    (fun _ _ => id) (fun _ _ => id)

theorem keeps_bind {action : Action σ α} {next : α → Action σ β}
    (first : Keeps inv action) (second : ∀ value, Keeps inv (next value)) :
    Keeps inv (action >>= next) :=
  ensures_bind first second

theorem keeps_ite {condition : Prop} [Decidable condition]
    {action other : Action σ α} (yes : condition → Keeps inv action)
    (no : ¬ condition → Keeps inv other) :
    Keeps inv (if condition then action else other) := by
  by_cases holds : condition
  · rw [if_pos holds]
    exact yes holds
  · rw [if_neg holds]
    exact no holds

theorem keeps_attempt {action : Action σ α} (keeps : Keeps inv action) :
    Keeps inv action.attempt :=
  ensures_attempt keeps

theorem keeps_onRefusal {action : Action σ α} {more : Fault → Action σ Unit}
    (first : Keeps inv action) (second : ∀ fault, Keeps inv (more fault)) :
    Keeps inv (action.onRefusal more) :=
  ensures_onRefusal first second

/-- No operation on a part can break what does not depend on it. -/
theorem keeps_within {inv : τ → Prop} {view : τ → σ} {update : σ → τ → τ}
    (free : ∀ part whole, inv whole → inv (update part whole))
    (action : Action σ α) : Keeps inv (Action.within view update action) := by
  refine ensures_within fun whole start => ?_
  exact meets_of_forall _ (fun _ part => free part whole start)
    (fun _ part => free part whole start)

/-- What is ensured after answers and faults alike holds in every state
that is left. -/
theorem Ensures.of_after? {before : σ → Prop} {action : Action σ α}
    (ensures : Ensures before action (fun _ => inv) (fun _ => inv))
    {state after : σ} (start : before state)
    (left : (action.run state).after? = some after) : inv after := by
  have meets := ensures state start
  cases ending : action.run state with
  | done value final | refused fault final =>
    rw [ending] at meets left
    exact Option.some.inj left ▸ meets
  | stopped trap =>
    rw [ending] at left
    cases left

end

/-! ### Operations that agree -/

/-- From states with `before`, two operations end in the same way. -/
def Agree (before : σ → Prop) (action other : Action σ α) : Prop :=
  ∀ state, before state → action.run state = other.run state

section

variable {before : σ → Prop} {action other : Action σ α}

theorem Agree.refl (before : σ → Prop) (action : Action σ α) :
    Agree before action action :=
  fun _ _ => rfl

/-- Where the first operation keeps what the second ones agree on, both
agree. -/
theorem Agree.bind {next nextOther : α → Action σ β}
    (first : Agree before action other) (keeps : Keeps before action)
    (second : ∀ value, Agree before (next value) (nextOther value)) :
    Agree before (action >>= next) (other >>= nextOther) := by
  intro state start
  have left := keeps state start
  rw [Action.run_bind, Action.run_bind, ← first state start]
  cases ending : action.run state with
  | done value after =>
    rw [ending] at left
    exact second value after left
  | refused fault after | stopped trap => rfl

/-- What follows may be one and the same. -/
theorem Agree.followed (first : Agree before action other)
    (next : α → Action σ β) :
    Agree before (action >>= next) (other >>= next) := by
  intro state start
  rw [Action.run_bind, Action.run_bind, first state start]

theorem Agree.attempt (same : Agree before action other) :
    Agree before action.attempt other.attempt := by
  intro state start
  rw [Action.run_attempt, Action.run_attempt, same state start]

theorem agree_ite {condition : Prop} [Decidable condition]
    {alternative alternativeOther : Action σ α}
    (yes : Agree before action other)
    (no : Agree before alternative alternativeOther) :
    Agree before (if condition then action else alternative)
      (if condition then other else alternativeOther) := by
  by_cases holds : condition
  · rw [if_pos holds, if_pos holds]
    exact yes
  · rw [if_neg holds, if_neg holds]
    exact no

end

end Proofs.Effects

end MountSpace
