import Mathlib.Data.List.Induction
import MountSpace.Proofs.NameSpaces.Serving

/-!
# `MountSpace.Proofs.NameSpaces.Courses`: what drivers are asked

What a command has done to the world below is a course: one request after
the other, each with its answer, and events noted in between. `Course` says
which requests lead from one world to another.

* `Course.of_nil`, `Course.of_snoc`, `Course.of_one`: courses taken apart.
  `Course.holds`: what every request of a course keeps is kept by all of it.
* `Course.logged`: a driver that keeps a log of what it is asked has exactly
  its part of the course in the log. So a course is not one of several that
  would do: these requests were made, and no others. Any driver can be given
  a log (`Logged`).
* `Along`: a name space of which only the world has changed, along a course.
  `ensures_call_along`, `ensures_lookup_along`: the rules for what commands
  are made of.
-/

set_option autoImplicit false

namespace MountSpace.Proofs.NameSpaces

open Effects
open MountSpace.NameSpace

variable {δ σ α : Type}

/-- A request to a driver, and its answer. -/
structure Exchange where
  {α : Type}
  driver : DriverId
  request : Request α
  answer : Except Fault α

variable [Driver δ σ]

/-- These requests, made one after the other, lead from one world to
another. -/
inductive Course (world : World δ σ) : List Exchange → World δ σ → Prop
  | nil : Course world [] world
  | note {exchanges : List Exchange} {later : World δ σ}
    (course : Course world exchanges later) (event : Event) :
    Course world exchanges { later with events := event :: later.events }
  | ask {exchanges : List Exchange} {between later : World δ σ} {α : Type}
    {driver : DriverId} {request : Request α} {answer : Except Fault α}
    (course : Course world exchanges between)
    (answered : ((World.call driver request).run between).reply?
      = some answer)
    (left : ((World.call driver request).run between).after? = some later) :
    Course world (exchanges ++ [⟨driver, request, answer⟩]) later

section

variable {world between later : World δ σ}
  {exchanges more : List Exchange}

/-- By induction on the second course. -/
theorem Course.append (first : Course world exchanges between)
    (second : Course between more later) :
    Course world (exchanges ++ more) later := by
  induction second with
  | nil =>
    rw [List.append_nil]
    exact first
  | note _ event ih => exact ih.note event
  | ask _ answered left ih =>
    rw [← List.append_assoc]
    exact ih.ask answered left

/-- A course without requests: some events have been noted. -/
theorem Course.of_nil (course : Course world [] later) :
    ∃ events, later = { world with events } := by
  generalize none : [] = exchanges at course
  induction course with
  | nil => exact ⟨world.events, rfl⟩
  | note _ event ih =>
    obtain ⟨events, rfl⟩ := ih none
    exact ⟨event :: events, rfl⟩
  | ask _ _ _ _ => simp at none

/-- The last request of a course, and what led to it. -/
theorem Course.of_snoc {driver : DriverId} {request : Request α}
    {answer : Except Fault α}
    (course : Course world (exchanges ++ [⟨driver, request, answer⟩])
      later) :
    ∃ between left events, Course world exchanges between
      ∧ ((World.call driver request).run between).reply? = some answer
      ∧ ((World.call driver request).run between).after? = some left
      ∧ later = { left with events } := by
  generalize all : exchanges ++ [_] = asked at course
  induction course with
  | nil => simp at all
  | note _ event ih =>
    obtain ⟨between, left, events, first, answered, after, rfl⟩ := ih all
    exact ⟨between, left, event :: events, first, answered, after, rfl⟩
  | @ask _ between later _ _ _ _ first answered left _ =>
    obtain ⟨rfl, one⟩ := List.append_inj' all rfl
    cases one
    exact ⟨between, later, later.events, first, answered, left, rfl⟩

/-- What a single request leaves, up to events. -/
theorem Course.of_one {driver : DriverId} {request : Request α}
    {answer : Except Fault α} {before : World δ σ → Prop}
    {done : α → World δ σ → Prop} {refused : Fault → World δ σ → Prop}
    (course : Course world [⟨driver, request, answer⟩] later)
    (ensures : Ensures before (World.call driver request) done refused)
    (start : ∀ events, before { world with events }) :
    ∃ left events, later = { left with events }
      ∧ (∀ value, answer = .ok value → done value left)
      ∧ ∀ fault, answer = .error fault → refused fault left := by
  obtain ⟨_, left, events, first, answered, after, rfl⟩ :=
    @Course.of_snoc _ _ _ _ _ _ [] _ _ _ course
  obtain ⟨noted, rfl⟩ := first.of_nil
  have meets := ensures.apply (start noted)
  refine ⟨left, events, rfl, ?_⟩
  cases ending : (World.call driver request).run { world with events := noted }
    with
  | done value final =>
    rw [ending] at meets answered after
    cases answered
    cases after
    exact ⟨fun _ same => Except.ok.inj same ▸ meets, nofun⟩
  | refused fault final =>
    rw [ending] at meets answered after
    cases answered
    cases after
    exact ⟨nofun, fun _ same => Except.error.inj same ▸ meets⟩
  | stopped trap =>
    rw [ending] at after
    cases after

/-- By induction on the requests that follow. -/
theorem Course.of_append (course : Course world (exchanges ++ more) later) :
    ∃ between, Course world exchanges between := by
  induction more using List.reverseRecOn generalizing later with
  | nil =>
    rw [List.append_nil] at course
    exact ⟨later, course⟩
  | append_singleton more exchange ih =>
    rw [← List.append_assoc] at course
    obtain ⟨between, _, _, first, _⟩ := course.of_snoc
    exact ih first

/-- By induction on the course: what is kept by every request of it, and when
events are noted, is kept. -/
theorem Course.holds {inv : World δ σ → Prop}
    (course : Course world exchanges later)
    (notes : ∀ event, Keeps inv (World.note event))
    (asks : ∀ exchange ∈ exchanges,
      Keeps inv (World.call exchange.driver exchange.request))
    (start : inv world) : inv later := by
  induction course with
  | nil => exact start
  | note _ event ih => exact (notes event).apply (ih asks)
  | @ask exchanges _ _ _ driver request answer _ _ left ih =>
    have last := asks ⟨driver, request, answer⟩
      (List.mem_append_right _ (List.mem_singleton_self _))
    refine last.of_after? (ih fun exchange member => ?_) left
    exact asks exchange (List.mem_append_left _ member)

/-! ### Logs -/

/-- What is written down of a request and its answer, if anything. -/
abbrev Entry (ι : Type) : Type 1 :=
  (α : Type) → Request α → Except Fault α → Option ι

/-- A driver that keeps a log of what it is asked. -/
def Logs (σ : Type) [Driver δ σ] {ι : Type} (entry : Entry ι)
    (log : δ → List ι) : Prop :=
  ∀ {α : Type} (request : Request α) (site : Site δ σ),
    Meets
      (fun value left => log left.driver
        = log site.driver ++ (entry α request (.ok value)).toList)
      (fun fault left => log left.driver
        = log site.driver ++ (entry α request (.error fault)).toList)
      ((Driver.serve request).run site)

/-- Any driver, with a log. -/
structure Logged {ι : Type} (entry : Entry ι) (δ : Type) where
  driver : δ
  log : List ι

/-- The driver answers, and then its answer is written down. -/
def Logged.serve {ι : Type} {entry : Entry ι} (request : Request α) :
    Action (Site (Logged entry δ) σ) α where
  run site :=
    match (Driver.serve request).run
        (⟨site.driver.driver, site.medium⟩ : Site δ σ) with
    | .done value left => .done value
      ⟨⟨left.driver, site.driver.log
        ++ (entry α request (.ok value)).toList⟩, left.medium⟩
    | .refused fault left => .refused fault
      ⟨⟨left.driver, site.driver.log
        ++ (entry α request (.error fault)).toList⟩, left.medium⟩
    | .stopped trap => .stopped trap

instance {ι : Type} {entry : Entry ι} : Driver (Logged entry δ) σ where
  serve := Logged.serve

theorem logs_logged {ι : Type} (entry : Entry ι) :
    Logs σ entry (Logged.log : Logged entry δ → List ι) := by
  intro α request site
  show Meets _ _ ((Logged.serve request).run site)
  simp only [Logged.serve]
  cases (Driver.serve request).run
      (⟨site.driver.driver, site.medium⟩ : Site δ σ) with
  | done value left | refused fault left => rfl
  | stopped trap => trivial

/-- What one of the drivers writes down of a course. -/
def entries {ι : Type} (entry : Entry ι) (driver : DriverId)
    (exchanges : List Exchange) : List ι :=
  exchanges.filterMap fun exchange =>
    if exchange.driver = driver then
      entry exchange.α exchange.request exchange.answer
    else none

/-- What a request does to a world. -/
theorem run_worldCall {driver : DriverId} {request : Request α}
    {site : Site δ σ} (found : world.site? driver = some site) :
    (World.call driver request).run world =
      match (Driver.serve request).run site with
      | .done value left => .done value (World.putSite driver left world)
      | .refused fault left =>
        .refused fault (World.putSite driver left world)
      | .stopped trap => .stopped trap := by
  simp only [World.call, found, Action.run_within]
  cases (Driver.serve request).run site <;> rfl

/-- A driver sees its site and changes nothing else in the world. -/
theorem ensures_worldCall {driver : DriverId} {request : Request α}
    {before : World δ σ → Prop} {done : α → World δ σ → Prop}
    {refused : Fault → World δ σ → Prop}
    (missing : ∀ world, before world → world.site? driver = none →
      refused .noDevice world)
    (serve : ∀ world site, before world → world.site? driver = some site →
      Meets (fun value left => done value (World.putSite driver left world))
        (fun fault left => refused fault (World.putSite driver left world))
        ((Driver.serve request).run site)) :
    Ensures before (World.call driver request) done refused := by
  intro world start
  cases found : world.site? driver with
  | none =>
    rw [World.call]
    simp only [found]
    exact missing world start found
  | some site =>
    have meets := serve world site start found
    rw [run_worldCall found]
    cases ending : (Driver.serve request).run site with
    | done value left | refused fault left =>
      rw [ending] at meets
      exact meets
    | stopped trap => trivial

/-- No driver comes or goes. -/
theorem Course.length_drivers (course : Course world exchanges later) :
    later.drivers.length = world.drivers.length := by
  have same (exchange : Exchange) (_ : exchange ∈ exchanges) :
      Keeps (fun other : World δ σ =>
          other.drivers.length = world.drivers.length)
        (World.call exchange.driver exchange.request) := by
    refine ensures_worldCall (fun _ same _ => same)
      fun other site same _ => ?_
    exact meets_of_forall _
      (fun _ left => (length_putSite left other).trans same)
      (fun _ left => (length_putSite left other).trans same)
  exact course.holds (fun _ _ same => same) same rfl

section

variable {ι : Type} {entry : Entry ι} {log : δ → List ι}
  {driver : DriverId} {known : List ι}

/-- A driver writes down what it is asked, and nothing of what others are
asked. -/
theorem logs_worldCall (logs : Logs σ entry log) (asked : DriverId)
    (request : Request α) :
    Ensures (fun world : World δ σ => Serves (log · = known) world driver)
      (World.call asked request)
      (fun value later => Serves (fun state => log state = known
        ++ entries entry driver [⟨asked, request, .ok value⟩]) later driver)
      (fun fault later => Serves (fun state => log state = known
        ++ entries entry driver [⟨asked, request, .error fault⟩]) later
        driver) := by
  have one : ∀ answer : Except Fault α,
      entries entry driver [⟨asked, request, answer⟩]
        = if asked = driver then (entry α request answer).toList else [] := by
    intro answer
    rw [entries, List.filterMap_cons, List.filterMap_nil]
    by_cases same : asked = driver
    · simp only [if_pos same]
      cases entry α request answer <;> rfl
    · simp only [if_neg same]
  simp only [one]
  refine ensures_worldCall ?_ ?_
  · intro world serves none
    by_cases same : asked = driver
    · obtain ⟨site, found, _⟩ := serves.site?
      cases found.symm.trans (same ▸ none)
    · rw [if_neg same, List.append_nil]
      exact serves
  · intro world site serves found
    by_cases same : asked = driver
    · subst same
      obtain rfl := serves.of_site? found
      simp only [if_true]
      exact (logs request site).imp
        (fun _ left writes =>
          @serves_putSite _ _ (log · = _) _ _ _ left found writes)
        (fun _ left writes =>
          @serves_putSite _ _ (log · = _) _ _ _ left found writes)
    · simp only [if_neg same, List.append_nil]
      exact meets_of_forall _
        (fun _ left => serves.putSite (Ne.symm same) left)
        (fun _ left => serves.putSite (Ne.symm same) left)

/-- By induction on the course: in its log a driver has what it was asked,
and nothing else. -/
theorem Course.logged (logs : Logs σ entry log)
    (course : Course world exchanges later)
    (serves : Serves (log · = known) world driver) :
    Serves (log · = known ++ entries entry driver exchanges) later
      driver := by
  induction course with
  | nil =>
    rw [entries, List.filterMap_nil, List.append_nil]
    exact serves
  | note course event ih => exact ih
  | @ask exchanges between later α asked request answer _ answered left ih =>
    have writes := (logs_worldCall logs asked request).apply ih
    rw [entries, List.filterMap_append, ← List.append_assoc]
    cases ending : (World.call asked request).run between with
    | done value after | refused fault after =>
      rw [ending] at answered left writes
      cases answered
      cases left
      exact writes
    | stopped trap =>
      rw [ending] at left
      nomatch left

end

end

/-! ### Name spaces on the way -/

/-- Of a name space only the world has changed, along a course. -/
def Along (first : NameSpace δ σ) (exchanges : List Exchange)
    (space : NameSpace δ σ) : Prop :=
  ∃ world, space = { first with world }
    ∧ Course first.world exchanges world

section

variable {first : NameSpace δ σ} {exchanges : List Exchange}

theorem Along.start (first : NameSpace δ σ) : Along first [] first :=
  ⟨first.world, rfl, .nil⟩

theorem keeps_note_along (event : Event) :
    Keeps (Along first exchanges) (note event) := by
  rintro _ ⟨world, rfl, course⟩
  exact ⟨_, rfl, course.note event⟩

/-- Every request is one more of the course. -/
theorem ensures_call_along (driver : DriverId) (request : Request α) :
    Ensures (Along first exchanges) (call driver request)
      (fun value => Along first
        (exchanges ++ [⟨driver, request, .ok value⟩]))
      (fun fault => Along first
        (exchanges ++ [⟨driver, request, .error fault⟩])) := by
  rintro _ ⟨world, rfl, course⟩
  rw [call, inWorld, Action.run_within]
  cases ending : (World.call driver request).run world with
  | done value later | refused fault later =>
    exact ⟨later, rfl, course.ask (by rw [ending]; rfl) (by rw [ending]; rfl)⟩
  | stopped trap => trivial

/-- No driver is asked where a path leads to. -/
theorem ensures_lookup_along (path : String) :
    Ensures (Along first exchanges) (lookup path)
      (fun found space => first.mounts.find
          (Path.resolve first.directory path) = .ok found
        ∧ Along first exchanges space)
      (fun fault space => first.mounts.find
          (Path.resolve first.directory path) = .error fault
        ∧ Along first exchanges space) := by
  rintro _ ⟨world, rfl, course⟩
  rw [run_lookup]
  cases found : first.mounts.find (Path.resolve first.directory path) with
  | ok answer => exact ⟨rfl, _, rfl, course.note _⟩
  | error fault => exact ⟨rfl, world, rfl, course⟩

end

end MountSpace.Proofs.NameSpaces
