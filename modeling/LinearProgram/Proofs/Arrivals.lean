import LinearProgram.Proofs.Entities
import LinearProgram.Session.Run

/-!
The order in which rows came. What looks at a problem, numbers it or solves it does not see this order:
sessions that differ in nothing else answer alike.
-/

namespace LinearProgram

def Problem.forget (problem : Problem) : Problem := { problem with arrivals := #[] }

def Session.forget (session : Session) : Session :=
  { session with problems := session.problems.map Problem.forget }

def Step.observes : Step → Bool
  | .coefficient .. | .columns _ | .rows _ | .matrix _ | .listing _ | .summary _ | .get _
  | .columnText _ | .rowText _ | .engineBounds _ | .assignNumbers _ | .flatten _ | .rowEntries ..
  | .solve .. => true
  | _ => false

namespace Problem

variable (problem : Problem)

-- Problems that differ in nothing but the order of arrival.
theorem forget_eq_iff (other : Problem) :
    problem.forget = other.forget ↔ problem.name = other.name ∧ problem.columns = other.columns ∧
      problem.rows = other.rows ∧ problem.objective = other.objective := by
  cases problem
  cases other
  simp [forget]

theorem forget_changeRow (key : Value) (change : Row → Row) :
    problem.forget.changeRow key change = (problem.changeRow key change).forget := by
  obtain ⟨name, columns, rows, arrivals, objective⟩ := problem
  cases key with
  | text key => rfl
  | _ =>
      cases objective with
      | none => rfl
      | some aim => cases aim <;> rfl

theorem forget_changeAttributes (kind : EntityKind) (key : Value) (change : Attributes → Attributes) :
    problem.forget.changeAttributes kind key change =
      (problem.changeAttributes kind key change).forget := by
  cases kind with
  | column => cases key <;> rfl
  | row => exact problem.forget_changeRow key _
  | objective => exact problem.forget_changeRow key _

theorem forget_storeResults (journey : Journey) :
    journey.storeResults problem.forget = (journey.storeResults problem).forget := by
  unfold Journey.storeResults
  induction journey.passed generalizing problem with
  | nil => rfl
  | cons event rest ih =>
      simp only [List.foldl_cons]
      cases event with
      | store kind key result x =>
          dsimp only
          rw [forget_changeAttributes, ih]
      | _ => exact ih problem

theorem forget_solve (solver : Solver) (engine : Engine) :
    solver.solve problem.forget engine =
      { solver.solve problem engine with problem := (solver.solve problem engine).problem.forget } := by
  have prepared : Solver.prepare problem.forget.assignNumbers = Solver.prepare problem.assignNumbers := rfl
  unfold Solver.solve
  dsimp only
  rw [prepared]
  cases Solver.prepare problem.assignNumbers with
  | error fault => rfl
  | ok result =>
      cases result with
      | error rejected => rfl
      | ok prepared =>
          have stored := problem.assignNumbers.forget_storeResults
            (travel engine.failure (Itinerary.events solver prepared.title
              (problem.objective.map Aim.key) prepared.formulation engine))
          simp only [Solver.run]
          exact congrArg (fun after => (⟨after, _, _, _, _, _⟩ : Solved)) stored

end Problem

namespace Session

variable (session : Session)

theorem problemAt_forget (index : Nat) :
    session.forget.problemAt index = (session.problemAt index).map Problem.forget := by
  simp only [problemAt, forget, List.getElem?_map]
  cases session.problems[index]? <;> rfl

theorem setProblem_forget (index : Nat) (problem : Problem) :
    session.forget.setProblem index problem.forget = (session.setProblem index problem).forget := by
  simp [setProblem, forget, List.map_set]

theorem inspect_forget (index : Nat) (look : Problem → Except Fault Answer)
    (blind : ∀ problem : Problem, look problem.forget = look problem) :
    session.forget.inspect index look =
      ((session.inspect index look).1.forget, (session.inspect index look).2) := by
  simp only [inspect, problemAt_forget]
  cases session.problemAt index with
  | error fault => rfl
  | ok problem =>
      have same : (Except.ok problem.forget >>= look) = (Except.ok problem >>= look) := blind problem
      simp only [Except.map, same]

theorem describe_forget (ref : EntityRef) (column : String → Column → Except Fault Answer)
    (row : Problem → Value → Row → Except Fault Answer)
    (blind : ∀ problem : Problem, row problem.forget = row problem) :
    session.forget.describe ref column row =
      ((session.describe ref column row).1.forget, (session.describe ref column row).2) := by
  refine session.inspect_forget ref.problem _ fun problem => ?_
  have same : problem.forget.view? ref.kind ref.key = problem.view? ref.kind ref.key := rfl
  rw [same, blind]

theorem shownDirection_forget (direction : Value) :
    session.forget.shownDirection direction = session.shownDirection direction := by
  cases direction with
  | entity index kind key =>
      simp only [shownDirection, forget, List.getElem?_map, Option.bind_map]
      rfl
  | _ => rfl

theorem listing_forget (index : Nat) :
    session.forget.listing index =
      ((session.listing index).1.forget, (session.listing index).2) := by
  have shown : session.forget.shownDirection = session.shownDirection :=
    funext session.shownDirection_forget
  unfold listing
  rw [shown]
  refine session.inspect_forget index _ fun problem => ?_
  have aimed : problem.forget.objective = problem.objective := rfl
  dsimp only
  rw [aimed]
  cases problem.objective with
  | none => rfl
  | some aim =>
      dsimp only
      rw [Problem.forget_changeRow]
      rfl

theorem assignNumbers_forget (index : Nat) :
    session.forget.assignNumbers index =
      ((session.assignNumbers index).1.forget, (session.assignNumbers index).2) := by
  unfold assignNumbers
  rw [problemAt_forget]
  cases session.problemAt index with
  | error fault => rfl
  | ok problem =>
      have order : problem.assignNumbers.forget.checkOrder = problem.assignNumbers.checkOrder := rfl
      have numbered : problem.forget.assignNumbers = problem.assignNumbers.forget := rfl
      simp only [Except.map, numbered, order, setProblem_forget]
      cases problem.assignNumbers.checkOrder <;> rfl

theorem solve_forget (solver index : Nat) (engine : Engine) :
    session.forget.solve solver index engine =
      ((session.solve solver index engine).1.forget, (session.solve solver index engine).2) := by
  have solvers : session.forget.solverAt solver = session.solverAt solver := rfl
  unfold solve
  rw [problemAt_forget, solvers]
  cases session.solverAt solver with
  | error fault => cases session.problemAt index <;> rfl
  | ok engine =>
      cases session.problemAt index with
      | error fault => rfl
      | ok problem =>
          simp only [Except.map, Problem.forget_solve, setProblem_forget]
          rfl

/-- An observing step answers the same whatever the order of arrival was. -/
theorem step_forget (step : Step) (observing : step.observes = true) :
    session.forget.step step = ((session.step step).1.forget, (session.step step).2) := by
  cases step with
  | coefficient index row column => exact session.inspect_forget index _ fun _ => rfl
  | columns index => exact session.inspect_forget index _ fun _ => rfl
  | rows index => exact session.inspect_forget index _ fun _ => rfl
  | matrix index => exact session.inspect_forget index _ fun _ => rfl
  | listing index => exact session.listing_forget index
  | summary index => exact session.inspect_forget index _ fun _ => rfl
  | get handle =>
      cases handle with
      | none => rfl
      | some ref => exact session.inspect_forget ref.problem _ fun _ => rfl
  | columnText handle =>
      cases handle with
      | none => rfl
      | some ref => exact session.describe_forget ref _ _ fun _ => rfl
  | rowText handle =>
      cases handle with
      | none => rfl
      | some ref => exact session.describe_forget ref _ _ fun _ => rfl
  | engineBounds handle =>
      cases handle with
      | none => rfl
      | some ref => exact session.describe_forget ref _ _ fun _ => rfl
  | assignNumbers index => exact session.assignNumbers_forget index
  | flatten index => exact session.inspect_forget index _ fun _ => rfl
  | rowEntries index number => exact session.inspect_forget index _ fun _ => rfl
  | solve solver index engine => exact session.solve_forget solver index engine
  | _ => cases observing

-- Observing steps answer the same, one after another, whatever the order of arrival was.
theorem run_forget (steps : List Step) (observing : ∀ step ∈ steps, step.observes = true) :
    session.forget.run steps = ((session.run steps).1.forget, (session.run steps).2) := by
  induction steps generalizing session with
  | nil => rfl
  | cons first rest ih =>
      have head := session.step_forget first (observing first List.mem_cons_self)
      have tail := ih (session.step first).1 fun step inside =>
        observing step (List.mem_cons_of_mem first inside)
      simp only [run, head, tail]

/-- Sessions that differ in nothing but the order of arrival answer alike. -/
theorem replies_of_forget (other : Session) (same : session.forget = other.forget) (steps : List Step)
    (observing : ∀ step ∈ steps, step.observes = true) :
    (session.run steps).2 = (other.run steps).2 := by
  have replies := session.run_forget steps observing
  rw [same, other.run_forget steps observing] at replies
  exact (congrArg Prod.snd replies).symm

end Session

end LinearProgram
