/-! Executors with a single thread. Tasks are done one after the other, in the order in which they were submitted; what
is seen of the state once all of them are done does not depend on how far the thread is. -/

namespace Penrose

structure Executor (Task S : Type) where
  tasks : List Task
  state : S

namespace Executor

variable {Task S V : Type} {effect : Task → V → V} {view : S → V}

def submit (e : Executor Task S) (tasks : List Task) : Executor Task S := { e with tasks := e.tasks ++ tasks }

/-- The thread does the next task, if there is one. -/
def runNext (perform : Task → S → S) (e : Executor Task S) : Executor Task S :=
  match e.tasks with
  | [] => e
  | task :: tasks => ⟨tasks, perform task e.state⟩

/-- What will be seen of the state when every task is done. -/
def settled (effect : Task → V → V) (view : S → V) (e : Executor Task S) : V :=
  e.tasks.foldl (fun seen task => effect task seen) (view e.state)

theorem settled_submit (e : Executor Task S) (tasks : List Task) :
    (e.submit tasks).settled effect view = tasks.foldl (fun seen task => effect task seen) (e.settled effect view) := by
  rw [settled, submit, List.foldl_append]
  rfl

theorem settled_runNext {perform : Task → S → S} (h : ∀ task s, view (perform task s) = effect task (view s))
    (e : Executor Task S) : (e.runNext perform).settled effect view = e.settled effect view := by
  obtain ⟨tasks, s⟩ := e
  cases tasks with
  | nil => rfl
  | cons task tasks =>
      have hview := h task s
      change tasks.foldl _ (view (perform task s)) = tasks.foldl _ (effect task (view s))
      rw [hview]

/-- Nothing else than the tasks changes what is seen. -/
theorem settled_state (e : Executor Task S) {s : S} (h : view s = view e.state) :
    settled effect view { e with state := s } = e.settled effect view := by
  rw [settled, h]
  rfl

theorem settled_of_idle {e : Executor Task S} (h : e.tasks = []) : e.settled effect view = view e.state := by
  rw [settled, h]
  rfl

end Executor

end Penrose
