import CashShop.Draft

namespace CashShop

abbrev Work := ExceptT WorkflowError (StateM Draft)

namespace Work

variable {α : Type}

def read (f : Draft → α) : Work α := f <$> get

def step (f : Draft → α × Draft) : Work α := fun d => ((f d).map .ok id)

def tryRead (f : Draft → Except Fault α) : Work α := fun d =>
  match f d with
  | .ok a => (.ok a, d)
  | .error e => (.error (.internal e), d)

/-- A step that may raise a fault, and then changes nothing. -/
def tryStep (f : Draft → Except Fault (α × Draft)) : Work α := fun d =>
  match f d with
  | .ok (a, d') => (.ok a, d')
  | .error e => (.error (.internal e), d)

def tryWrite (f : Draft → Except Fault Draft) : Work Unit := tryStep fun d => (f d).map fun d' => ((), d')

def put (t : Topic) (key : String) (value : Json) : Work Unit := step fun d => ((), d.put t ⟨key, value⟩)

def orElseThrow (e : WorkflowError) : Option α → Work α
  | some a => pure a
  | none => throw e

end Work

end CashShop
