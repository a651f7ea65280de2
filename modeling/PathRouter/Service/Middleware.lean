import PathRouter.Http.Response
/-!
# Middleware

An entry belongs to the stage before or after the handler, asks whether a request concerns it, and may then change the
request and the response.  A stage first asks all its entries and then runs those that answered yes, so an entry has no
say in whether its neighbours run.
-/
namespace PathRouter

/-- The stage of an entry: before the handler or after it. -/
inductive Stage where
  | before | after
deriving Repr, DecidableEq

namespace Stage

def all : List Stage := [.before, .after]

def code : Stage → String
  | .before => "PRE_HANDLER"
  | .after => "POST_HANDLER"

def label : Stage → String
  | .before => "PreHandler"
  | .after => "PostHandler"

end Stage

/-- What an entry asks of a request and the response so far. -/
abbrev Predicate := Request → Response → Bool

def Predicate.always : Predicate := fun _ _ => true

def Predicate.never : Predicate := fun _ _ => false

structure Middleware where
  stage : Stage
  applies : Predicate
  apply : Request → Response → Request × Response

/-- An entry with its number in the order of installation. -/
structure Installed where
  number : Nat
  entry : Middleware

/-- Note of an entry that ran: its number, and the request and response it was given. -/
structure Visit where
  number : Nat
  request : Request
  response : Response
deriving DecidableEq

/-- Note of an entry that was asked: its number, what it was asked about, and its answer. -/
structure Question where
  about : Visit
  answer : Bool
deriving DecidableEq

/-- How a stage went: the entries that were asked, those that ran, the request and response they left, and the number
that is reported of it. -/
structure StageRun where
  questions : List Question
  visits : List Visit
  request : Request
  response : Response
  count : Nat
deriving DecidableEq

structure Pipeline where
  before : List Installed := []
  after : List Installed := []

namespace Pipeline

def entries (p : Pipeline) : Stage → List Installed
  | .before => p.before
  | .after => p.after

def size (p : Pipeline) : Nat :=
  p.before.length + p.after.length

def isEmpty (p : Pipeline) : Bool :=
  p.size == 0

/-- Adds an entry at the end of its stage. -/
def install (p : Pipeline) (m : Middleware) : Pipeline :=
  match m.stage with
  | .before => { p with before := p.before ++ [⟨p.size, m⟩] }
  | .after => { p with after := p.after ++ [⟨p.size, m⟩] }

/-- The entries of a stage that a request and response concern. -/
def applicable (p : Pipeline) (s : Stage) (req : Request) (resp : Response) : List Installed :=
  (p.entries s).filter (fun i => i.entry.applies req resp)

/-- Asks the entries of a stage about a request and response, one after the other. -/
def ask (p : Pipeline) (s : Stage) (req : Request) (resp : Response) : List Question :=
  (p.entries s).map (fun i => ⟨⟨i.number, req, resp⟩, i.entry.applies req resp⟩)

/-- Runs entries, each on the request and response that the one before left. -/
def runEntries (req : Request) (resp : Response) : List Installed → List Visit × Request × Response
  | [] => ([], req, resp)
  | i :: rest =>
    let (req', resp') := i.entry.apply req resp
    let (visits, left) := runEntries req' resp' rest
    (⟨i.number, req, resp⟩ :: visits, left)

/-- Selects the entries of a stage, runs them in order of installation, and reports how many were selected. -/
def runStage (p : Pipeline) (s : Stage) (req : Request) (resp : Response) : StageRun :=
  let selected := p.applicable s req resp
  let (visits, request, response) := runEntries req resp selected
  { questions := p.ask s req resp, visits, request, response, count := selected.length }

end Pipeline
end PathRouter
