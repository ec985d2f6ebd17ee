import Propositional.Formula.Parse
import Propositional.Session.Step
import Propositional.Table.Written

set_option autoImplicit false

/-!
# Sessions

A session keeps formulas on a stack, values for names, a table and an enumeration of
assignments, and answers one request after the other.  A request that cannot be met
changes nothing.
-/

namespace Propositional.Session

/-- The table that was laid out last, and the walk through its rows. -/
structure Layout where
  formula : Formula
  rows : Walk Row

/-- What a session keeps between requests. -/
structure State where
  /-- The formulas, the topmost first. -/
  stack : List Formula
  /-- The values of the names. -/
  environment : Assignment
  /-- The table, if one was laid out. -/
  layout : Option Layout
  /-- The walk through assignments, if they were enumerated. -/
  assignments : Option (Walk Assignment)

/-- The state in which a session begins. -/
def State.initial : State := ⟨[], ∅, none, none⟩

/-- What a request came to that was met. -/
structure Outcome where
  answer : Answer
  state : State
  events : List Event

/-! ## The stack -/

/-- Puts a formula on the stack, and displays it. -/
def push (f : Formula) (s : State) : Outcome :=
  ⟨.text f.display, { s with stack := f :: s.stack }, []⟩

/-- Puts the formula that was read on the stack, if one was. -/
def pushParse (parse : Parse) (s : State) : Outcome :=
  match parse.outcome with
  | .ok f => { push f s with events := parse.events }
  | .error error => ⟨.failure error, s, parse.events⟩

/-- Goes on with the topmost formula and the rest of the stack. -/
def withTop (s : State) (k : Formula → List Formula → Outcome) : Except Refusal Outcome :=
  match s.stack with
  | [] => .error .emptyStack
  | top :: rest => .ok (k top rest)

/-- Goes on with the two topmost formulas, the left one first, and the rest of the
stack. -/
def withPair (s : State) (k : Formula → Formula → List Formula → Outcome) :
    Except Refusal Outcome :=
  match s.stack with
  | right :: left :: rest => .ok (k left right rest)
  | _ => .error .emptyStack

/-! ## The table and the assignments -/

/-- Goes on with the table. -/
def withLayout (s : State) (k : Layout → Outcome) : Except Refusal Outcome :=
  match s.layout with
  | none => .error .noTable
  | some layout => .ok (k layout)

/-- Goes on with the walk through assignments. -/
def withAssignments (s : State) (k : Walk Assignment → Outcome) : Except Refusal Outcome :=
  match s.assignments with
  | none => .error .noAssignments
  | some walk => .ok (k walk)

/-- Goes through the rows of the table. -/
def moveRows (s : State) (move : Move) : Except Refusal Outcome :=
  match s.layout with
  | none => .error .noTable
  | some layout =>
    match layout.rows.move? move with
    | none => .error .nothingSaved
    | some (found, walk) =>
      .ok ⟨.rows found, { s with layout := some { layout with rows := walk } }, []⟩

/-- Goes through the assignments. -/
def moveAssignments (s : State) (move : Move) : Except Refusal Outcome :=
  match s.assignments with
  | none => .error .noAssignments
  | some walk =>
    match walk.move? move with
    | none => .error .nothingSaved
    | some (found, walk) => .ok ⟨.assignments found, { s with assignments := some walk }, []⟩

/-- Makes the next assignment the values of the names, if there is one. -/
def adopt (s : State) (walk : Walk Assignment) : Outcome :=
  match walk.current.next? with
  | none => ⟨.assignment none, s, []⟩
  | some (a, after) =>
    ⟨.assignment (some a),
      { s with environment := a, assignments := some { walk with current := after } }, []⟩

/-! ## Requests -/

/-- Gives the names the values of `a`, and shows them all. -/
def setEnvironment (s : State) (a : Assignment) : Outcome :=
  ⟨.environment a, { s with environment := a }, []⟩

/-- Meets a request, or refuses it. -/
def perform (s : State) : Step → Except Refusal Outcome
  | .var name => .ok (push (.var name) s)
  | .const value => .ok (push (.const value) s)
  | .not => withTop s fun top rest => push (.not top) { s with stack := rest }
  | .binary connective =>
    match Connective.ofName? connective with
    | none => .error .unknownConnective
    | some c =>
      withPair s fun left right rest => push (.binary c left right) { s with stack := rest }
  | .parse text => .ok (pushParse (.ofText text) s)
  | .parseWords tokens => .ok (pushParse (.ofWords tokens) s)
  | .reparse => withTop s fun top _ => pushParse (.ofText top.display) s
  | .dup => withTop s fun top _ => push top s
  | .swap =>
    withPair s fun left right rest =>
      ⟨.text left.display, { s with stack := left :: right :: rest }, []⟩
  | .drop => withTop s fun _ rest => ⟨.number rest.length, { s with stack := rest }, []⟩
  | .display => withTop s fun top _ => ⟨.text top.display, s, []⟩
  | .structural => withTop s fun top _ => ⟨.text top.structural, s, []⟩
  | .split => withTop s fun top _ => ⟨.parts top.split?, s, []⟩
  | .names => withTop s fun top _ => ⟨.names top.names, s, []⟩
  | .unfold =>
    withTop s fun top rest =>
      match top.split? with
      | none => ⟨.connective none, s, []⟩
      | some (c, left, right) =>
        ⟨.connective (some c), { s with stack := right :: left :: rest }, []⟩
  | .same => withPair s fun left right _ => ⟨.truth (decide (left = right)), s, []⟩
  | .set name value => .ok (setEnvironment s (s.environment.insert name value))
  | .unset name => .ok (setEnvironment s (s.environment.erase name))
  | .clear => .ok (setEnvironment s ∅)
  | .eval => withTop s fun top _ => ⟨.truth (top.value s.environment), s, []⟩
  | .layOut =>
    withTop s fun top _ =>
      ⟨.layout top.names top.header, { s with layout := some ⟨top, .start top.rows⟩ },
        .columns top.names :: Event.ofRows top⟩
  | .table =>
    withLayout s fun layout => ⟨.text layout.formula.table, s, Event.ofRows layout.formula⟩
  | .verdict =>
    withLayout s fun layout => ⟨.verdict layout.formula.verdict, s, Event.ofRows layout.formula⟩
  | .isTautology =>
    withLayout s fun layout => ⟨.truth layout.formula.isTautology, s, Event.ofRows layout.formula⟩
  | .isContradiction =>
    withLayout s fun layout =>
      ⟨.truth layout.formula.isContradiction, s, Event.ofRows layout.formula⟩
  | .rewind =>
    withLayout s fun layout =>
      ⟨.done,
        { s with
          layout := some { layout with
            rows := { layout.rows with current := layout.formula.rows } } },
        Event.ofRows layout.formula⟩
  | .rows move => moveRows s move
  | .enumerate names =>
    .ok ⟨.rowCount (rowCount? names.length),
      { s with assignments := some (.start (Assignment.enumerate names)) },
      Event.ofEnumeration names.length⟩
  | .assignments move => moveAssignments s move
  | .assignmentAt index =>
    withAssignments s fun walk => ⟨.assignment (some (walk.current.item index)), s, []⟩
  | .adopt => withAssignments s (adopt s)
  | .unknown => .error .unknownStep

/-- The answers to a list of requests, and what was reported on the way. -/
structure Transcript where
  answers : List (Except Refusal Answer)
  events : List Event

/-- Meets requests one after the other. -/
def run (s : State) : List Step → Transcript
  | [] => ⟨[], []⟩
  | step :: rest =>
    match perform s step with
    | .error refusal =>
      let transcript := run s rest
      { transcript with answers := .error refusal :: transcript.answers }
    | .ok outcome =>
      let transcript := run outcome.state rest
      ⟨.ok outcome.answer :: transcript.answers, outcome.events ++ transcript.events⟩

end Propositional.Session
