import GuestNet.Overlap.Stage

/-! A driver on which calls overlap. A call moves on in steps, each of which is done at once; which
call moves next is open. A connection that is let go of stays in its cell. -/
namespace GuestNet.Overlap

structure Machine (W C : Type) where
  setup : Setup W C
  table : HandleTable CellId
  /-- All that were ever made, the first one first. -/
  cells : Array (Cell C)
  /-- All that were ever begun, the first one first. -/
  calls : Array (Stage W C)
  world : W

namespace Machine

variable {W C : Type}

def new (config : Config) (backends : List (Backend W C)) (world : W) : Machine W C where
  setup := .new config backends
  table := .new config.maxHandles
  cells := #[]
  calls := #[]
  world := world

/-- Puts a call to another stage. -/
def put (m : Machine W C) (id : CallId) (stage : Stage W C) : Machine W C :=
  { m with calls := m.calls.setIfInBounds id stage }

def finish (m : Machine W C) (id : CallId) (outcome : Outcome) : Machine W C :=
  m.put id (.finished outcome)

def changeCell (m : Machine W C) (cell : CellId) (f : Cell C → Cell C) : Machine W C :=
  { m with cells := m.cells.modify cell f }

def setPhase (m : Machine W C) (cell : CellId) (phase : Phase) : Machine W C :=
  m.changeCell cell fun c => { c with phase := phase }

/-- The call goes to the end of the line. -/
def enter (m : Machine W C) (cell : CellId) (id : CallId) : Machine W C :=
  m.changeCell cell fun c => { c with line := c.line ++ [id] }

/-- The call that has the cell goes, and the next one has it. -/
def leave (m : Machine W C) (cell : CellId) : Machine W C :=
  m.changeCell cell fun c => { c with line := c.line.tail }

/-- Adds a call, which has not done anything. -/
def begin (m : Machine W C) (call : Call) : Machine W C :=
  { m with calls := m.calls.push (.asked call) }

/-- Looks a handle up. -/
def find (m : Machine W C) (id : CallId) (h : Handle) (task : Task) : Machine W C :=
  match m.table.lookup h with
  | .error e => m.finish id (.error e)
  | .ok cell => m.put id (.found cell task)

def ask (m : Machine W C) (id : CallId) : Call → Machine W C
  | .openTarget target options =>
    match m.setup.backendFor m.table target with
    | .error e => m.finish id (.error e)
    | .ok (target, backend) => m.put id (.connecting target options backend)
  | .perform h op => m.find id h (.perform h op)
  | .close h => m.find id h (.close h)
  | .closeAll =>
    let (entries, table) := m.table.drain
    { m with table := table }.put id (.closeNext (entries.map Prod.snd))
  | .isOpen h => m.finish id (.ok (.flag (m.table.contains h)))

def connect (m : Machine W C) (id : CallId) (target : Target) (options : String)
    (backend : Backend W C) : Machine W C :=
  match backend.connect target options m.setup.config m.world with
  | (.error e, world) => { m with world := world }.finish id (.error e)
  | (.ok c, world) => { m with world := world }.put id (.connected c)

/-- What a call does when its turn at a cell has come. -/
def serve (m : Machine W C) (id : CallId) (cell : CellId) (phase : Phase) : Task → Machine W C
  | .perform h op =>
    if phase = .bound then m.put id (.performing cell op)
    else (m.leave cell).finish id (.error (.badHandle h))
  | .close h =>
    if phase = .bound then (m.setPhase cell .taken).put id (.taken cell h)
    else (m.leave cell).finish id (.error (.badHandle h))
  | .closeEach rest =>
    if phase = .bound then (m.setPhase cell .taken).put id (.closing cell rest)
    else (m.leave cell).put id (.closeNext rest)

/-- The connection goes with its call where the table no longer has the handle. -/
def release (m : Machine W C) (id : CallId) (cell : CellId) (h : Handle) : Machine W C :=
  match m.table.release h with
  | .error e => ((m.setPhase cell .released).leave cell).finish id (.error e)
  | .ok (_, table) => { m with table := table }.put id (.closing cell [])

variable [Connection C]

/-- Issues a handle for a connection, which gets a cell in any case. -/
def bind (m : Machine W C) (id : CallId) (c : C) : Machine W C :=
  let cell (phase : Phase) : Cell C := ⟨.ofConnection c, phase, []⟩
  match m.table.allocate m.cells.size with
  | .error e => { m with cells := m.cells.push (cell .released) }.finish id (.error e)
  | .ok (h, table) =>
    { m with cells := m.cells.push (cell .bound), table := table }.finish id (.ok (.handle h))

def perform (m : Machine W C) (id : CallId) (cell : CellId) (c : Cell C) (op : Operation) :
    Machine W C :=
  let (outcome, slot) := c.slot.perform m.setup.config.maxTransfer op
  ((m.changeCell cell fun c => { c with slot := slot }).leave cell).finish id outcome

/-- That a connection fails to close does not matter. -/
def close (m : Machine W C) (id : CallId) (cell : CellId) (c : Cell C) (rest : List CellId) :
    Machine W C :=
  let connection := (Connection.close c.slot.connection).2
  let m := m.changeCell cell fun c =>
    { c with slot := { c.slot with connection := connection }, phase := .released }
  (m.leave cell).put id (.closeNext rest)

/-- The next step of a call at a stage. A call in a line waits until it is the first there, and a
call that has finished takes no step. -/
def advance (m : Machine W C) (id : CallId) : Stage W C → Option (Machine W C)
  | .asked call => some (m.ask id call)
  | .connecting target options backend => some (m.connect id target options backend)
  | .connected c => some (m.bind id c)
  | .found cell task => some ((m.enter cell id).put id (.waiting cell task))
  | .waiting cell task =>
    match m.cells[cell]? with
    | none => none
    | some c => if c.line.head? = some id then some (m.serve id cell c.phase task) else none
  | .performing cell op => m.cells[cell]?.map fun c => m.perform id cell c op
  | .taken cell h => some (m.release id cell h)
  | .closing cell rest => m.cells[cell]?.map fun c => m.close id cell c rest
  | .finished _ => none

/-- The next step of a call, if it can take one. -/
def step (m : Machine W C) (id : CallId) : Option (Machine W C) :=
  m.calls[id]?.bind fun stage => m.advance id stage

end Machine

/-- What can come of a driver without calls, when calls begin at any time and take their steps in
any order. -/
inductive Reachable {W C : Type} [Connection C] (config : Config) (backends : List (Backend W C))
    (world : W) : Machine W C → Prop where
  | new : Reachable config backends world (.new config backends world)
  | begin {m : Machine W C} (call : Call) :
      Reachable config backends world m → Reachable config backends world (m.begin call)
  | step {m m' : Machine W C} (id : CallId) :
      Reachable config backends world m → m.step id = some m' →
        Reachable config backends world m'
  /-- Which of several connections is closed first is open. -/
  | reorder {m : Machine W C} (id : CallId) {cells cells' : List CellId} :
      Reachable config backends world m → m.calls[id]? = some (.closeNext cells) →
        cells.Perm cells' → Reachable config backends world (m.put id (.closeNext cells'))

end GuestNet.Overlap
