import PromptTemplate.Compile.Report
/-!
# PromptTemplate — sessions

Compilers and loaders with policies of their own can share one shelf of
schemas. A session is a list of actions on it: each gives a reply, unless it
breaks off, and all that one action leaves to the next is the shelf.
`replies_append` says that a session can be cut anywhere.
-/

namespace PromptTemplate

/-- What can be done with a shelf. -/
inductive Action
  /-- Load a schema. -/
  | load (p : Policy) (base : Option String) (address : String)
  /-- Load schemas up to the first that cannot be had. -/
  | loadAll (p : Policy) (base : Option String) (addresses : List String)
  /-- Compile a document. -/
  | compile (p : Policy) (base : Option String) (doc : Value) (supplied : Option (Table Value))
  /-- Report on a document. -/
  | validate (p : Policy) (base : Option String) (doc : Value)
  /-- Look an address up in the cache. -/
  | lookUp (url : String)
  /-- Keep a body in the cache, under an address. -/
  | store (url : String) (body : Value)
  /-- Drop all that the cache holds. -/
  | clear
  /-- Let milliseconds pass. -/
  | wait (span : Int)
  /-- Set the clock. -/
  | setClock (now : Int)

/-- What an action gives. -/
inductive Reply
  | loaded (outcome : Except Fault Schema)
  | loadedAll (outcome : Except Fault (List Schema))
  | compiled (outcome : Except Fault Compiled)
  | report (r : Report)
  | found (s : Option Schema)
  | stored (outcome : Except Fault Unit)
  | done

namespace Session

/-- Keeps a body in the cache, if it is a schema. -/
def store (url : String) (body : Value) (shelf : Schema.Shelf) :
    Except Fault Unit × Schema.Shelf :=
  match Schema.ofBody url body with
  | .error defect => (.error (.schema url defect.message), shelf)
  | .ok s => (.ok (), shelf.keep url s)

/-- Does one action. The reply is given if the action does not break off. -/
def perform (source : Schema.Source) (shelf : Schema.Shelf) : Action → Reply × Schema.Shelf
  | .load p base address => (Schema.load p source base address shelf).map .loaded id
  | .loadAll p base addresses => (Schema.loadAll p source base addresses shelf).map .loadedAll id
  | .compile p base doc supplied =>
    (Compile.compile p source base doc supplied shelf).map .compiled id
  | .validate p base doc => (Compile.validate p source base doc shelf).map .report id
  | .lookUp url =>
    let (s, cache) := shelf.cache.find shelf.now url
    (.found s, { shelf with cache := cache })
  | .store url body => (store url body shelf).map .stored id
  | .clear => (.done, { shelf with cache := shelf.cache.clear })
  | .wait span => (.done, shelf.setClock (shelf.now + span))
  | .setClock now => (.done, shelf.setClock now)

/-- The shelf after actions. -/
def after (source : Schema.Source) (shelf : Schema.Shelf) (actions : List Action) :
    Schema.Shelf :=
  actions.foldl (fun s a => (perform source s a).2) shelf

/-- The replies to actions. -/
def replies (source : Schema.Source) : Schema.Shelf → List Action → List Reply
  | _, [] => []
  | shelf, a :: rest =>
    let (reply, shelf) := perform source shelf a
    reply :: replies source shelf rest

/-- A session can be cut anywhere. -/
theorem after_append (source : Schema.Source) (shelf : Schema.Shelf) (first second : List Action) :
    after source shelf (first ++ second) = after source (after source shelf first) second := by
  simp [after]

/-- The replies to a session that is cut are those to its parts. -/
theorem replies_append (source : Schema.Source) (shelf : Schema.Shelf)
    (first second : List Action) :
    replies source shelf (first ++ second) =
      replies source shelf first ++ replies source (after source shelf first) second := by
  induction first generalizing shelf with
  | nil => rfl
  | cons a rest ih => simp [replies, after, ih]

end Session

end PromptTemplate
