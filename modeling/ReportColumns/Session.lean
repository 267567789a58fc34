import ReportColumns.Element.Edit
/-!
Sessions: elements in named slots over catalogs that change beneath them.

A step makes, copies, edits or questions one element, or changes one entry of one catalog. A step about
a slot or a catalog that is not there does nothing.
-/

namespace ReportColumns

structure Session where
  catalogs : CatalogStore
  slots : List (String × Element)
  deriving DecidableEq, Repr

inductive SessionStep where
  | blank (slot : String)
  | create (slot id : String)
  | forColumn (slot id : String) (source : CatalogSource) (columnId : String)
  | clone (slot original : String)
  | edit (slot : String) (edit : Edit)
  | ask (slot : String) (query : Query)
  | insertEntry (catalog : String) (entry : CatalogEntry)
  | removeEntry (catalog columnId : String)
  deriving DecidableEq, Repr

namespace Session

def start (catalogs : CatalogStore) : Session := ⟨catalogs, []⟩

def element? (session : Session) (slot : String) : Option Element := session.slots.lookup slot

def put (session : Session) (slot : String) (e : Element) : Session :=
  { session with slots := (slot, e) :: session.slots.filter (·.1 != slot) }

def ask (session : Session) (slot : String) (query : Query) :
    Logged (Option query.Answer × Session) :=
  match session.element? slot with
  | none => pure (none, session)
  | some e => do
    let (answer, e) ← query.ask session.catalogs e
    return (some answer, session.put slot e)

def step (session : Session) : SessionStep → Logged Session
  | .blank slot => pure (session.put slot .blank)
  | .create slot id => pure (session.put slot (.create id))
  | .forColumn slot id source columnId => do
    let e ← Element.forColumn session.catalogs id source columnId
    return session.put slot e
  | .clone slot original =>
    match session.element? original with
    | none => pure session
    | some e => pure (session.put slot e)
  | .edit slot edit =>
    match session.element? slot with
    | none => pure session
    | some e => do
      let e ← e.apply session.catalogs edit
      return session.put slot e
  | .ask slot query => do
    let (_, session) ← session.ask slot query
    return session
  | .insertEntry catalog entry =>
    pure { session with catalogs := session.catalogs.update catalog (·.insert entry) }
  | .removeEntry catalog columnId =>
    pure { session with catalogs := session.catalogs.update catalog (·.remove columnId) }

def run : Session → List SessionStep → Logged Session
  | session, [] => pure session
  | session, first :: rest => do
    let session ← session.step first
    session.run rest

end Session

end ReportColumns
