import PerlSymbols.Document

/-!
# The index of documents

The index maps URIs to documents. A signal exists for a URI only while someone waits for it.
Publishing takes the signal away and wakes its waiters; otherwise the last waiter to leave takes
it away, so a URI that is never published leaves nothing behind.
-/

namespace PerlSymbols

structure Index where
  docs : Entries String Document := []
  /-- The signal that waiters of a URI wait for. -/
  ready : Entries String Nat := []
  /-- How many wait for a URI. -/
  waiting : Entries String Nat := []
  /-- The number of the next new signal. -/
  fresh : Nat := 0

namespace Index

def ofDocuments (docs : List Document) : Index where
  docs := Entries.ofList (docs.map fun doc => (doc.uri, doc))

def get? (index : Index) (uri : String) : Option Document :=
  index.docs.get? uri

/-- The indexed URIs, in order of their first publication. -/
def uris (index : Index) : List String :=
  index.docs.keys

/-- Installs or replaces a document. Gives the signal whose waiters are to be woken. -/
def publish (index : Index) (doc : Document) : Index × Option Nat :=
  ({ index with docs := index.docs.put doc.uri doc, ready := index.ready.erase doc.uri },
    index.ready.get? doc.uri)

def discard (index : Index) (uri : String) : Index :=
  { index with docs := index.docs.erase uri }

def waitingFor (index : Index) (uri : String) : Nat :=
  (index.waiting.get? uri).getD 0

/-- A waiter comes: it shares the signal of its URI, or brings a new one. -/
def enter (index : Index) (uri : String) : Index × Nat :=
  let counted := { index with waiting := index.waiting.put uri (index.waitingFor uri + 1) }
  match index.ready.get? uri with
  | some signal => (counted, signal)
  | none =>
    ({ counted with ready := index.ready.put uri index.fresh, fresh := index.fresh + 1 },
      index.fresh)

/-- A waiter leaves. The last one takes its own signal away, but not one that came later. -/
def leave (index : Index) (uri : String) (signal : Nat) : Index :=
  let left := index.waitingFor uri - 1
  if left = 0 then
    { index with
      waiting := index.waiting.erase uri
      ready := if index.ready.get? uri = some signal then index.ready.erase uri else index.ready }
  else { index with waiting := index.waiting.put uri left }

end Index

end PerlSymbols
