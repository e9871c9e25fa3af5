import SearchStore.Repository.Basic

/-!
Reading and writing documents one by one.
-/

namespace SearchStore

def encodeDocument {δ : Type} [Document δ] (document : δ) : Except RepositoryError Json :=
  (Document.encode document).mapError .serialization

def decodeDocument {δ : Type} (decode : Json → Except String δ) (json : Json) :
    Except RepositoryError δ :=
  (decode json).mapError .serialization

def sourceOf (hit : Json) : Json := (hit.get? "_source").getD .null

namespace Repository

variable {σ δ : Type}

def documentExists (repo : Repository σ) (id : String) : Action σ Bool :=
  repo.call (.documentExists (repo.ref id))

/-- The document with an id, if there is one. An answer that says nothing was
found counts as absence. -/
def get [Document δ] (repo : Repository σ) (id : String) : Action σ (Option δ) := do
  match ← repo.call (.getDocument (repo.ref id)) with
  | none => return none
  | some hit =>
    if (hit.get? "found").bind Json.asBool? = some false then return none
    else return some (← ofExcept (decodeDocument Document.decode (sourceOf hit)))

def insert [Document δ] (repo : Repository σ) (document : δ) : Action σ Unit := do
  let content ← ofExcept (encodeDocument document)
  repo.call (.indexDocument (repo.ref (Document.id document)) content)

/-- Merges a document into the stored one, in another index than the
repository's if one is given. -/
def update [Document δ] (repo : Repository σ) (id : String) (document : δ)
    (index : Option String) : Action σ Unit := do
  let part ← ofExcept (encodeDocument document)
  repo.call (.updateDocument { repo.ref id with index := index.getD repo.index } part)

def updatePartial (repo : Repository σ) (id : String) (part : Json) : Action σ Unit :=
  repo.call (.updateDocument (repo.ref id) part)

/-- Deletes a document. One that is absent is left alone. -/
def delete (repo : Repository σ) (id : String) : Action σ Unit := do
  if ← repo.documentExists id then repo.call (.deleteDocument (repo.ref id))

end Repository

end SearchStore
