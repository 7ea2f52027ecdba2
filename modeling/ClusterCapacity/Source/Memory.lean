import ClusterCapacity.Source.Basic

/-!
# A source in memory

A source that answers every query with the workers it holds, or with its failure, and keeps what it
was asked.
-/

namespace ClusterCapacity

/-- The workers of a source in memory, how it fails, and the queries so far, the last one first. -/
structure Memory where
  workers : List Worker := []
  failure : Option SourceError := none
  asked : List Query := []

namespace Memory

/-- Answers a query and takes a note of it. -/
def fetch (query : Query) (memory : Memory) : Except SourceError (List Worker) × Memory :=
  let answer :=
    match memory.failure with
    | some error => .error error
    | none => .ok memory.workers
  (answer, { memory with asked := query :: memory.asked })

end Memory

end ClusterCapacity
