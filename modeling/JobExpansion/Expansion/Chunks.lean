import JobExpansion.Job.Record

/-!
# Chunks

A job with subtests is replaced by one job for each, numbered from 1 in the symbol.
-/

namespace JobExpansion.Job

/-- The chunk of a job for one subtest. -/
def chunk (symbol : Symbol) (number : Nat) (subtest : String) (j : Job) : Except Failure Job := do
  let c ← j.append Field.testName ("-" ++ subtest)
  let c ← c.append Field.tryName ("-" ++ subtest)
  let c := c.set Field.raptorTest (.text subtest)
  let c := c.setSymbol (symbol.suffixLeaf ("-" ++ toString number))
  c.append Field.description ("-" ++ subtest)

/-- The chunks for the entries of a list of subtests, numbered from some number on. -/
def chunks (symbol : Symbol) (j : Job) : Nat → List Value → Except Failure (List Job)
  | _, [] => .ok []
  | number, .text subtest :: subtests => do
    let first ← j.chunk symbol number subtest
    return first :: (← chunks symbol j (number + 1) subtests)
  | _, v :: _ => .error (j.failure Field.raptorSubtests (.subtestNotString v))

/-- The chunks of a job, or the job itself if it has no subtests. -/
def splitSubtests (j : Job) : Except Failure (List Job) := do
  let rest := j.erase Field.raptorSubtests
  match j.get? Field.raptorSubtests with
  | none | some .null | some (.list []) => return [rest]
  | some (.list subtests) => rest.chunks (← rest.symbol) 1 subtests
  | some v => throw (rest.failure Field.raptorSubtests (.subtestsNotList v))

end JobExpansion.Job
