import PassThru.Standard.Coded

/-!
# Filter and select kinds
-/

namespace PassThru

/-- What a message filter does with the messages it matches. -/
inductive FilterType where
  /-- Let them into the receive queue. -/
  | pass
  /-- Keep them out of the receive queue. -/
  | block
  deriving DecidableEq, Repr

instance : Coded FilterType where
  all := [.pass, .block]
  code
    | .pass => 1
    | .block => 2
  name
    | .pass => "Pass"
    | .block => "Block"

/-- What a select waits for. -/
inductive SelectType where
  /-- A message in the receive queue. -/
  | readable
  deriving DecidableEq, Repr

instance : Coded SelectType where
  all := [.readable]
  code
    | .readable => 1
  name
    | .readable => "Readable"

end PassThru
