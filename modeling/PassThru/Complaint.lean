import PassThru.Error

/-!
# Complaints

What a user of the command line is told about an error: what was being done when it arose, and the
error itself.
-/

namespace PassThru

/-- An error, and what was being done when it arose, the outermost first. -/
structure Complaint where
  doing : List String := []
  cause : Error
  deriving DecidableEq, Repr

def Complaint.message (c : Complaint) : String := ": ".intercalate (c.doing ++ [c.cause.message])

/-- An answer whose error says what was being done. -/
def Answer.during {α : Type} (doing : String) (answer : Answer α) : Except Complaint α :=
  answer.mapError fun cause => { doing := [doing], cause }

/-- An answer whose error speaks for itself. -/
def Answer.plainly {α : Type} (answer : Answer α) : Except Complaint α :=
  answer.mapError fun cause => { cause }

end PassThru
