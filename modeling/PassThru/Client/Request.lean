import PassThru.Driver

/-!
# Requests

What a client asks of a driver is a `Request`: either it is settled without any call, or it is one
call with a rule that makes an answer of the reply.

* `Request.perform` puts a request to a driver.
* `Request.afterSuccess` is the rule of nearly every call: a status that reports a failure is the
  answer, and the memory is looked at only after success.
-/

namespace PassThru

/-- A question to a driver. -/
inductive Request (w : Width) (α : Type) where
  /-- The answer is known without a call. -/
  | settled (answer : Answer α)
  /-- One call, and what its reply means. -/
  | ask (call : Call w) (finish : Reply call → Answer α)

namespace Request

variable {w : Width} {σ α β : Type}

/-- Put a request to a driver. -/
def perform (driver : Driver w σ) : Request w α → σ → Answer α × σ
  | settled answer, state => (answer, state)
  | ask call finish, state =>
    let (reply, state) := driver call state
    (finish reply, state)

/-- A request whose arguments may turn out to be unfit; then nothing is called. -/
def prepared : Answer (Request w α) → Request w α
  | .ok request => request
  | .error e => settled (.error e)

/-- A call whose memory is read after success only. -/
def afterSuccess (call : Call w) (read : call.Memory → Answer α) : Request w α :=
  ask call fun reply => do
    ErrorCode.check reply.status
    read reply.memory

/-- A request with its answer read further. -/
def andThen (f : α → Answer β) : Request w α → Request w β
  | settled answer => settled (answer >>= f)
  | ask call finish => ask call fun reply => finish reply >>= f

end Request

/-- The number that a library wrote for the output `field`. -/
def readOutput {w : Width} (field : String) (output : Option (Word w)) : Answer UInt32 :=
  (output.getD .zero).read field

end PassThru
