import PassThru.Client

/-!
# Asking for all devices

A client that asks for the devices of a scan goes on until the library fails. Nothing bounds the
number of calls but the library, so what the client answers is told by the calls that it makes, if
they come to an end.

* `Client.Drains`: the calls, one after the other, and what they come to.
* `Client.Drains.drain_eq`: a client whose calls come to an end answers what they come to.
* `Client.drain_congr`: two clients that get the same devices answer the same.
-/

namespace PassThru.Client

variable {w w' : Width} {σ : Type} {c : Client w σ} {c' : Client w' σ} {s s' : σ}
  {answer : Answer (List Device)}

/-- From a state on, a client is told of devices until a call fails: with the code for too many calls
if there are no more devices, and for another reason otherwise, when all of them are dropped. -/
inductive Drains (c : Client w σ) : σ → Answer (List Device) → σ → Prop where
  | failed {s s' : σ} {e : Error} (h : c.ask .getNextDevice s = (.error e, s')) :
    Drains c s (if e.is .exceededLimit then .ok [] else .error e) s'
  | delivered {s s₁ s' : σ} {device : Device} {rest : Answer (List Device)}
      (h : c.ask .getNextDevice s = (.ok device, s₁)) (hrest : Drains c s₁ rest s') :
    Drains c s (rest.map (device :: ·)) s'

/-- The devices that the loop has so far come before those that are still delivered. -/
theorem Drains.repeatM_eq [Nonempty (Answer (List Device) × σ)] (h : c.Drains s answer s')
    (devices : List Device) :
    repeatM c.drainStep (devices, s) = pure (answer.map (devices ++ ·), s') := by
  induction h generalizing devices with
  | @failed s s' e h =>
    rw [repeatM_eq_of_monadTail, repeatM.body, drainStep, h]
    show (if e.is .exceededLimit then Except.ok devices else .error e, s') = (_, s')
    split
    · rw [Except.map, List.append_nil]
    · rfl
  | @delivered s s₁ s' device rest h _ ih =>
    rw [repeatM_eq_of_monadTail, repeatM.body, drainStep, h]
    refine (ih (devices ++ [device])).trans ?_
    cases rest with
    | error e => rfl
    | ok rest => simp [Except.map]

theorem Drains.drain_eq (h : c.Drains s answer s') : c.drain s = (answer, s') := by
  have : Nonempty (Answer (List Device) × σ) := ⟨(answer, s')⟩
  refine (h.repeatM_eq []).trans ?_
  cases answer <;> rfl

theorem drain_congr (h : ∀ s, c.ask .getNextDevice s = c'.ask .getNextDevice s) (s : σ) :
    c.drain s = c'.drain s := by
  have hstep : c.drainStep = c'.drainStep := by
    funext (devices, s)
    rw [drainStep, drainStep, h]
  unfold Client.drain
  rw [hstep]

end PassThru.Client
