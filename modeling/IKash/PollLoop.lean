import IKash.Lib.Machine
import IKash.Listener

/-!
# The polling loop of the listener

`startListening`, `stopListening`, `scheduleNextPoll` and `pollEventsWithRecovery` of one `StellarListenerService`
instance, with the timeouts of the event loop. A timeout that was set may fire at any time, and a poll that began may
settle at any time, with a result or an error.

`stopListening` clears the timeout it knows, and cannot stop a poll that has begun. So a restart that overtakes a poll
leaves two loops.

- `alive_run`: a listener that listens always has a timeout set or a poll begun, whatever its polls throw;
- `one_loop_iff`: there is never more than one loop, exactly if no restart overtakes a poll;
- `quiet_run`: after a stop without a restart nothing begins and nothing is set.
-/

namespace IKash

open Lib

/-- What an instance and the event loop hold; a timeout is its number, and a poll that of its timeout. -/
structure PollLoop where
  isListening : Bool := false
  timer : Option ℕ := none
  armed : List ℕ := []
  polling : List ℕ := []
  nextTimer : ℕ := 0
deriving DecidableEq, Repr

inductive LoopOp where
  | startListening
  | stopListening
  /-- the timeout fires -/
  | fire (t : ℕ)
  /-- `fetchAndProcessNewEvents` settles -/
  | settle (t : ℕ) (outcome : Except Thrown ℕ)

namespace PollLoop

/-- The delay is left out. -/
def scheduleNextPoll (s : PollLoop) : PollLoop :=
  if s.isListening then
    { s with timer := some s.nextTimer, armed := s.nextTimer :: s.armed, nextTimer := s.nextTimer + 1 }
  else s

def startListening (s : PollLoop) : PollLoop :=
  if s.isListening then s else scheduleNextPoll { s with isListening := true }

/-- `clearTimeout` of a timeout that has fired does nothing. -/
def stopListening (s : PollLoop) : PollLoop :=
  { s with isListening := false, timer := none, armed := s.timer.elim s.armed s.armed.erase }

/-- The first half of `pollEventsWithRecovery`. -/
def pollEvents (t : ℕ) (s : PollLoop) : PollLoop := if s.isListening then { s with polling := t :: s.polling } else s

/-- The `finally` of `pollEventsWithRecovery`; the outcome is only logged. -/
def settled (t : ℕ) (_outcome : Except Thrown ℕ) (s : PollLoop) : PollLoop :=
  scheduleNextPoll { s with polling := s.polling.erase t }

/-- A timeout that is not set does not fire, and a poll that did not begin does not settle. -/
def step (s : PollLoop) : LoopOp → PollLoop
  | .startListening => s.startListening
  | .stopListening => s.stopListening
  | .fire t => if t ∈ s.armed then pollEvents t { s with armed := s.armed.erase t } else s
  | .settle t outcome => if t ∈ s.polling then settled t outcome s else s

/-- The polls that will be: the timeouts that are set and the polls that have begun. -/
def loops (s : PollLoop) : ℕ := s.armed.length + s.polling.length

end PollLoop

open PollLoop

def pollLoop : Machine PollLoop LoopOp Unit where
  step s op := ((), s.step op)

/-- A restart does not overtake a poll. -/
def WaitsForPoll (s : PollLoop) : LoopOp → Prop
  | .startListening => s.isListening = false → s.polling = []
  | _ => True

instance (s : PollLoop) : ∀ op, Decidable (WaitsForPoll s op)
  | .startListening => inferInstanceAs (Decidable (_ → _))
  | .stopListening => isTrue trivial
  | .fire _ => isTrue trivial
  | .settle _ _ => isTrue trivial

variable {s : PollLoop} {op : LoopOp}

/-! ## The listener does not die -/

/-- Who listens has a loop. -/
def Alive (s : PollLoop) : Prop := s.isListening = true → 1 ≤ s.loops

theorem scheduleNextPoll_alive (s : PollLoop) : Alive s.scheduleNextPoll := by
  unfold Alive scheduleNextPoll
  split
  · intro _
    simp only [loops, List.length_cons]
    omega
  · rename_i hstopped
    exact fun h => absurd h hstopped

theorem step_alive (h : Alive s) : Alive (s.step op) := by
  cases op with
  | startListening =>
    simp only [step, startListening]
    split
    · exact h
    · exact scheduleNextPoll_alive _
  | stopListening => exact fun hlistens => absurd hlistens Bool.false_ne_true
  | fire t =>
    simp only [step]
    split
    · unfold pollEvents
      split
      · intro _
        simp only [loops, List.length_cons]
        omega
      · rename_i hstopped
        exact fun hlistens => absurd hlistens hstopped
    · exact h
  | settle t outcome =>
    simp only [step]
    split
    · exact scheduleNextPoll_alive _
    · exact h

theorem alive_run (ops : List LoopOp) : Alive (pollLoop.run {} ops) := by
  refine Machine.run_inv (C := fun _ _ => True) (fun s op h _ => step_alive h) ?_ (Machine.along_of_forall fun _ _ _ => trivial)
  exact fun h => absurd h (by decide)

/-! ## One loop -/

/-- The only timeout that is set is the one that the instance knows, and there is none when it does not listen. -/
structure OneLoop (s : PollLoop) : Prop where
  loops : s.loops ≤ 1
  known : ∀ t ∈ s.armed, s.timer = some t
  stopped : s.isListening = false → s.armed = []

theorem OneLoop.fresh : OneLoop {} := ⟨by decide, fun _ h => (List.not_mem_nil h).elim, fun _ => rfl⟩

/-- Where there is no loop, one may be set up. -/
theorem OneLoop.schedule (harmed : s.armed = []) (hpolling : s.isListening = true → s.polling = [])
    (hloops : s.loops ≤ 1) : OneLoop s.scheduleNextPoll := by
  unfold scheduleNextPoll
  split
  · rename_i hlistens
    refine ⟨?_, fun t ht => ?_, fun h => ?_⟩
    · simp only [PollLoop.loops, harmed, hpolling hlistens, List.length_cons, List.length_nil]
      omega
    · rw [harmed, List.mem_singleton] at ht
      rw [ht]
    · rw [hlistens] at h
      cases h
  · refine ⟨hloops, fun t ht => ?_, fun _ => harmed⟩
    rw [harmed] at ht
    cases ht

theorem OneLoop.start (h : OneLoop s) (hwaits : s.isListening = false → s.polling = []) : OneLoop s.startListening := by
  unfold startListening
  split
  · exact h
  · rename_i hstopped
    have hstopped : s.isListening = false := Bool.eq_false_iff.mpr hstopped
    exact OneLoop.schedule (h.stopped hstopped) (fun _ => hwaits hstopped) h.loops

/-- A stop clears the timeout that is set. -/
theorem OneLoop.stop (h : OneLoop s) : OneLoop s.stopListening := by
  have harmed : s.stopListening.armed = [] := by
    show s.timer.elim s.armed s.armed.erase = []
    cases ha : s.armed with
    | nil => cases s.timer <;> rfl
    | cons t rest =>
      have hrest : rest = [] := by
        have hloops := h.loops
        simp only [PollLoop.loops, ha, List.length_cons] at hloops
        exact List.eq_nil_of_length_eq_zero (by omega)
      have hknown : s.timer = some t := h.known t (by rw [ha]; exact List.mem_cons_self)
      rw [hknown, hrest]
      simp
  refine ⟨?_, fun t ht => ?_, fun _ => harmed⟩
  · have hloops := h.loops
    unfold PollLoop.loops at hloops ⊢
    rw [harmed, List.length_nil]
    show 0 + s.polling.length ≤ 1
    omega
  · rw [harmed] at ht
    cases ht

/-- A timeout that fires becomes a poll. -/
theorem OneLoop.fire {t : ℕ} (h : OneLoop s) (ht : t ∈ s.armed) :
    OneLoop (pollEvents t { s with armed := s.armed.erase t }) := by
  have hlength := List.length_erase_of_mem ht
  have hpos := List.length_pos_of_mem ht
  have hloops := h.loops
  unfold PollLoop.loops at hloops
  have harmed : s.armed.erase t = [] := List.eq_nil_of_length_eq_zero (by omega)
  unfold pollEvents
  split
  · refine ⟨?_, fun x hx => ?_, fun _ => harmed⟩
    · simp only [PollLoop.loops, harmed, List.length_cons, List.length_nil]
      omega
    · have hx : x ∈ s.armed.erase t := hx
      rw [harmed] at hx
      cases hx
  · refine ⟨?_, fun x hx => ?_, fun _ => harmed⟩
    · simp only [PollLoop.loops, harmed, List.length_nil]
      omega
    · have hx : x ∈ s.armed.erase t := hx
      rw [harmed] at hx
      cases hx

/-- A poll that settles becomes a timeout. -/
theorem OneLoop.settle {t : ℕ} (outcome : Except Thrown ℕ) (h : OneLoop s) (ht : t ∈ s.polling) :
    OneLoop (settled t outcome s) := by
  have hlength := List.length_erase_of_mem ht
  have hpos := List.length_pos_of_mem ht
  have hloops := h.loops
  unfold PollLoop.loops at hloops
  have harmed : s.armed = [] := List.eq_nil_of_length_eq_zero (by omega)
  have hpolling : s.polling.erase t = [] := List.eq_nil_of_length_eq_zero (by omega)
  refine OneLoop.schedule harmed (fun _ => hpolling) ?_
  simp only [PollLoop.loops, harmed, hpolling, List.length_nil]
  omega

theorem OneLoop.step (h : OneLoop s) (hwaits : WaitsForPoll s op) : OneLoop (s.step op) := by
  cases op with
  | startListening => exact h.start hwaits
  | stopListening => exact h.stop
  | fire t =>
    simp only [PollLoop.step]
    split
    · rename_i ht
      exact h.fire ht
    · exact h
  | settle t outcome =>
    simp only [PollLoop.step]
    split
    · rename_i ht
      exact h.settle outcome ht
    · exact h

/-- A restart that overtakes a poll leaves two loops. -/
theorem two_loops (h : ¬ WaitsForPoll s op) : 2 ≤ (s.step op).loops := by
  cases op with
  | startListening =>
    simp only [WaitsForPoll, Classical.not_imp] at h
    obtain ⟨hstopped, hpolling⟩ := h
    have hpos := List.length_pos_iff.mpr hpolling
    have hstep : s.step .startListening = scheduleNextPoll { s with isListening := true } := by
      rw [PollLoop.step, startListening, if_neg (by rw [hstopped]; decide)]
    rw [hstep, scheduleNextPoll, if_pos rfl]
    simp only [PollLoop.loops, List.length_cons]
    omega
  | stopListening | fire | settle => exact absurd trivial h

/-- **One loop.** There is never more than one loop, exactly if no restart overtakes a poll. -/
theorem one_loop_iff (ops : List LoopOp) : (∀ pre, pre <+: ops → (pollLoop.run {} pre).loops ≤ 1) ↔
    pollLoop.Along WaitsForPoll {} ops := by
  constructor
  · intro h
    rw [Machine.along_iff]
    intro pre op post he
    by_contra hovertakes
    have htwo := two_loops hovertakes
    have hone := h (pre ++ [op]) ⟨post, by rw [he]; simp⟩
    rw [Machine.run_concat] at hone
    exact absurd (htwo.trans hone) (by decide)
  · rintro h pre ⟨post, rfl⟩
    rw [Machine.along_append] at h
    exact (Machine.run_inv (M := pollLoop) (I := OneLoop) (fun _ _ hs hw => hs.step hw) OneLoop.fresh h.1).loops

/-! ## After a stop -/

/-- Nothing begins and nothing is set. -/
structure Quiet (s s' : PollLoop) : Prop where
  stopped : s'.isListening = false
  armed : List.Sublist s'.armed s.armed
  polling : List.Sublist s'.polling s.polling

theorem quiet_stop (s : PollLoop) : Quiet s s.stopListening := by
  refine ⟨rfl, ?_, List.Sublist.refl _⟩
  show List.Sublist (s.timer.elim s.armed s.armed.erase) s.armed
  cases s.timer with
  | none => exact List.Sublist.refl _
  | some t => exact List.erase_sublist

theorem quiet_step (hstopped : s.isListening = false) (hop : op ≠ .startListening) : Quiet s (s.step op) := by
  cases op with
  | startListening => exact absurd rfl hop
  | stopListening => exact quiet_stop s
  | fire t =>
    simp only [PollLoop.step]
    split
    · rw [pollEvents, if_neg (by rw [hstopped]; decide)]
      exact ⟨hstopped, List.erase_sublist, List.Sublist.refl _⟩
    · exact ⟨hstopped, List.Sublist.refl _, List.Sublist.refl _⟩
  | settle t outcome =>
    simp only [PollLoop.step]
    split
    · rw [settled, scheduleNextPoll, if_neg (by rw [hstopped]; decide)]
      exact ⟨hstopped, List.Sublist.refl _, List.erase_sublist⟩
    · exact ⟨hstopped, List.Sublist.refl _, List.Sublist.refl _⟩

/-- By induction on the run after the stop. -/
theorem quiet_run {ops : List LoopOp} (hstopped : s.isListening = false) (hops : .startListening ∉ ops) :
    Quiet s (pollLoop.run s ops) := by
  induction ops generalizing s with
  | nil => exact ⟨hstopped, List.Sublist.refl _, List.Sublist.refl _⟩
  | cons op rest ih =>
    rw [List.mem_cons, not_or] at hops
    have hstep : Quiet s (pollLoop.next s op) := quiet_step hstopped (Ne.symm hops.1)
    have hrest := ih hstep.stopped hops.2
    exact ⟨hrest.stopped, hrest.armed.trans hstep.armed, hrest.polling.trans hstep.polling⟩

/-- What holds of every run of a new instance. -/
structure PollLoopLaws (ops : List LoopOp) : Prop where
  /-- a listener that listens goes on -/
  alive : ∀ pre, pre <+: ops → Alive (pollLoop.run {} pre)
  one : (∀ pre, pre <+: ops → (pollLoop.run {} pre).loops ≤ 1) ↔ pollLoop.Along WaitsForPoll {} ops
  /-- no poll begins after a stop, until the next start -/
  quiet : ∀ pre post, ops = pre ++ .stopListening :: post → .startListening ∉ post →
    Quiet (pollLoop.run {} pre) (pollLoop.run {} ops)

/-- **The polling loop**, in every run. -/
theorem poll_loop_laws (ops : List LoopOp) : PollLoopLaws ops where
  alive pre _ := alive_run pre
  one := one_loop_iff ops
  quiet := by
    rintro pre post rfl hpost
    rw [Machine.run_append, Machine.run_cons]
    have hstop : Quiet (pollLoop.run {} pre) (pollLoop.next (pollLoop.run {} pre) .stopListening) :=
      quiet_stop (pollLoop.run {} pre)
    have hrest := quiet_run hstop.stopped hpost
    exact ⟨hrest.stopped, hrest.armed.trans hstop.armed, hrest.polling.trans hstop.polling⟩

/-- A restart during the first poll leaves two timeouts. -/
example : (pollLoop.run {} [.startListening, .fire 0, .stopListening, .startListening, .settle 0 (.ok 0)]).armed = [2, 1] := by
  decide

end IKash
