import Mathlib.Data.List.Induction
import RunMeter.Proofs.Runner.Measure

/-!
# RunMeter.Proofs.Runner.Waiting — the wait as a race between the child and interrupts

The runner waits for whichever comes first, the child's end or an interrupt.  An interrupt drops the wait for the
child half done, and a new one is made in its place.  So a wait is a run of single steps, with interrupts before and
after the child has come to its end, and with either order when both are there (`Step`, `Run`).  What a dropped wait
does to the child is not known here; it is only taken to lose nothing (`Keeps`).

* `inv_of_run`: until the wait returns, nobody has taken the child's result.
* `exists_complete`: a wait for a child that has ended can return.
* `Run.quiet`: a run is matched, step by step, by one that is never interrupted.
* `await_of_run`, `exists_run`: the runs that return, without a failure of the listener, are what `await` computes.
-/

namespace RunMeter.Runner

/-- Whether an effect is the warning of an interrupt. -/
def isWarning : Effect → Bool
  | .log event => event = interrupted
  | _ => false

/-- Some effects without the warnings of interrupts. -/
def quiet (effects : List Effect) : List Effect :=
  effects.filter fun e => !isWarning e

theorem quiet_append (a b : List Effect) : quiet (a ++ b) = quiet a ++ quiet b :=
  List.filter_append a b

theorem quiet_cons {e : Effect} (h : isWarning e = false) (es : List Effect) : quiet (e :: es) = e :: quiet es :=
  List.filter_cons_of_pos (by rw [h]; rfl)

theorem quiet_cons_warning (es : List Effect) : quiet (.log interrupted :: es) = quiet es :=
  List.filter_cons_of_neg (by decide)

theorem isWarning_of_ne {event : Log.Event} (h : event ≠ interrupted) : isWarning (.log event) = false :=
  decide_eq_false h

namespace Waiting

/-- How far the child is. -/
inductive Child where
  | running
  /-- It has ended, and nobody has taken the result. -/
  | ended (result : Except IoError WaitStatus)
  /-- Its result was taken. -/
  | reaped

/-- Where the runner is. -/
inductive Place where
  /-- It waits for the child and for interrupts. -/
  | racing
  /-- It waits for the child alone. -/
  | deaf
  /-- The wait is over. -/
  | returned (result : Except RunError WaitStatus)

/-- Whether the wait goes on. -/
def Place.Waits : Place → Prop
  | racing => True
  | deaf => True
  | returned _ => False

/-- A moment of the wait. -/
structure State where
  child : Child
  /-- An interrupt was delivered that the runner has not noticed. -/
  pending : Bool
  place : Place
  /-- What was done since the wait began, in order. -/
  effects : List Effect

/-- The wait begins. -/
def start : State := ⟨.running, false, .racing, []⟩

/-- What can happen in a wait. -/
inductive Act where
  /-- The child writes octets to a stream. -/
  | write (stream : Stream) (octets : Octets)
  /-- The child ends. -/
  | finish (result : Except IoError WaitStatus)
  /-- An interrupt is delivered; one more before the runner notices is the same interrupt. -/
  | deliver
  /-- The runner takes the interrupt. -/
  | interrupt
  /-- The runner takes a failure to listen for interrupts, and listens no more. -/
  | lose (cause : IoError)
  /-- The runner takes the child's result. -/
  | complete (result : Except IoError WaitStatus)

/-- The runner can not listen for interrupts. -/
def unheard (cause : IoError) : Log.Event :=
  ⟨.warn, childTarget, "Failed to listen for interrupts: " ++ cause.message, []⟩

namespace Act

/-- What shows of an act. -/
def effects : Act → List Effect
  | write stream octets => [.child stream octets]
  | interrupt => [.log interrupted]
  | lose cause => [.log (unheard cause)]
  | _ => []

/-- The act as a moment of a wait that hears every interrupt. -/
def moment? : Act → Option Moment
  | write stream octets => some (.output stream octets)
  | interrupt => some .interrupt
  | _ => none

/-- The child's end, if the act is that. -/
def end? : Act → Option (Except IoError WaitStatus)
  | finish result => some result
  | _ => none

/-- Whether the act is a part of an interrupt. -/
def isInterrupt : Act → Bool
  | deliver => true
  | interrupt => true
  | _ => false

end Act

/-- The moments of a wait. -/
def moments (acts : List Act) : List Moment :=
  acts.filterMap Act.moment?

/-- The ends that the child has come to. -/
def ends (acts : List Act) : List (Except IoError WaitStatus) :=
  acts.filterMap Act.end?

/-- How often the runner took an interrupt. -/
def interrupts (acts : List Act) : Nat :=
  (moments acts).count .interrupt

/-- No listening for interrupts failed. -/
def Heard (acts : List Act) : Prop :=
  ∀ cause, .lose cause ∉ acts

/-- A wait that is dropped half done leaves a child that nobody has reaped as it was. -/
structure Keeps (drop : Child → Child) : Prop where
  running : drop .running = .running
  ended : ∀ result, drop (.ended result) = .ended result

/-- One step of the wait.  Where an interrupt is pending and the child has ended, it may go either way. -/
inductive Step (drop : Child → Child) : State → Act → State → Prop
  | write {s : State} {stream : Stream} {octets : Octets} (hchild : s.child = .running) (hplace : s.place.Waits) :
      Step drop s (.write stream octets) { s with effects := s.effects ++ [.child stream octets] }
  | finish {s : State} {result : Except IoError WaitStatus} (hchild : s.child = .running) (hplace : s.place.Waits) :
      Step drop s (.finish result) { s with child := .ended result }
  | deliver {s : State} (hplace : s.place.Waits) :
      Step drop s .deliver { s with pending := true }
  | interrupt {s : State} (hpending : s.pending = true) (hplace : s.place = .racing) :
      Step drop s .interrupt
        { s with child := drop s.child, pending := false, effects := s.effects ++ [.log interrupted] }
  | lose {s : State} {cause : IoError} (hplace : s.place = .racing) :
      Step drop s (.lose cause)
        { s with child := drop s.child, place := .deaf, effects := s.effects ++ [.log (unheard cause)] }
  | complete {s : State} {result : Except IoError WaitStatus} (hchild : s.child = .ended result)
      (hplace : s.place.Waits) :
      Step drop s (.complete result) { s with child := .reaped, place := .returned (result.mapError .wait) }

/-- The acts of a wait from its beginning, and the moment they lead to. -/
inductive Run (drop : Child → Child) : List Act → State → Prop
  | nil : Run drop [] start
  | snoc {acts : List Act} {s s' : State} {act : Act} (hrun : Run drop acts s) (hstep : Step drop s act s') :
      Run drop (acts ++ [act]) s'

variable {drop : Child → Child} {acts : List Act} {s s' : State} {act : Act}

/-! ### One act more -/

theorem moments_snoc (acts : List Act) (act : Act) :
    moments (acts ++ [act]) = moments acts ++ act.moment?.toList := by
  rw [moments, List.filterMap_append, moments]
  cases h : act.moment? <;> simp [h]

theorem ends_snoc (acts : List Act) (act : Act) : ends (acts ++ [act]) = ends acts ++ act.end?.toList := by
  rw [ends, List.filterMap_append, ends]
  cases h : act.end? <;> simp [h]

theorem Heard.snoc (hheard : Heard acts) (hact : ∀ cause, act ≠ .lose cause) : Heard (acts ++ [act]) := by
  intro cause hmem
  rcases List.mem_append.1 hmem with hmem | hmem
  · exact hheard cause hmem
  · exact hact cause (List.mem_singleton.1 hmem).symm

/-! ### Nobody else takes the child's result -/

/-- What holds at every moment of a wait. -/
structure Inv (acts : List Act) (s : State) : Prop where
  /-- As long as the wait goes on, the child runs or its result is still there. -/
  unreaped : s.place.Waits → (s.child = .running ∧ ends acts = []) ∨ ∃ r, s.child = .ended r ∧ ends acts = [r]
  /-- A wait that is over has returned the child's own result. -/
  returned : ∀ v, s.place = .returned v → ∃ r, ends acts = [r] ∧ v = r.mapError .wait

theorem inv_start : Inv [] start where
  unreaped := fun _ => .inl ⟨rfl, rfl⟩
  returned := nofun

theorem not_waits_of_returned {v : Except RunError WaitStatus} (h : s.place = .returned v) : ¬s.place.Waits := by
  rw [h]
  exact id

theorem waits_of_racing (h : s.place = .racing) : s.place.Waits := by
  rw [h]
  exact trivial

/-- Under `Keeps`, dropping the wait changes nothing while it goes on. -/
theorem Inv.drop_child (hinv : Inv acts s) (hdrop : Keeps drop) (hplace : s.place.Waits) :
    drop s.child = s.child := by
  rcases hinv.unreaped hplace with ⟨hchild, -⟩ | ⟨r, hchild, -⟩
  · rw [hchild, hdrop.running]
  · rw [hchild, hdrop.ended]

/-- An act that leaves the child as it is and the wait going on leaves the invariant. -/
theorem Inv.of_same_child (hinv : Inv acts s) (hplace : s.place.Waits) (hplace' : s'.place.Waits)
    (hchild : s'.child = s.child) (hend : act.end? = none) : Inv (acts ++ [act]) s' where
  unreaped := fun _ => by
    rw [ends_snoc, hend, hchild, Option.toList_none, List.append_nil]
    exact hinv.unreaped hplace
  returned := fun v hv => absurd hplace' (not_waits_of_returned hv)

/-- Every step keeps the invariant. -/
theorem Step.inv (hdrop : Keeps drop) (hinv : Inv acts s) (hstep : Step drop s act s') : Inv (acts ++ [act]) s' := by
  cases hstep with
  | write hchild hplace => exact hinv.of_same_child hplace hplace rfl rfl
  | deliver hplace => exact hinv.of_same_child hplace hplace rfl rfl
  | interrupt hpending hplace =>
    have hwaits := waits_of_racing hplace
    exact hinv.of_same_child hwaits hwaits (hinv.drop_child hdrop hwaits) rfl
  | lose hplace =>
    have hwaits := waits_of_racing hplace
    exact hinv.of_same_child hwaits trivial (hinv.drop_child hdrop hwaits) rfl
  | @finish result hchild hplace =>
    refine ⟨fun _ => .inr ⟨result, rfl, ?_⟩, fun v hv => absurd hplace (not_waits_of_returned hv)⟩
    rcases hinv.unreaped hplace with ⟨-, hends⟩ | ⟨r, hended, -⟩
    · rw [ends_snoc, hends]
      rfl
    · rw [hchild] at hended
      contradiction
  | @complete result hchild hplace =>
    refine ⟨False.elim, fun v hv => ⟨result, ?_, ?_⟩⟩
    · rcases hinv.unreaped hplace with ⟨hrunning, -⟩ | ⟨r, hended, hends⟩
      · rw [hchild] at hrunning
        contradiction
      · rw [hchild] at hended
        cases hended
        rw [ends_snoc, hends]
        rfl
    · cases hv
      rfl

/-- **Nobody else takes the child's result**: at every moment of every wait it is where the child left it, or the wait
has returned it. -/
theorem inv_of_run (hdrop : Keeps drop) (hrun : Run drop acts s) : Inv acts s := by
  induction hrun with
  | nil => exact inv_start
  | snoc _ hstep ih => exact hstep.inv hdrop ih

/-- A result that the child has come to is still there while the wait goes on. -/
theorem Inv.child_of_end (hinv : Inv acts s) (hplace : s.place.Waits) {r : Except IoError WaitStatus}
    (hend : r ∈ ends acts) : s.child = .ended r := by
  rcases hinv.unreaped hplace with ⟨-, hends⟩ | ⟨r', hchild, hends⟩
  · rw [hends] at hend
    contradiction
  · rw [hends, List.mem_singleton] at hend
    rw [hchild, hend]

/-- A wait for a child that has ended can return, and returns the child's result. -/
theorem exists_complete (hdrop : Keeps drop) (hrun : Run drop acts s) {r : Except IoError WaitStatus}
    (hend : r ∈ ends acts) (hplace : s.place.Waits) :
    ∃ s', Step drop s (.complete r) s' ∧ s'.place = .returned (r.mapError .wait) :=
  ⟨_, .complete ((inv_of_run hdrop hrun).child_of_end hplace hend) hplace, rfl⟩

/-- Where an interrupt is there at once with the child's end, the wait can as well take the interrupt first, and
returns the same after it. -/
theorem exists_interrupt_complete (hdrop : Keeps drop) (hrun : Run drop acts s) {r : Except IoError WaitStatus}
    (hend : r ∈ ends acts) (hpending : s.pending = true) (hplace : s.place = .racing) :
    ∃ s₁ s₂, Step drop s .interrupt s₁ ∧ Step drop s₁ (.complete r) s₂ ∧ s₂.place = .returned (r.mapError .wait) := by
  have hwaits := waits_of_racing hplace
  have hchild := (inv_of_run hdrop hrun).child_of_end hwaits hend
  have hkept : drop s.child = .ended r := by rw [hchild, hdrop.ended]
  exact ⟨_, _, .interrupt hpending hplace, .complete hkept hwaits, rfl⟩

/-! ### A wait that is never interrupted -/

/-- The message tells a failure to listen from an interrupt. -/
theorem unheard_ne (cause : IoError) : unheard cause ≠ interrupted := fun h => by
  have hmessage : "Failed to listen for interrupts: " ++ cause.message =
      "Interrupt received, waiting for child to exit" := congrArg Log.Event.message h
  have hhead := congrArg (fun text : String => text.toList.head?) hmessage
  simp at hhead

/-- A moment of a wait as it is without the interrupts. -/
def State.quiet (s : State) : State :=
  { s with pending := false, effects := Runner.quiet s.effects }

/-- **A step without interrupts**: a step is matched by the same step, or by none if it is a part of an interrupt. -/
theorem Step.quiet (hdrop : Keeps drop) (hinv : Inv acts s) (hstep : Step drop s act s') :
    if act.isInterrupt then s'.quiet = s.quiet else Step drop s.quiet act s'.quiet := by
  cases hstep with
  | @write stream octets hchild hplace =>
    change Step drop s.quiet (.write stream octets)
      { s.quiet with effects := Runner.quiet (s.effects ++ [.child stream octets]) }
    rw [quiet_append, quiet_cons rfl]
    exact .write hchild hplace
  | finish hchild hplace => exact Step.finish (s := s.quiet) hchild hplace
  | deliver hplace => rfl
  | interrupt hpending hplace =>
    change { s with child := drop s.child, pending := false,
                    effects := Runner.quiet (s.effects ++ [.log interrupted]) } = s.quiet
    rw [hinv.drop_child hdrop (waits_of_racing hplace), quiet_append, quiet_cons_warning]
    exact congrArg (fun es => { s with pending := false, effects := es }) (List.append_nil _)
  | @lose cause hplace =>
    change Step drop s.quiet (.lose cause)
      { s.quiet with child := drop s.child, place := .deaf,
                     effects := Runner.quiet (s.effects ++ [.log (unheard cause)]) }
    rw [quiet_append, quiet_cons (isWarning_of_ne (unheard_ne cause))]
    exact .lose hplace
  | complete hchild hplace => exact .complete (s := s.quiet) hchild hplace

/-- **A wait without interrupts**: a run is matched by the run without them. -/
theorem Run.quiet (hdrop : Keeps drop) (hrun : Run drop acts s) :
    Run drop (acts.filter fun act => !act.isInterrupt) s.quiet := by
  induction hrun with
  | nil => exact .nil
  | @snoc acts s s' act hrun hstep ih =>
    have hquiet := hstep.quiet hdrop (inv_of_run hdrop hrun)
    rw [List.filter_append]
    cases hact : act.isInterrupt with
    | true =>
      rw [if_pos hact] at hquiet
      rw [hquiet, List.filter_cons_of_neg (by rw [hact]; decide), List.filter_nil, List.append_nil]
      exact ih
    | false =>
      rw [if_neg (by rw [hact]; decide)] at hquiet
      rw [List.filter_cons_of_pos (by rw [hact]; rfl)]
      exact ih.snoc hquiet

/-! ### What a wait shows -/

theorem Step.effects (hstep : Step drop s act s') : s'.effects = s.effects ++ act.effects := by
  cases hstep with
  | write => rfl
  | finish => exact (List.append_nil _).symm
  | deliver => exact (List.append_nil _).symm
  | interrupt => rfl
  | lose => rfl
  | complete => exact (List.append_nil _).symm

/-- What was done is what shows of the acts. -/
theorem effects_of_run (hrun : Run drop acts s) : s.effects = acts.flatMap Act.effects := by
  induction hrun with
  | nil => rfl
  | snoc _ hstep ih => rw [hstep.effects, ih, List.flatMap_append, List.flatMap_singleton]

/-- If every interrupt is heard, what shows of the acts is what shows of the moments. -/
theorem flatMap_effects (hheard : Heard acts) : acts.flatMap Act.effects = (moments acts).map Moment.effect := by
  induction acts with
  | nil => rfl
  | cons act acts ih =>
    have hrest : Heard acts := fun cause hmem => hheard cause (List.mem_cons_of_mem _ hmem)
    rw [List.flatMap_cons, ih hrest]
    cases act with
    | lose cause => exact absurd List.mem_cons_self (hheard cause)
    | _ => rfl

theorem effects_eq_moments (hrun : Run drop acts s) (hheard : Heard acts) :
    s.effects = (moments acts).map Moment.effect := by
  rw [effects_of_run hrun, flatMap_effects hheard]

/-- **The wait as a whole**: whatever the order of its acts, it returns the child's result and shows what `await`
shows for its moments. -/
theorem await_of_run (hdrop : Keeps drop) (hrun : Run drop acts s) (hheard : Heard acts)
    {v : Except RunError WaitStatus} (hplace : s.place = .returned v) :
    ∃ r, ends acts = [r] ∧ v = r.mapError .wait ∧ await (moments acts) r = (s.effects, r) := by
  obtain ⟨r, hends, hv⟩ := (inv_of_run hdrop hrun).returned v hplace
  refine ⟨r, hends, hv, ?_⟩
  rw [await_eq, effects_eq_moments hrun hheard]

/-- Whatever the moments, some run has them and waits on for a child that has not ended. -/
theorem exists_racing (hdrop : Keeps drop) (ms : List Moment) :
    ∃ acts s, Run drop acts s ∧ Heard acts ∧ moments acts = ms ∧ ends acts = [] ∧
      s.child = .running ∧ s.place = .racing := by
  induction ms using List.reverseRecOn with
  | nil => exact ⟨[], start, .nil, nofun, rfl, rfl, rfl, rfl⟩
  | append_singleton ms m ih =>
    obtain ⟨acts, s, hrun, hheard, hmoments, hends, hchild, hplace⟩ := ih
    have hwaits := waits_of_racing hplace
    cases m with
    | interrupt =>
      refine ⟨_, _, (hrun.snoc (.deliver hwaits)).snoc (.interrupt rfl hplace),
        (hheard.snoc (by nofun)).snoc (by nofun), ?_, ?_, (congrArg drop hchild).trans hdrop.running, hplace⟩
      · rw [moments_snoc, moments_snoc, hmoments]
        exact congrArg (· ++ _) (List.append_nil ms)
      · rw [ends_snoc, ends_snoc, hends]
        rfl
    | output stream octets =>
      have hstep : Step drop s (.write stream octets) _ := .write hchild hwaits
      refine ⟨_, _, hrun.snoc hstep, hheard.snoc nofun, ?_, ?_, hchild, hplace⟩
      · rw [moments_snoc, hmoments]
        rfl
      · rw [ends_snoc, hends]
        rfl

/-- **Every wait is a run**: whatever the moments and the child's end, some run has them and returns. -/
theorem exists_run (hdrop : Keeps drop) (ms : List Moment) (r : Except IoError WaitStatus) :
    ∃ acts s, Run drop acts s ∧ Heard acts ∧ moments acts = ms ∧ ends acts = [r] ∧
      s.place = .returned (r.mapError .wait) := by
  obtain ⟨acts, s, hrun, hheard, hmoments, hends, hchild, hplace⟩ := exists_racing hdrop ms
  have hwaits := waits_of_racing hplace
  have hfinish : Step drop s (.finish r) _ := .finish hchild hwaits
  have hcomplete : Step drop { s with child := .ended r } (.complete r) _ := .complete rfl hwaits
  refine ⟨_, _, (hrun.snoc hfinish).snoc hcomplete, (hheard.snoc (by nofun)).snoc (by nofun), ?_, ?_, rfl⟩
  · rw [moments_snoc, moments_snoc, hmoments]
    exact (List.append_nil _).trans (List.append_nil ms)
  · rw [ends_snoc, ends_snoc, hends]
    rfl

end Waiting
end RunMeter.Runner
