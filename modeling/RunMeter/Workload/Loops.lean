import RunMeter.Checked

/-!
# RunMeter.Workload.Loops — counting and summing up to a limit

Both loops run their body once for every index from 0 up to a limit, the limit itself excluded.  The index is a
signed word; a step that would leave the words ends the loop without a result.
-/

namespace RunMeter.Workload

/-- Runs the body for each index from `i` up to `limit`, the limit itself excluded. -/
@[specialize]
def forBelow {σ : Type} (limit : Int64) (body : Int64 → σ → Option σ) (i : Int64) (s : σ) : Option σ :=
  if _more : i < limit then
    match body i s with
    | none => none
    | some s =>
      match _next : Checked.add i 1 with
      | none => none
      | some next => forBelow limit body next s
  else some s
termination_by (limit.toInt - i.toInt).toNat
decreasing_by
  have h1 := Checked.toInt_of_add _next
  have h2 := Int64.lt_iff_toInt_lt.1 _more
  have h3 : (1 : Int64).toInt = 1 := by decide
  omega

/-- At the limit the loop is over. -/
theorem forBelow_of_le {σ : Type} {limit : Int64} {body : Int64 → σ → Option σ} {i : Int64} (s : σ)
    (h : limit.toInt ≤ i.toInt) : forBelow limit body i s = some s := by
  rw [forBelow, dif_neg fun hlt => Int.not_lt.2 h (Int64.lt_iff_toInt_lt.1 hlt)]

/-- Below the limit the body runs once and the loop goes on with the next index. -/
theorem forBelow_of_lt {σ : Type} {limit : Int64} {body : Int64 → σ → Option σ} {i next : Int64} {s s' : σ}
    (h : i.toInt < limit.toInt) (hbody : body i s = some s') (hnext : Checked.add i 1 = some next) :
    forBelow limit body i s = forBelow limit body next s' := by
  rw [forBelow, dif_pos (Int64.lt_iff_toInt_lt.2 h), hbody]
  dsimp only
  split
  · rename_i none_of
    exact absurd (none_of.symm.trans hnext) nofun
  · rename_i next' e
    obtain rfl : next' = next := Option.some.inj (e.symm.trans hnext)
    rfl

/-- Counts the indices below a limit one at a time. -/
def countUp (limit : Int64) : Option Int64 :=
  forBelow limit (fun _ count => Checked.add count 1) 0 0

/-- Adds up the indices below a limit.  The sum wraps round at the end of the words. -/
def sumBelow (limit : Int64) : Option Int64 :=
  forBelow limit (fun i sum => some (sum + i)) 0 0

end RunMeter.Workload
