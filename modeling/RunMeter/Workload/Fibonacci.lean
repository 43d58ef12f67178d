import RunMeter.Checked

/-!
# RunMeter.Workload.Fibonacci — the doubly recursive Fibonacci function

An index below 2 is its own value.  Every subtraction and addition is checked.
-/

namespace RunMeter.Workload

/-- The Fibonacci number of an index by double recursion, if nothing on the way leaves the words. -/
def fibonacci (n : Int64) : Option Int64 :=
  if _small : n < 2 then some n
  else
    match _before : Checked.sub n 1, _twoBefore : Checked.sub n 2 with
    | some before, some twoBefore =>
      match fibonacci before, fibonacci twoBefore with
      | some a, some b => Checked.add a b
      | _, _ => none
    | _, _ => none
termination_by n.toInt.toNat
decreasing_by
  all_goals
    have e1 := Checked.toInt_of_sub _before
    have e2 := Checked.toInt_of_sub _twoBefore
    have h3 : (1 : Int64).toInt = 1 := by decide
    have h4 : (2 : Int64).toInt = 2 := by decide
    have h5 := mt Int64.lt_iff_toInt_lt.2 _small
    omega

theorem fibonacci_of_lt_two {n : Int64} (h : n < 2) : fibonacci n = some n := by
  rw [fibonacci, dif_pos h]

/-- From the index 2 on: the sum of the two numbers before. -/
theorem fibonacci_of_sub {n before twoBefore : Int64} (h : ¬n < 2) (h1 : Checked.sub n 1 = some before)
    (h2 : Checked.sub n 2 = some twoBefore) :
    fibonacci n = (fibonacci before).bind fun a => (fibonacci twoBefore).bind fun b => Checked.add a b := by
  rw [fibonacci, dif_neg h]
  split
  · rename_i before' twoBefore' e1 e2
    obtain rfl : before' = before := Option.some.inj (e1.symm.trans h1)
    obtain rfl : twoBefore' = twoBefore := Option.some.inj (e2.symm.trans h2)
    cases fibonacci before' <;> cases fibonacci twoBefore' <;> rfl
  · rename_i none_of
    exact absurd h2 (none_of _ _ h1)

end RunMeter.Workload
