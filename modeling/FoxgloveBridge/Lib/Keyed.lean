import Mathlib.Data.List.Basic
import Mathlib.Logic.Function.Basic

/-!
# Keyed machines

A service that holds a separate state for each key, with calls that each name one key: a
machine for a single key, lifted to functions from keys to states. The lifted machine
isolates its keys. Calls for different keys commute, and what a sequence of calls leaves
at a key is what the calls for that key leave there on their own.
-/

/-- The key of a call, and what the call does to the state held under it, with the reply. -/
structure KeyedMachine (K S C R : Type*) where
  key : C → K
  step : S → C → S × R

namespace KeyedMachine

variable {K S C R : Type*} [DecidableEq K] (M : KeyedMachine K S C R)

/-- One call, on the states of all keys. -/
def act (states : K → S) (call : C) : (K → S) × R :=
  (Function.update states (M.key call) (M.step (states (M.key call)) call).1,
    (M.step (states (M.key call)) call).2)

/-- The states after a sequence of calls. -/
def after (states : K → S) (calls : List C) : K → S :=
  calls.foldl (fun states call => (M.act states call).1) states

/-- What the calls of a sequence reply. -/
def replies (states : K → S) : List C → List R
  | [] => []
  | call :: calls => (M.act states call).2 :: replies (M.act states call).1 calls

theorem after_append (states : K → S) (calls more : List C) :
    M.after states (calls ++ more) = M.after (M.after states calls) more :=
  List.foldl_append

theorem replies_append (states : K → S) (calls more : List C) :
    M.replies states (calls ++ more) =
      M.replies states calls ++ M.replies (M.after states calls) more := by
  induction calls generalizing states with
  | nil => rfl
  | cons call calls ih =>
      show _ :: M.replies _ (calls ++ more) = _ :: M.replies _ calls ++ _
      rw [ih]
      rfl

theorem act_of_step {states : K → S} {call : C} {state : S} {reply : R}
    (h : M.step (states (M.key call)) call = (state, reply)) :
    M.act states call = (Function.update states (M.key call) state, reply) := by
  unfold act
  rw [h]

/-- A call leaves the other keys alone. -/
theorem act_of_ne (states : K → S) {call : C} {key : K} (h : key ≠ M.key call) :
    (M.act states call).1 key = states key :=
  Function.update_of_ne h _ _

theorem act_self (states : K → S) (call : C) :
    (M.act states call).1 (M.key call) = (M.step (states (M.key call)) call).1 :=
  Function.update_self _ _ _

/-- **Isolation, call by call.** Two calls for different keys may be swapped. -/
theorem act_comm (states : K → S) {a b : C} (h : M.key a ≠ M.key b) :
    (M.act (M.act states a).1 b).1 = (M.act (M.act states b).1 a).1 ∧
      (M.act (M.act states a).1 b).2 = (M.act states b).2 ∧
        (M.act (M.act states b).1 a).2 = (M.act states a).2 := by
  have hb : (M.act states a).1 (M.key b) = states (M.key b) := M.act_of_ne states h.symm
  have ha : (M.act states b).1 (M.key a) = states (M.key a) := M.act_of_ne states h
  refine ⟨?_, ?_, ?_⟩
  · show Function.update (M.act states a).1 (M.key b) (M.step ((M.act states a).1 (M.key b)) b).1 =
      Function.update (M.act states b).1 (M.key a) (M.step ((M.act states b).1 (M.key a)) a).1
    rw [hb, ha]
    exact Function.update_comm h _ _ _
  · show (M.step ((M.act states a).1 (M.key b)) b).2 = _
    rw [hb]
    rfl
  · show (M.step ((M.act states b).1 (M.key a)) a).2 = _
    rw [ha]
    rfl

/-- What is under a key depends on what was there before, and on nothing else. -/
theorem after_congr {states other : K → S} {key : K} (h : states key = other key)
    (calls : List C) : M.after states calls key = M.after other calls key := by
  induction calls generalizing states other with
  | nil => exact h
  | cons call calls ih =>
      apply ih
      by_cases heq : key = M.key call
      · subst heq
        show (M.act states call).1 (M.key call) = (M.act other call).1 (M.key call)
        rw [M.act_self, M.act_self, h]
      · show (M.act states call).1 key = (M.act other call).1 key
        rw [M.act_of_ne states heq, M.act_of_ne other heq, h]

/-- **Isolation, run by run.** A key sees its own calls only. -/
theorem after_apply (states : K → S) (calls : List C) (key : K) :
    M.after states calls key =
      M.after states (calls.filter fun call => M.key call = key) key := by
  induction calls generalizing states with
  | nil => rfl
  | cons call calls ih =>
      by_cases heq : M.key call = key
      · rw [List.filter_cons_of_pos (by simpa using heq)]
        exact ih _
      · rw [List.filter_cons_of_neg (by simpa using heq)]
        exact (ih _).trans (M.after_congr (M.act_of_ne states (Ne.symm heq)) _)

end KeyedMachine
