import FoxgloveBridge.Lib.Lists

/-!
# Call histories

The log of an object that several threads call at once: a call is invoked, takes
effect at one moment in between (it is decided) and returns. The calls in the order
of their decisions are a sequential history of the object, and that order respects
real time: a call that returned before another was invoked comes first
(`WellFormed.decisions_respect`). What is left to prove for an object is that its
state is the result of that sequential history.
-/

/-- What a call does in the log. -/
inductive CallEvent (C : Type*)
  | invoked (call : C)
  | decided (call : C)
  | returned (call : C)
  deriving DecidableEq, Repr

namespace CallEvent

open scoped List

/-- The calls in the order in which they took effect. -/
def decisions {C : Type*} : List (CallEvent C) → List C
  | [] => []
  | .decided call :: rest => call :: decisions rest
  | .invoked _ :: rest => decisions rest
  | .returned _ :: rest => decisions rest

/-- Each call is invoked once, then decided at most once, then returns at most once. -/
inductive WellFormed {C : Type*} : List (CallEvent C) → Prop
  | nil : WellFormed []
  | invoked {log : List (CallEvent C)} {c : C} : WellFormed log → .invoked c ∉ log →
      WellFormed (log ++ [.invoked c])
  | decided {log : List (CallEvent C)} {c : C} : WellFormed log → .invoked c ∈ log →
      .decided c ∉ log → WellFormed (log ++ [.decided c])
  | returned {log : List (CallEvent C)} {c : C} : WellFormed log → .decided c ∈ log →
      .returned c ∉ log → WellFormed (log ++ [.returned c])

variable {C : Type*} {log : List (CallEvent C)} {c d : C}

@[simp] theorem decisions_append (log rest : List (CallEvent C)) :
    decisions (log ++ rest) = decisions log ++ decisions rest := by
  induction log with
  | nil => rfl
  | cons e log ih => cases e <;> simp [decisions, ih]

@[simp] theorem mem_decisions : c ∈ decisions log ↔ .decided c ∈ log := by
  induction log with
  | nil => simp [decisions]
  | cons e log ih => cases e <;> simp [decisions, ih]

namespace WellFormed

theorem invoked_of_decided (h : WellFormed log) (hc : .decided c ∈ log) : .invoked c ∈ log := by
  induction h with
  | nil => cases hc
  | invoked _ _ ih | returned _ _ _ ih => exact List.mem_append_left _ (ih (by simpa using hc))
  | @decided log d _ hinv _ ih =>
      rcases List.mem_append.mp hc with hbefore | hlast
      · exact List.mem_append_left _ (ih hbefore)
      · obtain rfl : c = d := by simpa using hlast
        exact List.mem_append_left _ hinv

theorem decided_of_returned (h : WellFormed log) (hc : .returned c ∈ log) :
    .decided c ∈ log := by
  induction h with
  | nil => cases hc
  | invoked _ _ ih | decided _ _ _ ih => exact List.mem_append_left _ (ih (by simpa using hc))
  | @returned log d _ hdec _ ih =>
      rcases List.mem_append.mp hc with hbefore | hlast
      · exact List.mem_append_left _ (ih hbefore)
      · obtain rfl : c = d := by simpa using hlast
        exact List.mem_append_left _ hdec

theorem nodup_decisions (h : WellFormed log) : (decisions log).Nodup := by
  induction h with
  | nil => exact .nil
  | invoked _ _ ih | returned _ _ _ ih => simpa [decisions] using ih
  | decided _ _ hnew ih =>
      rw [decisions_append]
      exact List.nodup_append_singleton ih (by simpa using hnew)

/-- **Real time.** A call that returned before another one was invoked is decided
before it. -/
theorem decisions_respect (h : WellFormed log) (hreal : [.returned c, .invoked d] <+ log)
    (hd : .decided d ∈ log) : [c, d] <+ decisions log := by
  induction h with
  | nil => cases hd
  | @invoked log e hlog hnew ih =>
      have hdlog : .decided d ∈ log := by simpa using hd
      rcases List.pair_sublist_append_singleton.mp hreal with hbefore | ⟨-, hlast⟩
      · simpa [decisions] using ih hbefore hdlog
      · -- a call is decided only after it is invoked
        obtain rfl : d = e := by simpa using hlast
        exact absurd (hlog.invoked_of_decided hdlog) hnew
  | @decided log e hlog _ _ ih =>
      have hbefore : [.returned c, .invoked d] <+ log := by
        simpa [List.pair_sublist_append_singleton] using hreal
      have hc : .returned c ∈ log := hbefore.subset List.mem_cons_self
      rw [decisions_append]
      rcases List.mem_append.mp hd with hdlog | hlast
      · exact (ih hbefore hdlog).trans (List.sublist_append_left _ _)
      · obtain rfl : d = e := by simpa using hlast
        exact List.pair_sublist_append_singleton.mpr
          (.inr ⟨mem_decisions.mpr (hlog.decided_of_returned hc), rfl⟩)
  | @returned log e _ _ _ ih =>
      have hbefore : [.returned c, .invoked d] <+ log := by
        simpa [List.pair_sublist_append_singleton] using hreal
      simpa [decisions] using ih hbefore (by simpa using hd)

end WellFormed

end CallEvent
