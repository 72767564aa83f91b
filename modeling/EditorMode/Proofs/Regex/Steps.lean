import EditorMode.Proofs.Regex.Ways
import EditorMode.Proofs.Regex.Wiring
import Mathlib.Data.Finset.Card
import Mathlib.Order.Interval.Finset.Nat
import Mathlib.Tactic.Ring

/-!
# The search has enough steps

`Matcher.matchAt` runs the search for a number of steps that is fixed beforehand.  This file shows
that the number is never used up, so that the answer does not depend on it
(`Expr.matchAt_eq_runTasks`).

* A task takes at most `Plan.lead` steps before it comes to a choice or to its end, and this is
  never more than the size of the whole plan (`ShortTodo`).
* A choice leaves two tasks, but it is made only once at each place; `unmade` counts the choices
  that can still be made.

The sum of the two, `stepsLeft`, goes down with every step (`stepsLeft_step`).
-/

set_option autoImplicit false

namespace EditorMode.Regex

/-! ## Steps up to the next choice

The lead of a plan ends at its first choice, so what comes after a loop does not count for it.  This
is what keeps the bound the same along the search: plans that a step puts before the others have a
choice between them and the others, or they are parts of the plan that the step was taken of. -/

/-- The number of steps that the plan takes before a choice, where what follows it takes `rest`. -/
def Plan.lead : Plan → Nat → Nat
  | .empty, rest => rest + 1
  | .literal _, rest => rest + 1
  | .chars _, rest => rest + 1
  | .check _, rest => rest + 1
  | .seq a b, rest => a.lead (b.lead rest) + 1
  | .choice _ _ _, _ => 1
  | .star _ _ _, _ => 1
  | .plus _ _ body, _ => body.lead 1 + 1
  | .atLeast _ 0 _ _ body, _ => body.lead 1 + 2
  | .atLeast id (count + 1) stride greedy body, rest =>
    body.lead (lead (.atLeast id count stride greedy body) rest) + 1
  | .counted id (count + 1) more stride greedy body, rest =>
    body.lead (lead (.counted id count more stride greedy body) rest) + 1
  | .counted _ 0 0 _ _ _, rest => rest + 1
  | .counted _ 0 (_ + 1) _ _ _, _ => 1
termination_by p => p.size
decreasing_by all_goals simp only [Plan.size, Nat.succ_mul, Nat.add_mul]; omega

theorem Plan.lead_pos (p : Plan) (rest : Nat) : 1 ≤ p.lead rest := by
  fun_cases Plan.lead p rest <;> omega

/-- A plan takes no more steps than it has parts. -/
theorem Plan.lead_le (p : Plan) (rest : Nat) : p.lead rest ≤ p.size + rest := by
  fun_induction Plan.lead p rest with
  | case5 a b rest ihb iha =>
    rw [Plan.size]
    omega
  | case8 id greedy body rest ih =>
    rw [Plan.size]
    omega
  | case9 id stride greedy body rest ih =>
    rw [Plan.size]
    omega
  | case10 id count stride greedy body rest ihmore ih =>
    rw [Plan.size] at ihmore ⊢
    rw [Nat.succ_mul]
    omega
  | case11 id count more stride greedy body rest ihmore ih =>
    rw [Plan.size] at ihmore ⊢
    rw [Nat.add_right_comm count 1 more, Nat.succ_mul]
    omega
  | _ =>
    rw [Plan.size]
    omega

/-- The number of steps that the plans take before a choice or their end. -/
def todoLead : Todo → Nat
  | [] => 1
  | (p, _) :: todo => p.lead (todoLead todo)

theorem todoLead_pos (todo : Todo) : 1 ≤ todoLead todo := by
  cases todo with
  | nil => exact Nat.le_refl 1
  | cons x todo => exact x.1.lead_pos _

/-- The parts of each of the plans, with the steps that follow it, are no more than `bound`. -/
def ShortTodo (bound : Nat) : Todo → Prop
  | [] => 1 ≤ bound
  | (p, _) :: todo => p.size + todoLead todo ≤ bound ∧ ShortTodo bound todo

/-- Short plans take few steps before a choice or their end. -/
theorem ShortTodo.todoLead_le {bound : Nat} {todo : Todo} (h : ShortTodo bound todo) :
    todoLead todo ≤ bound := by
  cases todo with
  | nil => exact h
  | cons x todo => exact Nat.le_trans (x.1.lead_le _) h.1

/-- What is left to follow is as short as it was before the step. -/
theorem ShortTodo.of_leaves {shift bound : Nat} {todo : Todo} {p : Plan}
    (hp : ShortTodo bound ((p, shift) :: todo)) {left : Todo} (h : Leaves shift todo p left) :
    ShortTodo bound left := by
  obtain ⟨hsize, htodo⟩ := hp
  have hpos := todoLead_pos todo
  cases h with
  | empty => exact htodo
  | literal => exact htodo
  | chars => exact htodo
  | check => exact htodo
  | @seq a b =>
    rw [Plan.size] at hsize
    have hb := b.lead_le (todoLead todo)
    exact ⟨show a.size + b.lead (todoLead todo) ≤ bound by omega, by omega, htodo⟩
  | first =>
    rw [Plan.size] at hsize
    exact ⟨by omega, htodo⟩
  | second =>
    rw [Plan.size] at hsize
    exact ⟨by omega, htodo⟩
  | round =>
    -- After the body there is the choice of the loop, one step away.
    refine ⟨?_, hsize, htodo⟩
    rw [Plan.size] at hsize
    rw [todoLead, Plan.lead]
    omega
  | leave => exact htodo
  | plus =>
    rw [Plan.size] at hsize
    refine ⟨?_, ?_, htodo⟩
    · rw [todoLead, Plan.lead]
      omega
    · rw [Plan.size]
      omega
  | atLeastZero =>
    rw [Plan.size] at hsize
    refine ⟨?_, htodo⟩
    rw [Plan.size]
    omega
  | @atLeastSucc id count stride greedy body =>
    -- The rounds that are left have the parts of the plan but for one body.
    have hmore := (Plan.atLeast id count stride greedy body).lead_le (todoLead todo)
    rw [Plan.size, Nat.succ_mul] at hsize
    rw [Plan.size] at hmore
    refine ⟨?_, ?_, htodo⟩
    · rw [todoLead]
      omega
    · rw [Plan.size]
      omega
  | @countedSucc id count more stride greedy body =>
    have hmore := (Plan.counted id count more stride greedy body).lead_le (todoLead todo)
    rw [Plan.size, Nat.add_right_comm count 1 more, Nat.succ_mul] at hsize
    rw [Plan.size] at hmore
    refine ⟨?_, ?_, htodo⟩
    · rw [todoLead]
      omega
    · rw [Plan.size]
      omega
  | @countedRound id more stride greedy body =>
    have hmore := (Plan.counted id 0 more stride greedy body).lead_le (todoLead todo)
    rw [Plan.size, ← Nat.add_assoc, Nat.succ_mul] at hsize
    rw [Plan.size] at hmore
    refine ⟨?_, ?_, htodo⟩
    · rw [todoLead]
      omega
    · rw [Plan.size]
      omega
  | countedLeave => exact htodo

namespace Task

/-- The tasks that are left go on at the place of the task, or further on. -/
theorem ahead_of_mem_branches {spot : Spot} {shift : Nat} {todo : Todo} {p : Plan} {task : Task}
    (ht : task ∈ branches spot shift todo p) : spot.Ahead task.spot := by
  cases p with
  | literal text =>
    obtain ⟨t, hread, rfl⟩ := List.mem_map.1 ht
    exact (Spot.ahead_of_readText (Option.mem_toList.1 hread)).1
  | chars set =>
    obtain ⟨t, hread, rfl⟩ := List.mem_map.1 ht
    exact (Spot.ahead_of_read (Option.mem_toList.1 hread)).1
  | check a =>
    rw [branches] at ht
    split at ht
    · rw [List.mem_singleton.1 ht]
      exact .refl spot
    · exact absurd ht List.not_mem_nil
  | choice id a b =>
    rcases List.mem_pair.1 ht with rfl | rfl
    · exact .refl spot
    · exact .refl spot
  | star id greedy body =>
    rcases mem_ordered.1 ht with rfl | rfl
    · exact .refl spot
    · exact .refl spot
  | atLeast id count stride greedy body =>
    cases count with
    | zero =>
      rw [List.mem_singleton.1 ht]
      exact .refl spot
    | succ count =>
      rw [List.mem_singleton.1 ht]
      exact .refl spot
  | counted id count more stride greedy body =>
    cases count with
    | succ count =>
      rw [List.mem_singleton.1 ht]
      exact .refl spot
    | zero =>
      cases more with
      | zero =>
        rw [List.mem_singleton.1 ht]
        exact .refl spot
      | succ more =>
        rcases mem_ordered.1 ht with rfl | rfl
        · exact .refl spot
        · exact .refl spot
  | _ =>
    rw [List.mem_singleton.1 ht]
    exact .refl spot

/-- The number of steps that the tasks take before a choice or their end. -/
def totalLead (tasks : List Task) : Nat := (tasks.map fun task => todoLead task.todo).sum

@[simp]
theorem totalLead_cons (task : Task) (tasks : List Task) :
    totalLead (task :: tasks) = todoLead task.todo + totalLead tasks := rfl

@[simp]
theorem totalLead_append (early late : List Task) :
    totalLead (early ++ late) = totalLead early + totalLead late := by
  simp [totalLead]

/-- Tasks that are short each are short together. -/
theorem totalLead_le {bound : Nat} {tasks : List Task}
    (h : ∀ task ∈ tasks, todoLead task.todo ≤ bound) : totalLead tasks ≤ tasks.length * bound := by
  induction tasks with
  | nil => exact Nat.zero_le _
  | cons task tasks ih =>
    rw [totalLead_cons, List.length_cons, Nat.succ_mul, Nat.add_comm]
    exact Nat.add_le_add (ih fun t ht => h t (List.mem_cons_of_mem task ht))
      (h task List.mem_cons_self)

/-- Without a choice there is at most one task left, which is a step further. -/
theorem totalLead_branches_lt {spot : Spot} {shift : Nat} {todo : Todo} {p : Plan}
    (hp : p.choiceId? shift = none) :
    totalLead (branches spot shift todo p) < todoLead ((p, shift) :: todo) := by
  cases p with
  | literal text =>
    rw [branches, todoLead, Plan.lead]
    cases spot.readText text <;> simp [totalLead]
  | chars set =>
    rw [branches, todoLead, Plan.lead]
    cases spot.read set <;> simp [totalLead]
  | check a =>
    rw [branches, todoLead, Plan.lead]
    split <;> simp [totalLead]
  | choice id a b => cases hp
  | star id greedy body => cases hp
  | atLeast id count stride greedy body =>
    cases count <;> simp [branches, totalLead, todoLead, Plan.lead]
  | counted id count more stride greedy body =>
    cases count with
    | succ count => simp [branches, totalLead, todoLead, Plan.lead]
    | zero =>
      cases more with
      | zero => simp [branches, totalLead, todoLead, Plan.lead]
      | succ more => cases hp
  | _ => simp [branches, totalLead, todoLead, Plan.lead]

/-- A step leaves two tasks at most. -/
theorem length_branches_le (spot : Spot) (shift : Nat) (todo : Todo) (p : Plan) :
    (branches spot shift todo p).length ≤ 2 := by
  fun_cases branches spot shift todo p with
  | case2 text => cases spot.readText text <;> simp
  | case3 set => cases spot.read set <;> simp
  | case8 id greedy body => cases greedy <;> simp [ordered]
  | case14 id more stride greedy body => cases greedy <;> simp [ordered]
  | _ => simp

end Task

/-! ## Choices that can still be made

Since the search goes forward and the wiring knows the numbers of the choices, the pairs of a place
and a number that the record can hold are finitely many. -/

/-- The number of pairs of a place from `first` to `last` and a choice below `choices` that have not
been made. -/
def Made.unmade (made : Made) (first last choices : Nat) : Nat :=
  ((Finset.Icc first last ×ˢ Finset.range choices).filter
    fun x => made.contains x.1 x.2 = false).card

theorem Made.unmade_le (made : Made) (first last choices : Nat) :
    made.unmade first last choices ≤ (last + 1 - first) * choices := by
  refine (Finset.card_filter_le _ _).trans ?_
  rw [Finset.card_product, Nat.card_Icc, Finset.card_range]

/-- A choice that is made cannot be made once more. -/
theorem Made.unmade_insert {made : Made} {first last choices index id : Nat}
    (hfirst : first ≤ index) (hlast : index ≤ last) (hid : id < choices)
    (hmade : made.contains index id = false) :
    (made.insert index id).unmade first last choices + 1 = made.unmade first last choices := by
  have hmem : (index, id) ∈ (Finset.Icc first last ×ˢ Finset.range choices).filter
      fun x => made.contains x.1 x.2 = false := by
    rw [Finset.mem_filter, Finset.mem_product, Finset.mem_Icc, Finset.mem_range]
    exact ⟨⟨⟨hfirst, hlast⟩, hid⟩, hmade⟩
  rw [unmade, unmade, ← Finset.card_erase_add_one hmem, ← Finset.filter_erase]
  congr 2
  ext ⟨j, i⟩
  rw [Finset.mem_filter, Finset.mem_filter, Finset.mem_erase, Made.contains_insert,
    Bool.or_eq_false_iff, decide_eq_false_iff_not, Ne, Prod.mk.injEq, eq_comm, @eq_comm _ i]
  tauto

/-! ## Enough steps -/

/-- What is known of the tasks of a search that starts at the place `start`: the wiring of their
plans, a bound of the steps before a choice, and that they go forward. -/
structure Task.Regular (w : Wiring) (bound : Nat) (start : Spot) (task : Task) : Prop where
  wired : TodoWired w task.todo
  short : ShortTodo bound task.todo
  ahead : start.Ahead task.spot

section Search

variable {w : Wiring} {bound choices : Nat} {start spot : Spot} {shift : Nat} {todo : Todo}
  {p : Plan} {made : Made} {tasks : List Task}

/-- What a regular task leaves is regular. -/
theorem Task.Regular.of_mem_branches (h : Task.Regular w bound start ⟨spot, (p, shift) :: todo⟩)
    {task : Task} (ht : task ∈ Task.branches spot shift todo p) : task.Regular w bound start := by
  have hleaves := Task.leaves_of_mem_branches ht
  exact ⟨h.wired.of_leaves hleaves, h.short.of_leaves hleaves,
    h.ahead.trans (Task.ahead_of_mem_branches ht)⟩

/-- The tasks after a step are left by the first one, or they are others. -/
theorem Task.mem_step {task : Task} (ht : task ∈ (Task.step made spot shift todo tasks p).1) :
    task ∈ Task.branches spot shift todo p ∨ task ∈ tasks := by
  cases hid : p.choiceId? shift with
  | none =>
    rw [Task.step_of_no_choice hid] at ht
    exact List.mem_append.1 ht
  | some id =>
    cases hmade : made.contains spot.index id with
    | true =>
      rw [Task.step_of_made hid hmade] at ht
      exact .inr ht
    | false =>
      rw [Task.step_of_unmade hid hmade] at ht
      exact List.mem_append.1 ht

/-- Steps keep what is known of the tasks. -/
theorem Task.regular_of_mem_step
    (h : ∀ task ∈ (⟨spot, (p, shift) :: todo⟩ :: tasks : List Task), task.Regular w bound start)
    {task : Task} (ht : task ∈ (Task.step made spot shift todo tasks p).1) :
    task.Regular w bound start := by
  rcases Task.mem_step ht with ht | ht
  · exact (h _ List.mem_cons_self).of_mem_branches ht
  · exact h task (List.mem_cons_of_mem _ ht)

/-- A bound of the number of steps that the search can still take: those of the tasks up to their
next choice, and for each choice that can be made those of the two tasks it leaves. -/
def stepsLeft (bound choices : Nat) (start : Spot) (made : Made) (tasks : List Task) : Nat :=
  Task.totalLead tasks
    + 2 * bound * made.unmade start.index (start.index + start.rest.length) choices

/-- **Every step counts.** -/
theorem stepsLeft_step (hw : ∀ id, w id ≠ none → id < choices)
    (h : Task.Regular w bound start ⟨spot, (p, shift) :: todo⟩) (made : Made)
    (tasks : List Task) :
    stepsLeft bound choices start (Task.step made spot shift todo tasks p).2
        (Task.step made spot shift todo tasks p).1
      < stepsLeft bound choices start made (⟨spot, (p, shift) :: todo⟩ :: tasks) := by
  cases hid : p.choiceId? shift with
  | none =>
    have hlead : Task.totalLead (Task.branches spot shift todo p) < todoLead ((p, shift) :: todo) :=
      Task.totalLead_branches_lt hid
    rw [Task.step_of_no_choice hid]
    simp only [stepsLeft, Task.totalLead_append, Task.totalLead_cons]
    omega
  | some id =>
    cases hmade : made.contains spot.index id with
    | true =>
      -- The task is dropped.
      have hpos := todoLead_pos ((p, shift) :: todo)
      rw [Task.step_of_made hid hmade]
      simp only [stepsLeft, Task.totalLead_cons]
      omega
    | false =>
      -- The two tasks that are left are paid for by the choice.
      have hwired := h.wired.1.eq_of_choiceId? hid
      have hlt : id < choices := hw id (by rw [hwired]; exact Option.some_ne_none _)
      have hahead : start.Ahead spot := h.ahead
      obtain ⟨hfirst, hlast⟩ := hahead.index_add
      have hunmade := Made.unmade_insert hfirst
        (show spot.index ≤ start.index + start.rest.length by omega) hlt hmade
      have hbranches : Task.totalLead (Task.branches spot shift todo p) ≤ 2 * bound :=
        (Task.totalLead_le fun task ht =>
          (h.short.of_leaves (Task.leaves_of_mem_branches ht)).todoLead_le).trans
          (Nat.mul_le_mul_right bound (Task.length_branches_le spot shift todo p))
      have hpos := todoLead_pos ((p, shift) :: todo)
      rw [Task.step_of_unmade hid hmade]
      simp only [stepsLeft, Task.totalLead_append, Task.totalLead_cons]
      rw [← hunmade, Nat.mul_succ]
      omega

/-- A task takes a step at least. -/
theorem one_le_stepsLeft (task : Task) :
    1 ≤ stepsLeft bound choices start made (task :: tasks) := by
  have h := todoLead_pos task.todo
  rw [stepsLeft, Task.totalLead_cons]
  omega

theorem runTasks_nil (steps : Nat) (made : Made) : runTasks steps made [] = (none, made) := by
  cases steps <;> rfl

theorem runTasks_succ (steps : Nat) (made : Made) (spot : Spot) (p : Plan) (shift : Nat)
    (todo : Todo) (tasks : List Task) :
    runTasks (steps + 1) made (⟨spot, (p, shift) :: todo⟩ :: tasks) =
      runTasks steps (Task.step made spot shift todo tasks p).2
        (Task.step made spot shift todo tasks p).1 := rfl

/-- The answer does not depend on the number of steps, as long as there are enough: both searches
take the same steps, and they come to an end before either number is used up. -/
theorem runTasks_congr (hw : ∀ id, w id ≠ none → id < choices)
    (h : ∀ task ∈ tasks, task.Regular w bound start) {m n : Nat}
    (hm : stepsLeft bound choices start made tasks ≤ m)
    (hn : stepsLeft bound choices start made tasks ≤ n) :
    runTasks m made tasks = runTasks n made tasks := by
  induction m generalizing n made tasks with
  | zero =>
    cases tasks with
    | nil => rw [runTasks_nil, runTasks_nil]
    | cons task tasks => exact absurd ((one_le_stepsLeft task).trans hm) (by omega)
  | succ m ih =>
    cases tasks with
    | nil => rw [runTasks_nil, runTasks_nil]
    | cons task tasks =>
      obtain ⟨n, rfl⟩ : ∃ k, n = k + 1 :=
        Nat.exists_eq_add_of_le' ((one_le_stepsLeft task).trans hn)
      obtain ⟨spot, todo⟩ := task
      cases todo with
      | nil => rfl
      | cons x todo =>
        obtain ⟨p, shift⟩ := x
        have hstep := stepsLeft_step hw (h _ List.mem_cons_self) made tasks
        rw [runTasks_succ, runTasks_succ]
        exact ih (fun _ ht => Task.regular_of_mem_step h ht) (by omega) (by omega)

end Search

/-- The one task at the start of a search. -/
theorem Task.regular_start {e : Expr} {w : Wiring} (hwired : e.plan.Wired w 0 []) (s : Spot) :
    Task.Regular w (e.plan.size + 1) s ⟨s, [(e.plan, 0)]⟩ :=
  ⟨⟨hwired, trivial⟩, ⟨Nat.le_refl _, Nat.le_add_left 1 _⟩, .refl s⟩

/-- **A search has enough steps.** -/
theorem stepsLeft_start_le (e : Expr) (made : Made) (s : Spot) :
    stepsLeft (e.plan.size + 1) e.choices s made [⟨s, [(e.plan, 0)]⟩]
      ≤ e.matcher.enoughSteps s.rest.length := by
  have hlead := e.plan.lead_le 1
  have hunmade := made.unmade_le s.index (s.index + s.rest.length) e.choices
  rw [show s.index + s.rest.length + 1 - s.index = s.rest.length + 1 by omega] at hunmade
  have hmul := Nat.mul_le_mul_left (2 * (e.plan.size + 1)) hunmade
  show e.plan.lead 1 + 0 + _ ≤ (2 * e.choices * (s.rest.length + 1) + 1) * (e.plan.size + 2)
  calc e.plan.lead 1 + 0 + _
      ≤ (e.plan.size + 1) + 2 * (e.plan.size + 1) * ((s.rest.length + 1) * e.choices) :=
        Nat.add_le_add hlead hmul
    _ = (2 * e.choices * (s.rest.length + 1) + 1) * (e.plan.size + 1) := by ring
    _ ≤ (2 * e.choices * (s.rest.length + 1) + 1) * (e.plan.size + 2) :=
        Nat.mul_le_mul_left _ (Nat.le_succ _)

/-- The match at a place is found by any search that is long enough. -/
theorem Expr.matchAt_eq_runTasks {e : Expr} (he : e.wellCounted = true) (made : Made) (s : Spot)
    {steps : Nat} (hsteps : e.matcher.enoughSteps s.rest.length ≤ steps) :
    e.matcher.matchAt made s = runTasks steps made [⟨s, [(e.plan, 0)]⟩] := by
  obtain ⟨w, hwired, hw⟩ := exists_wiring he
  have h := stepsLeft_start_le e made s
  refine runTasks_congr hw (fun task ht => ?_) h (h.trans hsteps)
  rw [List.mem_singleton.1 ht]
  exact Task.regular_start hwired s

end EditorMode.Regex
