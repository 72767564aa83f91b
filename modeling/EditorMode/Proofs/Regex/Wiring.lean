import EditorMode.Regex.Search
import Mathlib.Data.List.Basic

/-!
# Steps of the search, and where the numbers of choices belong

A step of the search follows the first plan of a task.  Apart from the record of choices it leaves
one task, none, or the two tasks of a choice, the preferred one first: these are the
`Task.branches`.  `Task.step_eq` says what the record adds to this: a choice that has been made
before leaves nothing.

For this to be right, the number of a choice has to tell where in the pattern it stands, that is,
which plans are to be followed from there.  A `Wiring` assigns these plans to the numbers, and
`Plan.Wired` says that a plan keeps to it.  Every numbered expression does
(`Expr.exists_wiring`): no two of its choices have the same number.
-/

set_option autoImplicit false

namespace EditorMode.Regex

/-- Plans to follow one after the other, each with the shift of its numbers. -/
abbrev Todo := List (Plan × Nat)

/-! ## Steps without the record of choices

The branches of a plan depend on the place and on what comes after the plan, but not on the record.
`Leaves` forgets the place as well: it has one case for each way of going on, which is what the
properties of plans are proved by. -/

/-- The number of the choice that a plan starts with, if it does. -/
def Plan.choiceId? (shift : Nat) : Plan → Option Nat
  | .choice id _ _ => some (id + shift)
  | .star id _ _ => some (id + shift)
  | .counted id 0 (_ + 1) _ _ _ => some (id + shift)
  | _ => none

namespace Task

/-- Two tasks at a place, the first one first if greedy. -/
def ordered (greedy : Bool) (spot : Spot) (first second : Todo) : List Task :=
  if greedy then [⟨spot, first⟩, ⟨spot, second⟩] else [⟨spot, second⟩, ⟨spot, first⟩]

/-- The tasks that a plan at the start of a task leaves. -/
def branches (spot : Spot) (shift : Nat) (todo : Todo) : Plan → List Task
  | .empty => [⟨spot, todo⟩]
  | .literal text => (spot.readText text).toList.map (⟨·, todo⟩)
  | .chars set => (spot.read set).toList.map (⟨·, todo⟩)
  | .check a => if a.holds spot.previous spot.rest.head? then [⟨spot, todo⟩] else []
  | .seq a b => [⟨spot, (a, shift) :: (b, shift) :: todo⟩]
  | .choice _ a b => [⟨spot, (a, shift) :: todo⟩, ⟨spot, (b, shift) :: todo⟩]
  | .star id greedy body =>
    ordered greedy spot ((body, shift) :: (.star id greedy body, shift) :: todo) todo
  | .plus id greedy body => [⟨spot, (body, shift) :: (.star id greedy body, shift) :: todo⟩]
  | .atLeast id 0 _ greedy body => [⟨spot, (.plus id greedy body, shift) :: todo⟩]
  | .atLeast id (count + 1) stride greedy body =>
    [⟨spot, (body, shift) :: (.atLeast id count stride greedy body, shift + stride) :: todo⟩]
  | .counted id (count + 1) more stride greedy body =>
    [⟨spot, (body, shift) :: (.counted id count more stride greedy body, shift + stride) :: todo⟩]
  | .counted _ 0 0 _ _ _ => [⟨spot, todo⟩]
  | .counted id 0 (more + 1) stride greedy body =>
    ordered greedy spot
      ((body, shift) :: (.counted id 0 more stride greedy body, shift + stride) :: todo) todo

/-- **What the record of choices adds to a step**: a choice that has been made at this place leaves
nothing, and one that has not is recorded. -/
theorem step_eq (made : Made) (spot : Spot) (shift : Nat) (todo : Todo) (tasks : List Task)
    (p : Plan) :
    step made spot shift todo tasks p =
      match p.choiceId? shift with
      | none => (branches spot shift todo p ++ tasks, made)
      | some id =>
        if made.contains spot.index id then (tasks, made)
        else (branches spot shift todo p ++ tasks, made.insert spot.index id) := by
  cases p with
  | empty => rfl
  | literal text =>
    rw [step]
    cases h : spot.readText text <;> simp [branches, Plan.choiceId?, h]
  | chars set =>
    rw [step]
    cases h : spot.read set <;> simp [branches, Plan.choiceId?, h]
  | check a =>
    rw [step]
    split
    · rename_i h
      simp [branches, Plan.choiceId?, h]
    · rename_i h
      simp [branches, Plan.choiceId?, h]
  | seq a b => rfl
  | choice id a b => rfl
  | star id greedy body => cases greedy <;> rfl
  | plus id greedy body => rfl
  | atLeast id count stride greedy body => cases count <;> rfl
  | counted id count more stride greedy body =>
    cases count with
    | succ count => rfl
    | zero =>
      cases more with
      | zero => rfl
      | succ more => cases greedy <;> rfl

/-! The three cases of a step, by the choice that its plan starts with. -/

section Record

variable {made : Made} {spot : Spot} {shift id : Nat} {p : Plan}

theorem step_of_no_choice (hid : p.choiceId? shift = none) (todo : Todo) (tasks : List Task) :
    step made spot shift todo tasks p = (branches spot shift todo p ++ tasks, made) := by
  rw [step_eq, hid]

theorem step_of_made (hid : p.choiceId? shift = some id)
    (hmade : made.contains spot.index id = true) (todo : Todo) (tasks : List Task) :
    step made spot shift todo tasks p = (tasks, made) := by
  rw [step_eq, hid]
  exact if_pos hmade

theorem step_of_unmade (hid : p.choiceId? shift = some id)
    (hmade : made.contains spot.index id = false) (todo : Todo) (tasks : List Task) :
    step made spot shift todo tasks p =
      (branches spot shift todo p ++ tasks, made.insert spot.index id) := by
  rw [step_eq, hid]
  exact if_neg (Bool.eq_false_iff.1 hmade)

end Record

end Task

/-- The plans that can be left to follow after a step of the plan `p`, which `todo` comes after. -/
inductive Leaves (shift : Nat) (todo : Todo) : Plan → Todo → Prop
  | empty : Leaves shift todo .empty todo
  | literal {text : List Char} : Leaves shift todo (.literal text) todo
  | chars {set : CharSet} : Leaves shift todo (.chars set) todo
  | check {a : Assertion} : Leaves shift todo (.check a) todo
  | seq {a b : Plan} : Leaves shift todo (.seq a b) ((a, shift) :: (b, shift) :: todo)
  | first {id : Nat} {a b : Plan} : Leaves shift todo (.choice id a b) ((a, shift) :: todo)
  | second {id : Nat} {a b : Plan} : Leaves shift todo (.choice id a b) ((b, shift) :: todo)
  | round {id : Nat} {greedy : Bool} {body : Plan} :
    Leaves shift todo (.star id greedy body)
      ((body, shift) :: (.star id greedy body, shift) :: todo)
  | leave {id : Nat} {greedy : Bool} {body : Plan} : Leaves shift todo (.star id greedy body) todo
  | plus {id : Nat} {greedy : Bool} {body : Plan} :
    Leaves shift todo (.plus id greedy body)
      ((body, shift) :: (.star id greedy body, shift) :: todo)
  | atLeastZero {id stride : Nat} {greedy : Bool} {body : Plan} :
    Leaves shift todo (.atLeast id 0 stride greedy body) ((.plus id greedy body, shift) :: todo)
  | atLeastSucc {id count stride : Nat} {greedy : Bool} {body : Plan} :
    Leaves shift todo (.atLeast id (count + 1) stride greedy body)
      ((body, shift) :: (.atLeast id count stride greedy body, shift + stride) :: todo)
  | countedSucc {id count more stride : Nat} {greedy : Bool} {body : Plan} :
    Leaves shift todo (.counted id (count + 1) more stride greedy body)
      ((body, shift) :: (.counted id count more stride greedy body, shift + stride) :: todo)
  | countedRound {id more stride : Nat} {greedy : Bool} {body : Plan} :
    Leaves shift todo (.counted id 0 (more + 1) stride greedy body)
      ((body, shift) :: (.counted id 0 more stride greedy body, shift + stride) :: todo)
  | countedLeave {id more stride : Nat} {greedy : Bool} {body : Plan} :
    Leaves shift todo (.counted id 0 more stride greedy body) todo

namespace Task

@[simp]
theorem mem_ordered {greedy : Bool} {spot : Spot} {first second : Todo} {task : Task} :
    task ∈ ordered greedy spot first second ↔ task = ⟨spot, first⟩ ∨ task = ⟨spot, second⟩ := by
  cases greedy
  · rw [ordered, if_neg Bool.false_ne_true, List.mem_pair, or_comm]
  · rw [ordered, if_pos rfl, List.mem_pair]

/-- What a task that is left has to follow. -/
theorem leaves_of_mem_branches {spot : Spot} {shift : Nat} {todo : Todo} {p : Plan} {task : Task}
    (ht : task ∈ branches spot shift todo p) : Leaves shift todo p task.todo := by
  cases p with
  | empty =>
    rw [List.mem_singleton.1 ht]
    exact .empty
  | literal text =>
    obtain ⟨t, -, rfl⟩ := List.mem_map.1 ht
    exact .literal
  | chars set =>
    obtain ⟨t, -, rfl⟩ := List.mem_map.1 ht
    exact .chars
  | check a =>
    rw [branches] at ht
    split at ht
    · rw [List.mem_singleton.1 ht]
      exact .check
    · exact absurd ht List.not_mem_nil
  | seq a b =>
    rw [List.mem_singleton.1 ht]
    exact .seq
  | choice id a b =>
    rcases List.mem_pair.1 ht with rfl | rfl
    · exact .first
    · exact .second
  | star id greedy body =>
    rcases mem_ordered.1 ht with rfl | rfl
    · exact .round
    · exact .leave
  | plus id greedy body =>
    rw [List.mem_singleton.1 ht]
    exact .plus
  | atLeast id count stride greedy body =>
    cases count with
    | zero =>
      rw [List.mem_singleton.1 ht]
      exact .atLeastZero
    | succ count =>
      rw [List.mem_singleton.1 ht]
      exact .atLeastSucc
  | counted id count more stride greedy body =>
    cases count with
    | succ count =>
      rw [List.mem_singleton.1 ht]
      exact .countedSucc
    | zero =>
      cases more with
      | zero =>
        rw [List.mem_singleton.1 ht]
        exact .countedLeave
      | succ more =>
        rcases mem_ordered.1 ht with rfl | rfl
        · exact .countedRound
        · exact .countedLeave

end Task

/-! ## Wirings

A copy of a repeated plan has the numbers of the first one, shifted by its stride, so a number
belongs to a plan together with its shift. -/

/-- For the number of a choice, the plans to follow from there, that of the choice first. -/
abbrev Wiring := Nat → Option Todo

/-- The choices of the plan, followed by `todo`, are those that the wiring has for their numbers. -/
def Plan.Wired (w : Wiring) : Plan → Nat → Todo → Prop
  | .empty, _, _ => True
  | .literal _, _, _ => True
  | .chars _, _, _ => True
  | .check _, _, _ => True
  | .seq a b, shift, todo => a.Wired w shift ((b, shift) :: todo) ∧ b.Wired w shift todo
  | .choice id a b, shift, todo =>
    w (id + shift) = some ((.choice id a b, shift) :: todo) ∧
      a.Wired w shift todo ∧ b.Wired w shift todo
  | .star id greedy body, shift, todo =>
    w (id + shift) = some ((.star id greedy body, shift) :: todo) ∧
      body.Wired w shift ((.star id greedy body, shift) :: todo)
  | .plus id greedy body, shift, todo =>
    w (id + shift) = some ((.star id greedy body, shift) :: todo) ∧
      body.Wired w shift ((.star id greedy body, shift) :: todo)
  | .atLeast id 0 _ greedy body, shift, todo =>
    w (id + shift) = some ((.star id greedy body, shift) :: todo) ∧
      body.Wired w shift ((.star id greedy body, shift) :: todo)
  | .atLeast id (count + 1) stride greedy body, shift, todo =>
    body.Wired w shift ((.atLeast id count stride greedy body, shift + stride) :: todo) ∧
      Wired w (.atLeast id count stride greedy body) (shift + stride) todo
  | .counted id (count + 1) more stride greedy body, shift, todo =>
    body.Wired w shift ((.counted id count more stride greedy body, shift + stride) :: todo) ∧
      Wired w (.counted id count more stride greedy body) (shift + stride) todo
  | .counted _ 0 0 _ _ _, _, _ => True
  | .counted id 0 (more + 1) stride greedy body, shift, todo =>
    w (id + shift) = some ((.counted id 0 (more + 1) stride greedy body, shift) :: todo) ∧
      body.Wired w shift ((.counted id 0 more stride greedy body, shift + stride) :: todo) ∧
      Wired w (.counted id 0 more stride greedy body) (shift + stride) todo
termination_by p => p.size
decreasing_by all_goals simp only [Plan.size, Nat.succ_mul, Nat.add_mul]; omega

/-- Each of the plans is wired, with those after it to follow. -/
def TodoWired (w : Wiring) : Todo → Prop
  | [] => True
  | (p, shift) :: todo => p.Wired w shift todo ∧ TodoWired w todo

/-- What is left to follow is wired as it was before the step. -/
theorem TodoWired.of_leaves {w : Wiring} {shift : Nat} {todo : Todo} {p : Plan}
    (hp : TodoWired w ((p, shift) :: todo)) {left : Todo} (h : Leaves shift todo p left) :
    TodoWired w left := by
  obtain ⟨hp, htodo⟩ := hp
  cases h with
  | empty => exact htodo
  | literal => exact htodo
  | chars => exact htodo
  | check => exact htodo
  | seq =>
    rw [Plan.Wired] at hp
    exact ⟨hp.1, hp.2, htodo⟩
  | first =>
    rw [Plan.Wired] at hp
    exact ⟨hp.2.1, htodo⟩
  | second =>
    rw [Plan.Wired] at hp
    exact ⟨hp.2.2, htodo⟩
  | round =>
    -- The loop is followed by itself, so it is needed both opened and as it is.
    have hbody := hp
    rw [Plan.Wired] at hbody
    exact ⟨hbody.2, hp, htodo⟩
  | leave => exact htodo
  | plus =>
    rw [Plan.Wired] at hp
    refine ⟨hp.2, ?_, htodo⟩
    rw [Plan.Wired]
    exact hp
  | atLeastZero =>
    rw [Plan.Wired] at hp
    refine ⟨?_, htodo⟩
    rw [Plan.Wired]
    exact hp
  | atLeastSucc =>
    rw [Plan.Wired] at hp
    exact ⟨hp.1, hp.2, htodo⟩
  | countedSucc =>
    rw [Plan.Wired] at hp
    exact ⟨hp.1, hp.2, htodo⟩
  | countedRound =>
    rw [Plan.Wired] at hp
    exact ⟨hp.2.1, hp.2.2, htodo⟩
  | countedLeave => exact htodo

/-- The number of a choice tells what is to be followed from there. -/
theorem Plan.Wired.eq_of_choiceId? {w : Wiring} {p : Plan} {shift id : Nat} {todo : Todo}
    (hp : p.Wired w shift todo) (hid : p.choiceId? shift = some id) :
    w id = some ((p, shift) :: todo) := by
  cases p with
  | choice i a b =>
    rw [Plan.Wired] at hp
    exact Option.some.inj hid ▸ hp.1
  | star i greedy body =>
    rw [Plan.Wired] at hp
    exact Option.some.inj hid ▸ hp.1
  | counted i count more stride greedy body =>
    cases count with
    | succ count => cases hid
    | zero =>
      cases more with
      | zero => cases hid
      | succ more =>
        rw [Plan.Wired] at hp
        exact Option.some.inj hid ▸ hp.1
  | _ => cases hid

/-! ## Every numbered expression is wired

The numbers of an expression are an interval, and those of its parts are intervals next to each
other.  So a wiring is put together from the wirings of the parts.  To put two of them together
without changing either, what is said of a part has to hold for all wirings that agree on its
interval: this is what `Arrangeable` says. -/

/-- A condition on wirings that some choice of plans for the numbers from `first` up to, but
without, `last` is enough for. -/
def Arrangeable (first last : Nat) (P : Wiring → Prop) : Prop :=
  ∃ w : Wiring, ∀ v : Wiring, (∀ i, first ≤ i → i < last → v i = w i) → P v

namespace Arrangeable

variable {first middle last : Nat} {P Q : Wiring → Prop}

theorem of_forall (h : ∀ v, P v) : Arrangeable first last P := ⟨fun _ => none, fun v _ => h v⟩

theorem imp (hP : Arrangeable first last P) (h : ∀ v, P v → Q v) : Arrangeable first last Q := by
  obtain ⟨w, hw⟩ := hP
  exact ⟨w, fun v hv => h v (hw v hv)⟩

theorem mono {first' last' : Nat} (hP : Arrangeable first last P) (hfirst : first' ≤ first)
    (hlast : last ≤ last') : Arrangeable first' last' P := by
  obtain ⟨w, hw⟩ := hP
  exact ⟨w, fun v hv => hw v fun i hi hl =>
    hv i (Nat.le_trans hfirst hi) (Nat.lt_of_lt_of_le hl hlast)⟩

/-- Conditions on different numbers can be met together. -/
theorem both (hP : Arrangeable first middle P) (hQ : Arrangeable middle last Q)
    (hfirst : first ≤ middle) (hlast : middle ≤ last) :
    Arrangeable first last fun v => P v ∧ Q v := by
  obtain ⟨wP, hwP⟩ := hP
  obtain ⟨wQ, hwQ⟩ := hQ
  refine ⟨fun i => if i < middle then wP i else wQ i, fun v hv => ⟨hwP v ?_, hwQ v ?_⟩⟩
  · intro i hi hm
    exact (hv i hi (Nat.lt_of_lt_of_le hm hlast)).trans (if_pos hm)
  · intro i hm hi
    exact (hv i (Nat.le_trans hfirst hm) hi).trans (if_neg (Nat.not_lt.2 hm))

/-- The plans for a single number can be chosen. -/
theorem single (id : Nat) (todo : Todo) : Arrangeable id (id + 1) fun v => v id = some todo :=
  ⟨fun _ => some todo, fun _ hv => hv id (Nat.le_refl id) (Nat.lt_succ_self id)⟩

end Arrangeable

/-- Every repetition with a limit has a limit that it can reach. -/
def Expr.wellCounted : Expr → Bool
  | .group _ body => body.wellCounted
  | .times body least most _ => body.wellCounted && most.all (least ≤ ·)
  | .seq a b => a.wellCounted && b.wellCounted
  | .alt a b => a.wellCounted && b.wellCounted
  | _ => true

/-- Numbers are only ever used up. -/
theorem Expr.le_number (e : Expr) (id : Nat) : id ≤ (e.number id).2 := by
  induction e generalizing id with
  | group index body ih => exact ih id
  | times body least most greedy ih =>
    cases most with
    | some most =>
      rw [number]
      exact Nat.le_add_right _ _
    | none =>
      cases least with
      | zero =>
        have h := ih id
        rw [number]
        split
        · exact Nat.le_succ_of_le h
        · exact Nat.le_add_right_of_le h
      | succ least => exact Nat.le_add_right _ _
  | seq a b iha ihb => exact Nat.le_trans (iha id) (ihb _)
  | alt a b iha ihb => exact Nat.le_trans (Nat.le_trans (Nat.le_succ id) (iha _)) (ihb _)
  | _ => exact Nat.le_refl id

/-! For the repetitions, `first` and `last` are the ends of the interval of the body in its first
round.  The number `last` itself is that of the choice after the round. -/

section Rounds

variable {body : Plan} {first last stride : Nat}

/-- The choices of a repetition without limit: those of each round, and one between another round
and going on. -/
theorem arrangeable_atLeast (hstride : first + stride = last + 1)
    (hbody : ∀ shift todo, Arrangeable (first + shift) (last + shift) (body.Wired · shift todo))
    (hle : first ≤ last) (greedy : Bool) (count shift : Nat) (todo : Todo) :
    Arrangeable (first + shift) (first + shift + (count + 1) * stride)
      (Plan.Wired · (.atLeast last count stride greedy body) shift todo) := by
  induction count generalizing shift with
  | zero =>
    have h := (hbody shift ((.star last greedy body, shift) :: todo)).both
      (.single (last + shift) ((.star last greedy body, shift) :: todo)) (by omega) (by omega)
    rw [show first + shift + (0 + 1) * stride = last + shift + 1 by omega]
    refine h.imp fun v hv => ?_
    rw [Plan.Wired]
    exact ⟨hv.2, hv.1⟩
  | succ count ih =>
    -- The choice after a round that has to be made is never met: its number stays free.
    have hround := (hbody shift
        ((.atLeast last count stride greedy body, shift + stride) :: todo)).mono
      (Nat.le_refl _) (show last + shift ≤ first + (shift + stride) by omega)
    have h := hround.both (ih (shift + stride)) (by omega) (by omega)
    rw [show first + shift + (count + 1 + 1) * stride
      = first + (shift + stride) + (count + 1) * stride by rw [Nat.succ_mul (count + 1)]; omega]
    refine h.imp fun v hv => ?_
    rw [Plan.Wired]
    exact hv

/-- The choices of a repetition with a limit. -/
theorem arrangeable_counted (hstride : first + stride = last + 1)
    (hbody : ∀ shift todo, Arrangeable (first + shift) (last + shift) (body.Wired · shift todo))
    (hle : first ≤ last) (greedy : Bool) (count more shift : Nat) (todo : Todo) :
    Arrangeable (first + shift) (first + shift + (count + more) * stride)
      (Plan.Wired · (.counted last count more stride greedy body) shift todo) := by
  -- First the rounds that have to be made, then those that may be.
  induction count generalizing shift with
  | succ count ih =>
    have hround := (hbody shift
        ((.counted last count more stride greedy body, shift + stride) :: todo)).mono
      (Nat.le_refl _) (show last + shift ≤ first + (shift + stride) by omega)
    have h := hround.both (ih (shift + stride)) (by omega) (by omega)
    rw [show first + shift + (count + 1 + more) * stride
      = first + (shift + stride) + (count + more) * stride by
        rw [Nat.add_right_comm count 1 more, Nat.succ_mul]; omega]
    refine h.imp fun v hv => ?_
    rw [Plan.Wired]
    exact hv
  | zero =>
    induction more generalizing shift with
    | zero =>
      exact .of_forall fun v => by simp [Plan.Wired]
    | succ more ih =>
      let rest : Todo := (.counted last 0 more stride greedy body, shift + stride) :: todo
      let here : Todo := (.counted last 0 (more + 1) stride greedy body, shift) :: todo
      have hround := (hbody shift rest).both (.single (last + shift) here) (by omega) (by omega)
      have h := (hround.mono (Nat.le_refl _)
        (show last + shift + 1 ≤ first + (shift + stride) by omega)).both
        (ih (shift + stride)) (by omega) (by omega)
      rw [show first + shift + (0 + (more + 1)) * stride
        = first + (shift + stride) + (0 + more) * stride by
          rw [← Nat.add_assoc, Nat.succ_mul]; omega]
      refine h.imp fun v hv => ?_
      rw [Plan.Wired]
      exact ⟨hv.1.2, hv.1.1, hv.2⟩

/-- The choices of a repetition that may be skipped and has a first round before its loop. -/
theorem arrangeable_maybe
    (hbody : ∀ shift todo, Arrangeable (first + shift) (last + shift) (body.Wired · shift todo))
    (hle : first ≤ last) (greedy : Bool) (shift : Nat) (todo : Todo) :
    Arrangeable (first + shift) (last + 2 + shift)
      (Plan.Wired · (.maybe last greedy (.plus (last + 1) greedy body)) shift todo) := by
  let loop : Todo := (.star (last + 1) greedy body, shift) :: todo
  let here : Todo := (.maybe last greedy (.plus (last + 1) greedy body), shift) :: todo
  have h := ((hbody shift loop).both (.single (last + shift) here) (by omega) (by omega)).both
    (.single (last + shift + 1) loop) (by omega) (by omega)
  rw [show last + 2 + shift = last + shift + 1 + 1 by omega]
  refine h.imp fun v hv => ?_
  rw [Nat.add_right_comm last shift 1] at hv
  have hplus : Plan.Wired v (.plus (last + 1) greedy body) shift todo := by
    rw [Plan.Wired]
    exact ⟨hv.2, hv.1.1⟩
  have hempty : Plan.Wired v .empty shift todo := by simp [Plan.Wired]
  have hhere := hv.1.2
  cases greedy
  · show Plan.Wired v (.choice last .empty (.plus (last + 1) false body)) shift todo
    rw [Plan.Wired]
    exact ⟨hhere, hempty, hplus⟩
  · show Plan.Wired v (.choice last (.plus (last + 1) true body) .empty) shift todo
    rw [Plan.Wired]
    exact ⟨hhere, hplus, hempty⟩

end Rounds

/-- The choices of a numbered expression have the numbers from `id` up to the next free one, and no
two of them share one. -/
theorem Expr.arrangeable_number {e : Expr} (he : e.wellCounted = true) (id shift : Nat)
    (todo : Todo) :
    Arrangeable (id + shift) ((e.number id).2 + shift) ((e.number id).1.Wired · shift todo) := by
  induction e generalizing id shift todo with
  | group index body ih => exact ih he id shift todo
  | times body least most greedy ih =>
    rw [wellCounted, Bool.and_eq_true] at he
    have hle := body.le_number id
    have hbody := fun shift todo => ih he.1 id shift todo
    have hstride : id + ((body.number id).2 + 1 - id) = (body.number id).2 + 1 := by omega
    cases most with
    | some most =>
      have hmost : least ≤ most := by simpa using he.2
      have h := arrangeable_counted hstride hbody hle greedy least (most - least) shift todo
      rw [Nat.add_sub_cancel' hmost] at h
      rw [number, Nat.add_right_comm]
      exact h
    | none =>
      cases least with
      | zero =>
        rw [number]
        split
        · -- The body uses up text, so the repetition is a loop and nothing else.
          let here : Todo := (.star (body.number id).2 greedy (body.number id).1, shift) :: todo
          have h := (hbody shift here).both (.single ((body.number id).2 + shift) here)
            (by omega) (by omega)
          rw [Nat.add_right_comm]
          refine h.imp fun v hv => ?_
          rw [Plan.Wired]
          exact ⟨hv.2, hv.1⟩
        · exact arrangeable_maybe hbody hle greedy shift todo
      | succ least =>
        have h := arrangeable_atLeast hstride hbody hle greedy least shift todo
        rw [number, Nat.add_right_comm]
        exact h
  | seq a b iha ihb =>
    rw [wellCounted, Bool.and_eq_true] at he
    have ha := a.le_number id
    have hb := b.le_number (a.number id).2
    have h := (iha he.1 id shift (((b.number (a.number id).2).1, shift) :: todo)).both
      (ihb he.2 (a.number id).2 shift todo) (by omega) (by omega)
    refine h.imp fun v hv => ?_
    rw [number, Plan.Wired]
    exact hv
  | alt a b iha ihb =>
    rw [wellCounted, Bool.and_eq_true] at he
    have ha := a.le_number (id + 1)
    have hb := b.le_number (a.number (id + 1)).2
    have hboth := (iha he.1 (id + 1) shift todo).both
      (ihb he.2 (a.number (id + 1)).2 shift todo) (by omega) (by omega)
    rw [Nat.add_right_comm id 1 shift] at hboth
    let here : Todo := (((Expr.alt a b).number id).1, shift) :: todo
    have h := (Arrangeable.single (id + shift) here).both hboth (by omega) (by omega)
    refine h.imp fun v hv => ?_
    rw [number, Plan.Wired]
    exact hv
  | _ =>
    exact .of_forall fun v => by simp [number, Plan.Wired]

/-- **Every numbered expression is wired**, and only the numbers of its choices belong to plans. -/
theorem Expr.exists_wiring {e : Expr} (he : e.wellCounted = true) :
    ∃ w : Wiring, e.plan.Wired w 0 [] ∧ ∀ id, w id ≠ none → id < e.choices := by
  obtain ⟨w, hw⟩ := arrangeable_number he 0 0 []
  -- What the wiring says of other numbers is of no use, and taken away.
  refine ⟨fun i => if i < e.choices then w i else none, hw _ fun i _ hi => if_pos hi, ?_⟩
  intro id hid
  by_contra h
  exact hid (if_neg h)

end EditorMode.Regex
