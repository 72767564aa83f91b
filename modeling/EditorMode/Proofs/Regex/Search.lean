import EditorMode.Proofs.Regex.Steps

/-!
# The search finds the first way

The search makes no choice twice at the same place of the text.  This file shows that nothing is
lost by it: for an expression whose repetitions use up text in every round, the match that the
search finds is the first of the ways through the expression (`Expr.matchAt_eq_head?_ways`).

When a task comes to a choice for the second time at the same place, the first visit is over and has
found nothing.  It cannot be going on: between two visits of the same choice the text would have to
be used up, or else the plans left to follow would become fewer (`todoWeight`).  `Explored` is the
invariant of the search that says so.
-/

set_option autoImplicit false

namespace EditorMode.Regex

open Spot

/-! ## Plans that use up text

A plan that is `nullable` may come to its end where it began.  The body of a loop in a progressive
plan is not nullable, so that a loop moves on with every round and the search cannot come back to
the choice of the loop at the same place from inside the loop. -/

/-- Whether the plan may have a way that uses up no text. -/
def Plan.nullable : Plan → Bool
  | .empty => true
  | .literal text => text.isEmpty
  | .chars _ => false
  | .check _ => true
  | .seq a b => a.nullable && b.nullable
  | .choice _ a b => a.nullable || b.nullable
  | .star _ _ _ => true
  | .plus _ _ body => body.nullable
  | .atLeast _ _ _ _ body => body.nullable
  | .counted _ count _ _ _ body => count == 0 || body.nullable

/-- Whether every round of a loop uses up text. -/
def Plan.progressive : Plan → Bool
  | .seq a b => a.progressive && b.progressive
  | .choice _ a b => a.progressive && b.progressive
  | .star _ _ body => body.progressive && !body.nullable
  | .plus _ _ body => body.progressive && !body.nullable
  | .atLeast _ _ _ _ body => body.progressive && !body.nullable
  | .counted _ _ _ _ _ body => body.progressive
  | _ => true

/-! Rounds go forward if a single one does, however many there are. -/

section Rounds

variable {round : Spot → List Spot} {greedy : Bool} {count : Nat} {s t : Spot}

theorem ahead_of_mem_loop (hround : ∀ s, ∀ t ∈ round s, s.Ahead t) (ht : t ∈ loop round greedy s) :
    s.Ahead t := by
  -- Another round is only made if the one before it has used up text.
  induction hn : s.rest.length using Nat.strong_induction_on generalizing s with
  | _ n ih =>
    rw [loop, mem_prefer, List.mem_flatMap, List.mem_singleton] at ht
    rcases ht with ⟨u, hu, ht⟩ | rfl
    · split at ht
      · rename_i hlt
        exact (hround s u hu).trans (ih _ (hn ▸ hlt) ht rfl)
      · exact absurd ht List.not_mem_nil
    · exact .refl t

theorem ahead_of_mem_exactly (hround : ∀ s, ∀ t ∈ round s, s.Ahead t)
    (ht : t ∈ exactly round count s) : s.Ahead t := by
  induction count generalizing s with
  | zero => exact List.mem_singleton.1 ht ▸ .refl s
  | succ count ih =>
    obtain ⟨u, hu, ht⟩ := List.mem_flatMap.1 ht
    exact (hround s u hu).trans (ih ht)

theorem ahead_of_mem_upTo (hround : ∀ s, ∀ t ∈ round s, s.Ahead t)
    (ht : t ∈ upTo round greedy count s) : s.Ahead t := by
  induction count generalizing s with
  | zero => exact List.mem_singleton.1 ht ▸ .refl s
  | succ count ih =>
    rw [upTo, mem_prefer, List.mem_singleton] at ht
    rcases ht with ht | rfl
    · obtain ⟨u, hu, ht⟩ := List.mem_flatMap.1 ht
      exact (hround s u hu).trans (ih ht)
    · exact .refl t

end Rounds

/-- Further ahead there is less text left. -/
theorem Spot.Ahead.length_le {s t : Spot} (h : s.Ahead t) : t.rest.length ≤ s.rest.length := by
  have := h.index_add
  omega

/-- The ways through a plan go forward. -/
theorem Plan.ahead_of_mem_ways {p : Plan} {s t : Spot} (ht : t ∈ p.ways s) : s.Ahead t := by
  induction p generalizing s t with
  | empty => exact List.mem_singleton.1 ht ▸ .refl s
  | literal text => exact (ahead_of_readText (Option.mem_toList.1 ht)).1
  | chars set => exact (ahead_of_read (Option.mem_toList.1 ht)).1
  | check a =>
    rw [ways] at ht
    split at ht
    · exact List.mem_singleton.1 ht ▸ .refl s
    · exact absurd ht List.not_mem_nil
  | seq a b iha ihb =>
    obtain ⟨u, hu, ht⟩ := List.mem_flatMap.1 ht
    exact (iha hu).trans (ihb ht)
  | choice id a b iha ihb =>
    rcases List.mem_append.1 ht with ht | ht
    · exact iha ht
    · exact ihb ht
  | star id greedy body ih => exact ahead_of_mem_loop (fun _ _ => ih) ht
  | plus id greedy body ih =>
    obtain ⟨u, hu, ht⟩ := List.mem_flatMap.1 ht
    exact (ih hu).trans (ahead_of_mem_loop (fun _ _ => ih) ht)
  | atLeast id count stride greedy body ih =>
    obtain ⟨u, hu, ht⟩ := List.mem_flatMap.1 ht
    exact (ahead_of_mem_exactly (fun _ _ => ih) hu).trans (ahead_of_mem_loop (fun _ _ => ih) ht)
  | counted id count more stride greedy body ih =>
    obtain ⟨u, hu, ht⟩ := List.mem_flatMap.1 ht
    exact (ahead_of_mem_exactly (fun _ _ => ih) hu).trans (ahead_of_mem_upTo (fun _ _ => ih) ht)

/-- A plan that is not nullable uses up text. -/
theorem Plan.length_lt_of_mem_ways {p : Plan} (hp : p.nullable = false) {s t : Spot}
    (ht : t ∈ p.ways s) : t.rest.length < s.rest.length := by
  induction p generalizing s t with
  | empty => cases hp
  | literal text =>
    obtain ⟨-, hlen⟩ := ahead_of_readText (Option.mem_toList.1 ht)
    have hne : text ≠ [] := by
      rintro rfl
      cases hp
    have := List.length_pos_iff.2 hne
    omega
  | chars set => exact (ahead_of_read (Option.mem_toList.1 ht)).2
  | check a => cases hp
  | seq a b iha ihb =>
    obtain ⟨u, hu, ht⟩ := List.mem_flatMap.1 ht
    have ha := (ahead_of_mem_ways hu).length_le
    have hb := (ahead_of_mem_ways ht).length_le
    rw [nullable, Bool.and_eq_false_iff] at hp
    rcases hp with hp | hp
    · exact Nat.lt_of_le_of_lt hb (iha hp hu)
    · exact Nat.lt_of_lt_of_le (ihb hp ht) ha
  | choice id a b iha ihb =>
    rw [nullable, Bool.or_eq_false_iff] at hp
    rcases List.mem_append.1 ht with ht | ht
    · exact iha hp.1 ht
    · exact ihb hp.2 ht
  | star id greedy body ih => cases hp
  | plus id greedy body ih =>
    obtain ⟨u, hu, ht⟩ := List.mem_flatMap.1 ht
    exact Nat.lt_of_le_of_lt (ahead_of_mem_loop (fun _ _ => ahead_of_mem_ways) ht).length_le
      (ih hp hu)
  | atLeast id count stride greedy body ih =>
    obtain ⟨u, hu, ht⟩ := List.mem_flatMap.1 ht
    obtain ⟨v, hv, hu⟩ := List.mem_flatMap.1 hu
    have h1 := (ahead_of_mem_loop (fun _ _ => ahead_of_mem_ways) ht).length_le
    have h2 := (ahead_of_mem_exactly (fun _ _ => ahead_of_mem_ways) hu).length_le
    exact Nat.lt_of_le_of_lt (h1.trans h2) (ih hp hv)
  | counted id count more stride greedy body ih =>
    rw [nullable, Bool.or_eq_false_iff, beq_eq_false_iff_ne] at hp
    obtain ⟨count, rfl⟩ := Nat.exists_eq_succ_of_ne_zero hp.1
    obtain ⟨u, hu, ht⟩ := List.mem_flatMap.1 ht
    obtain ⟨v, hv, hu⟩ := List.mem_flatMap.1 hu
    have h1 := (ahead_of_mem_upTo (fun _ _ => ahead_of_mem_ways) ht).length_le
    have h2 := (ahead_of_mem_exactly (fun _ _ => ahead_of_mem_ways) hu).length_le
    exact Nat.lt_of_le_of_lt (h1.trans h2) (ih hp.2 hv)

/-- An expression every match of which is known to have a character is not nullable. -/
theorem Expr.nullable_number {e : Expr} (he : e.consumes = true) (id : Nat) :
    (e.number id).1.nullable = false := by
  rw [consumes, Option.any_eq_true] at he
  obtain ⟨n, hn, hpos⟩ := he
  replace hpos := of_decide_eq_true hpos
  induction e generalizing id n with
  | empty => exact absurd (Option.some.inj hn) (by omega)
  | literal text =>
    cases text with
    | nil => exact absurd (Option.some.inj hn) (by simp; omega)
    | cons c text => rfl
  | chars set | asciiChars set => rfl
  | check a => exact absurd (Option.some.inj hn) (by omega)
  | group index body ih => exact ih id n hn hpos
  | times body least most greedy ih =>
    obtain ⟨m, hm, rfl⟩ := Option.map_eq_some_iff.1 hn
    have hleast : 0 < least := Nat.pos_of_mul_pos_right hpos
    have hbody := ih id m hm (Nat.pos_of_mul_pos_left hpos)
    cases most with
    | some most =>
      rw [number]
      exact Bool.or_eq_false_iff.2 ⟨beq_eq_false_iff_ne.2 hleast.ne', hbody⟩
    | none =>
      obtain ⟨least, rfl⟩ := Nat.exists_eq_succ_of_ne_zero hleast.ne'
      exact hbody
  | seq a b iha ihb =>
    obtain ⟨m, hm, k, hk, rfl⟩ : ∃ m, a.minLength = some m ∧ ∃ k, b.minLength = some k ∧
        m + k = n := by simpa [minLength, Option.bind_eq_some_iff] using hn
    rw [number]
    refine Bool.and_eq_false_iff.2 ?_
    rcases Nat.eq_zero_or_pos m with rfl | hm0
    · exact .inr (ihb _ k hk (by omega))
    · exact .inl (iha _ m hm hm0)
  | alt a b iha ihb =>
    obtain ⟨m, hm, k, hk, rfl⟩ : ∃ m, a.minLength = some m ∧ ∃ k, b.minLength = some k ∧
        min m k = n := by simpa [minLength, Option.bind_eq_some_iff] using hn
    rw [number]
    exact Bool.or_eq_false_iff.2 ⟨iha _ m hm (by omega), ihb _ k hk (by omega)⟩

/-- The plan of an expression whose repetitions use up text is progressive. -/
theorem Expr.progressive_number {e : Expr} (he : e.progressive = true) (id : Nat) :
    (e.number id).1.progressive = true := by
  induction e generalizing id with
  | empty => rfl
  | literal text => rfl
  | chars set | asciiChars set => rfl
  | check a => rfl
  | group index body ih => exact ih he id
  | times body least most greedy ih =>
    rw [progressive, Bool.and_eq_true] at he
    obtain ⟨hbody, hmost⟩ := he
    cases most with
    | some most =>
      rw [number]
      exact ih hbody id
    | none =>
      have hc : body.consumes = true := by simpa using hmost
      have hround : ((body.number id).1.progressive && !(body.number id).1.nullable) = true := by
        rw [ih hbody, nullable_number hc, Bool.not_false, Bool.and_self]
      cases least with
      | zero =>
        rw [number, if_pos hc]
        exact hround
      | succ least => exact hround
  | seq a b iha ihb =>
    rw [progressive, Bool.and_eq_true] at he
    rw [number]
    exact Bool.and_eq_true_iff.2 ⟨iha he.1 _, ihb he.2 _⟩
  | alt a b iha ihb =>
    rw [progressive, Bool.and_eq_true] at he
    rw [number]
    exact Bool.and_eq_true_iff.2 ⟨iha he.1 _, ihb he.2 _⟩

/-- The plans to follow are progressive. -/
def TodoProgressive (todo : Todo) : Prop := ∀ x ∈ todo, x.1.progressive = true

@[simp]
theorem todoProgressive_cons {p : Plan} {shift : Nat} {todo : Todo} :
    TodoProgressive ((p, shift) :: todo) ↔ p.progressive = true ∧ TodoProgressive todo :=
  List.forall_mem_cons

/-- What a plan leaves to be done are its own parts, which are progressive like the plan. -/
theorem TodoProgressive.of_leaves {shift : Nat} {todo : Todo} {p : Plan}
    (hp : TodoProgressive ((p, shift) :: todo)) {left : Todo} (h : Leaves shift todo p left) :
    TodoProgressive left := by
  cases h <;> simp_all [Plan.progressive]

/-! ## The ways of a task

The ways through a list of plans are what a task is meant to try.  Without the record of choices, a
step of the search would only spell out the first of the plans: what it leaves has the same ways, in
the same order.  That the record leaves something out is the matter of the last section. -/

/-- The ways through plans that are followed one after the other. -/
def todoWays : Todo → Spot → List Spot
  | [], s => [s]
  | (p, _) :: todo, s => (p.ways s).flatMap (todoWays todo)

/-- Where a task can stop, in order of preference. -/
def Task.ways (task : Task) : List Spot := todoWays task.todo task.spot

/-- What follows a choice follows both of its sides. -/
theorem flatMap_prefer {greedy : Bool} {more stop : List Spot} {f : Spot → List Spot} :
    (prefer greedy more stop).flatMap f = prefer greedy (more.flatMap f) (stop.flatMap f) := by
  cases greedy <;> exact List.flatMap_append

/-- The two tasks of a choice, the preferred one first. -/
theorem Task.flatMap_ways_ordered (greedy : Bool) (spot : Spot) (first second : Todo) :
    (ordered greedy spot first second).flatMap ways =
      prefer greedy (todoWays first spot) (todoWays second spot) := by
  cases greedy <;> simp [ordered, prefer, ways]

/-- A step without the record of choices keeps the ways of the task. -/
theorem Task.flatMap_ways_branches {p : Plan} (hp : p.progressive = true) (spot : Spot)
    (shift : Nat) (todo : Todo) :
    (branches spot shift todo p).flatMap ways = ways ⟨spot, (p, shift) :: todo⟩ := by
  show _ = (p.ways spot).flatMap (todoWays todo)
  cases p with
  | empty => rfl
  | literal text =>
    rw [branches, List.flatMap_map]
    rfl
  | chars set =>
    rw [branches, List.flatMap_map]
    rfl
  | check a =>
    rw [branches, Plan.ways]
    split <;> rfl
  | seq a b =>
    rw [branches, List.flatMap_singleton, Plan.ways, List.flatMap_assoc]
    rfl
  | choice id a b =>
    rw [branches, Plan.ways, List.flatMap_append, List.flatMap_cons, List.flatMap_singleton]
    rfl
  | star id greedy body =>
    -- The ways of a loop leave out rounds without text, of which there are none here.
    rw [Plan.progressive, Bool.and_eq_true, Bool.not_eq_true'] at hp
    rw [branches, flatMap_ways_ordered, Plan.ways,
      loop_eq (fun s t => Plan.length_lt_of_mem_ways hp.2), flatMap_prefer, List.flatMap_assoc,
      List.flatMap_singleton]
    rfl
  | plus id greedy body =>
    rw [branches, List.flatMap_singleton, Plan.ways, List.flatMap_assoc]
    rfl
  | atLeast id count stride greedy body =>
    cases count with
    | zero =>
      rw [branches, List.flatMap_singleton, Plan.ways, exactly_succ, exactly,
        List.flatMap_singleton]
      rfl
    | succ count =>
      simp only [branches, List.flatMap_singleton, ways, todoWays, Plan.ways, exactly,
        List.flatMap_assoc]
  | counted id count more stride greedy body =>
    cases count with
    | succ count =>
      simp only [branches, List.flatMap_singleton, ways, todoWays, Plan.ways, exactly,
        List.flatMap_assoc]
    | zero =>
      cases more with
      | zero => rfl
      | succ more =>
        simp only [branches, flatMap_ways_ordered, todoWays, Plan.ways, exactly,
          List.flatMap_singleton, upTo, flatMap_prefer, List.flatMap_assoc]

/-! ## Between two visits of a choice

The search follows plans that lead back to themselves, so that the plans left to follow may grow.
The weight counts only those that can be reached without using up text, and it becomes smaller with
every step that stays at its place.  A second visit of a choice at the same place would have the
weight of the first one, so it cannot come from the first one. -/

/-- The weight of a plan before plans of the weight `rest`; what can only come after some text has
been used up has no weight. -/
def Plan.weight : Plan → Nat → Nat
  | .empty, rest => rest + 1
  | .literal text, rest => if text.isEmpty then rest + 1 else 1
  | .chars _, _ => 1
  | .check _, rest => rest + 1
  | .seq a b, rest => a.weight (b.weight rest) + 1
  | .choice _ a b, rest => a.weight rest + b.weight rest + 1
  | .star _ _ body, rest => body.weight 0 + rest + 1
  | .plus _ _ body, _ => body.weight 0 + 1
  | .atLeast _ _ _ _ body, _ => body.weight 0 + 2
  | .counted id (count + 1) more stride greedy body, rest =>
    body.weight (weight (.counted id count more stride greedy body) rest) + 1
  | .counted _ 0 0 _ _ _, rest => rest + 1
  | .counted id 0 (more + 1) stride greedy body, rest =>
    body.weight (weight (.counted id 0 more stride greedy body) rest) + rest + 1
termination_by p => p.size
decreasing_by all_goals simp only [Plan.size, Nat.succ_mul, Nat.add_mul]; omega

/-- What comes after a plan that uses up text does not count. -/
theorem Plan.weight_eq_of_nullable {p : Plan} (hp : p.nullable = false) (m n : Nat) :
    p.weight m = p.weight n := by
  induction p generalizing m n with
  | empty => cases hp
  | literal text =>
    rw [nullable] at hp
    rw [weight, weight, hp]
    rfl
  | chars set => rw [weight, weight]
  | check a => cases hp
  | seq a b iha ihb =>
    rw [weight, weight]
    rw [nullable, Bool.and_eq_false_iff] at hp
    rcases hp with hp | hp
    · rw [iha hp]
    · rw [ihb hp m n]
  | choice id a b iha ihb =>
    rw [nullable, Bool.or_eq_false_iff] at hp
    rw [weight, weight, iha hp.1 m n, ihb hp.2 m n]
  | star id greedy body ih => cases hp
  | plus id greedy body ih => rw [weight, weight]
  | atLeast id count stride greedy body ih => rw [weight, weight]
  | counted id count more stride greedy body ih =>
    rw [nullable, Bool.or_eq_false_iff, beq_eq_false_iff_ne] at hp
    obtain ⟨count, rfl⟩ := Nat.exists_eq_succ_of_ne_zero hp.1
    rw [weight, weight, ih hp.2]

/-- The weight of plans that are followed one after the other. -/
def todoWeight : Todo → Nat
  | [] => 0
  | (p, _) :: todo => p.weight (todoWeight todo)

/-- A task that is left has moved on in the text, or less weight before it. -/
theorem Task.lt_of_mem_branches {p : Plan} (hp : p.progressive = true) {spot : Spot} {shift : Nat}
    {todo : Todo} {task : Task} (ht : task ∈ branches spot shift todo p) :
    spot.index < task.spot.index ∨
      spot.index = task.spot.index ∧ todoWeight task.todo < todoWeight ((p, shift) :: todo) := by
  cases p with
  | empty =>
    rw [List.mem_singleton.1 ht, todoWeight, Plan.weight]
    exact .inr ⟨rfl, Nat.lt_succ_self _⟩
  | literal text =>
    obtain ⟨t, hread, rfl⟩ := List.mem_map.1 ht
    obtain ⟨hahead, hlen⟩ := ahead_of_readText (Option.mem_toList.1 hread)
    have hindex := hahead.index_add
    rw [todoWeight, Plan.weight]
    cases text with
    | nil =>
      rw [List.length_nil] at hlen
      exact .inr ⟨show spot.index = t.index by omega, Nat.lt_succ_self _⟩
    | cons c text =>
      rw [List.length_cons] at hlen
      exact .inl (show spot.index < t.index by omega)
  | chars set =>
    obtain ⟨t, hread, rfl⟩ := List.mem_map.1 ht
    obtain ⟨hahead, hlen⟩ := ahead_of_read (Option.mem_toList.1 hread)
    have hindex := hahead.index_add
    exact .inl (show spot.index < t.index by omega)
  | check a =>
    rw [branches] at ht
    split at ht
    · rw [List.mem_singleton.1 ht, todoWeight, Plan.weight]
      exact .inr ⟨rfl, Nat.lt_succ_self _⟩
    · exact absurd ht List.not_mem_nil
  | seq a b =>
    rw [List.mem_singleton.1 ht, todoWeight, todoWeight, todoWeight, Plan.weight]
    exact .inr ⟨rfl, Nat.lt_succ_self _⟩
  | choice id a b =>
    rw [todoWeight, Plan.weight]
    rcases List.mem_pair.1 ht with rfl | rfl
    · exact .inr ⟨rfl, show a.weight _ < _ by omega⟩
    · exact .inr ⟨rfl, show b.weight _ < _ by omega⟩
  | star id greedy body =>
    rw [Plan.progressive, Bool.and_eq_true, Bool.not_eq_true'] at hp
    rw [todoWeight, Plan.weight]
    rcases mem_ordered.1 ht with rfl | rfl
    · -- Another round: the loop stands after its body again, where it has no weight.
      refine .inr ⟨rfl, ?_⟩
      rw [todoWeight, Plan.weight_eq_of_nullable hp.2 _ 0]
      omega
    · exact .inr ⟨rfl, show todoWeight todo < _ by omega⟩
  | plus id greedy body =>
    rw [Plan.progressive, Bool.and_eq_true, Bool.not_eq_true'] at hp
    refine .inr ?_
    rw [List.mem_singleton.1 ht, todoWeight, Plan.weight_eq_of_nullable hp.2 _ 0, todoWeight,
      Plan.weight]
    exact ⟨rfl, Nat.lt_succ_self _⟩
  | atLeast id count stride greedy body =>
    rw [Plan.progressive, Bool.and_eq_true, Bool.not_eq_true'] at hp
    refine .inr ?_
    cases count with
    | zero =>
      rw [List.mem_singleton.1 ht, todoWeight, Plan.weight, todoWeight, Plan.weight]
      exact ⟨rfl, Nat.lt_succ_self _⟩
    | succ count =>
      rw [List.mem_singleton.1 ht, todoWeight, Plan.weight_eq_of_nullable hp.2 _ 0, todoWeight,
        Plan.weight]
      exact ⟨rfl, by omega⟩
  | counted id count more stride greedy body =>
    refine .inr ?_
    cases count with
    | succ count =>
      rw [List.mem_singleton.1 ht, todoWeight, todoWeight, todoWeight, Plan.weight]
      exact ⟨rfl, Nat.lt_succ_self _⟩
    | zero =>
      cases more with
      | zero =>
        rw [List.mem_singleton.1 ht, todoWeight, Plan.weight]
        exact ⟨rfl, Nat.lt_succ_self _⟩
      | succ more =>
        rw [todoWeight, Plan.weight]
        rcases mem_ordered.1 ht with rfl | rfl
        · refine ⟨rfl, ?_⟩
          rw [todoWeight, todoWeight]
          omega
        · exact ⟨rfl, show todoWeight todo < _ by omega⟩

/-- A task that has gone beyond the plans `todo` at the place `index`. -/
def Task.Beyond (task : Task) (index : Nat) (todo : Todo) : Prop :=
  index < task.spot.index ∨ index = task.spot.index ∧ todoWeight task.todo < todoWeight todo

/-- A task that has gone beyond some plans leaves only such tasks. -/
theorem Task.Beyond.of_mem_branches {p : Plan} (hp : p.progressive = true) {spot : Spot}
    {shift : Nat} {todo : Todo} {index : Nat} {other : Todo}
    (h : Beyond ⟨spot, (p, shift) :: todo⟩ index other) {task : Task}
    (ht : task ∈ branches spot shift todo p) : task.Beyond index other := by
  rcases lt_of_mem_branches hp ht with hlt | ⟨heq, hlt⟩
  · rcases h with h | ⟨h, -⟩
    · exact .inl (Nat.lt_trans h hlt)
    · exact .inl (h ▸ hlt)
  · rcases h with h | ⟨h, hw⟩
    · exact .inl (heq ▸ h)
    · exact .inr ⟨h.trans heq, Nat.lt_trans hlt hw⟩

/-! ## The record of choices

The invariant of the search.  For every choice in the record the tasks fall into two parts: the
first ones are what is left of the visit of that choice, and they have a way if the choice had one.
So if a task comes to the choice again, the visit has nothing left: its tasks come first, and they
have gone beyond the choice, which the task at hand has not. -/

/-- What is left of the visit of a choice from which `todo` was to be followed at the place `spot`:
the first of the tasks, which have gone beyond it.  They have a way if there was one. -/
def VisitLeft (tasks : List Task) (spot : Spot) (todo : Todo) : Prop :=
  ∃ early late, tasks = early ++ late ∧ (∀ task ∈ early, task.Beyond spot.index todo) ∧
    (todoWays todo spot = [] ∨ early.flatMap Task.ways ≠ [])

/-- Every choice in the record has been visited before the tasks that are left. -/
def Explored (w : Wiring) (start : Spot) (made : Made) (tasks : List Task) : Prop :=
  ∀ spot id todo, start.Ahead spot → made.contains spot.index id = true → w id = some todo →
    VisitLeft tasks spot todo

section Record

variable {w : Wiring} {start spot other : Spot} {shift : Nat} {todo left : Todo} {p : Plan}
  {made : Made} {tasks : List Task}

/-- The first task may be replaced by what it leaves, if that has the same ways. -/
theorem VisitLeft.replace {task : Task} {news : List Task}
    (hways : news.flatMap Task.ways = task.ways)
    (hbeyond : task.Beyond other.index left → ∀ t ∈ news, t.Beyond other.index left)
    (h : VisitLeft (task :: tasks) other left) : VisitLeft (news ++ tasks) other left := by
  obtain ⟨early, late, hsplit, hearly, hfound⟩ := h
  -- The first task may be no part of the visit, which is over then and stays so.
  cases early with
  | nil =>
    have hnone : todoWays left other = [] := hfound.resolve_right (· rfl)
    exact ⟨[], news ++ tasks, rfl, List.forall_mem_nil _, .inl hnone⟩
  | cons first early =>
    rw [List.cons_append, List.cons.injEq] at hsplit
    obtain ⟨rfl, rfl⟩ := hsplit
    rw [List.forall_mem_cons] at hearly
    refine ⟨news ++ early, late, (List.append_assoc _ _ _).symm, fun t ht => ?_, ?_⟩
    · rcases List.mem_append.1 ht with ht | ht
      · exact hbeyond hearly.1 t ht
      · exact hearly.2 t ht
    · rwa [List.flatMap_append, hways, ← List.flatMap_cons]

/-- **A choice that has been made leaves no way**: the visit is over, and has found nothing. -/
theorem VisitLeft.ways_eq_nil (h : VisitLeft (⟨spot, todo⟩ :: tasks) spot todo) :
    Task.ways ⟨spot, todo⟩ = [] := by
  obtain ⟨early, late, hsplit, hearly, hfound⟩ := h
  cases early with
  | nil => exact hfound.resolve_right (· rfl)
  | cons first early =>
    -- The task would have gone beyond itself.
    obtain ⟨rfl, -⟩ := List.cons.inj hsplit
    rcases hearly _ List.mem_cons_self with hlt | ⟨-, hlt⟩
    · exact absurd hlt (Nat.lt_irrefl _)
    · exact absurd hlt (Nat.lt_irrefl _)

/-- The visit of a choice that is made for the first time. -/
theorem visitLeft_branches (hp : p.progressive = true) :
    VisitLeft (Task.branches spot shift todo p ++ tasks) spot ((p, shift) :: todo) := by
  refine ⟨_, tasks, rfl, fun task ht => Task.lt_of_mem_branches hp ht, ?_⟩
  rw [Task.flatMap_ways_branches hp]
  exact Classical.em _

/-- **A step keeps the record right, and it keeps the ways of the tasks.**  A step without a choice,
or with a new one, replaces the task by what it leaves; a step with a choice that has been made
drops the task, which has no way left. -/
theorem Explored.step (hwired : TodoWired w ((p, shift) :: todo)) (hp : p.progressive = true)
    (hahead : start.Ahead spot) (h : Explored w start made (⟨spot, (p, shift) :: todo⟩ :: tasks)) :
    Explored w start (Task.step made spot shift todo tasks p).2
        (Task.step made spot shift todo tasks p).1 ∧
      (Task.step made spot shift todo tasks p).1.flatMap Task.ways =
        (⟨spot, (p, shift) :: todo⟩ :: tasks : List Task).flatMap Task.ways := by
  have hbranches := Task.flatMap_ways_branches hp spot shift todo
  have hreplace : ∀ other left, VisitLeft (⟨spot, (p, shift) :: todo⟩ :: tasks) other left →
      VisitLeft (Task.branches spot shift todo p ++ tasks) other left :=
    fun _ _ => .replace hbranches fun hb _ => hb.of_mem_branches hp
  have hkeep : (Task.branches spot shift todo p ++ tasks).flatMap Task.ways =
      (⟨spot, (p, shift) :: todo⟩ :: tasks : List Task).flatMap Task.ways := by
    rw [List.flatMap_append, hbranches, List.flatMap_cons]
  cases hid : p.choiceId? shift with
  | none =>
    rw [Task.step_of_no_choice hid]
    exact ⟨fun other id left ha hm hw => hreplace other left (h other id left ha hm hw), hkeep⟩
  | some id =>
    have hw := hwired.1.eq_of_choiceId? hid
    cases hmade : made.contains spot.index id with
    | true =>
      have hnil := (h spot id _ hahead hmade hw).ways_eq_nil
      rw [Task.step_of_made hid hmade, List.flatMap_cons, hnil]
      refine ⟨fun other id' left ha hm hw' => ?_, rfl⟩
      show VisitLeft ([] ++ tasks) other left
      exact (h other id' left ha hm hw').replace hnil.symm fun _ => List.forall_mem_nil _
    | false =>
      rw [Task.step_of_unmade hid hmade]
      refine ⟨fun other id' left ha hm hw' => ?_, hkeep⟩
      rw [Made.contains_insert, Bool.or_eq_true, decide_eq_true_eq] at hm
      -- In the record now are the choice that has just been made, and those from before.
      rcases hm with ⟨hindex, rfl⟩ | hm
      · obtain rfl := hahead.eq_of_index_eq ha hindex
        obtain rfl := Option.some.inj (hw.symm.trans hw')
        exact visitLeft_branches hp
      · exact hreplace other left (h other id' left ha hm hw')

/-- **The search stops at the first of the ways.**  By induction on the steps that the search may
take, which are enough for the tasks that are left. -/
theorem runTasks_eq_head?_ways {bound choices : Nat} (hw : ∀ id, w id ≠ none → id < choices)
    (hregular : ∀ task ∈ tasks, task.Regular w bound start)
    (hprogressive : ∀ task ∈ tasks, TodoProgressive task.todo)
    (hexplored : Explored w start made tasks) {steps : Nat}
    (hsteps : stepsLeft bound choices start made tasks ≤ steps) :
    (runTasks steps made tasks).1 = (tasks.flatMap Task.ways).head?.map Spot.index := by
  induction steps generalizing made tasks with
  | zero =>
    cases tasks with
    | nil => rfl
    | cons task tasks => exact absurd ((one_le_stepsLeft task).trans hsteps) (by omega)
  | succ steps ih =>
    cases tasks with
    | nil => rfl
    | cons task tasks =>
      obtain ⟨spot, todo⟩ := task
      cases todo with
      | nil => rfl
      | cons x todo =>
        obtain ⟨p, shift⟩ := x
        have hfirst := hregular _ List.mem_cons_self
        have htodo := hprogressive _ List.mem_cons_self
        have hstep := stepsLeft_step hw hfirst made tasks
        obtain ⟨hexplored', hways⟩ :=
          hexplored.step hfirst.wired (todoProgressive_cons.1 htodo).1 hfirst.ahead
        rw [runTasks_succ, ← hways]
        refine ih (fun _ ht => Task.regular_of_mem_step hregular ht) (fun task ht => ?_)
          hexplored' (by omega)
        rcases Task.mem_step ht with ht | ht
        · exact htodo.of_leaves (Task.leaves_of_mem_branches ht)
        · exact hprogressive task (List.mem_cons_of_mem _ ht)

end Record

/-- **The match at a place stops at the first way.**  The search starts with a single task and an
empty record. -/
theorem Expr.matchAt_eq_head?_ways {e : Expr} (hcounted : e.wellCounted = true)
    (hprogressive : e.progressive = true) (s : Spot) :
    (e.matcher.matchAt .none s).1 = (e.ways s).head?.map Spot.index := by
  obtain ⟨w, hwired, hw⟩ := exists_wiring hcounted
  have hregular : ∀ task ∈ [(⟨s, [(e.plan, 0)]⟩ : Task)],
      task.Regular w (e.plan.size + 1) s := by
    intro task ht
    rw [List.mem_singleton.1 ht]
    exact Task.regular_start hwired s
  have hplans : ∀ task ∈ [(⟨s, [(e.plan, 0)]⟩ : Task)], TodoProgressive task.todo := by
    intro task ht
    rw [List.mem_singleton.1 ht]
    exact todoProgressive_cons.2 ⟨progressive_number hprogressive 0, List.forall_mem_nil _⟩
  have hways : [(⟨s, [(e.plan, 0)]⟩ : Task)].flatMap Task.ways = e.ways s := by
    rw [List.flatMap_singleton]
    show ((e.number 0).1.ways s).flatMap (fun t => [t]) = _
    rw [ways_number hprogressive, List.flatMap_singleton']
  rw [← hways]
  refine runTasks_eq_head?_ways hw hregular hplans ?_ (stepsLeft_start_le e .none s)
  intro spot id todo _ hm _
  exact absurd hm (by simp)

end EditorMode.Regex
