import EditorMode.Regex.Search
import Mathlib.Data.List.Basic

/-!
# The ways through an expression

`Expr.ways e s` lists the places at which a match of `e` that starts at the place `s` can stop, in
order of preference: alternatives in the order in which they are written, and more rounds of a
repetition before fewer if it is greedy.  The match of `e` at `s` is the first one.

A round of a repetition without limit has to use up text; a round that does not is left out.  For
most expressions there is no such round (`Expr.progressive`), and then the ways are those of the
plan of the expression (`Expr.ways_number`), which is what the search follows.
-/

set_option autoImplicit false

namespace EditorMode.Regex

namespace Spot

/-! ## Places further on -/

/-- The place `count` characters further on, or the end of the text if there are not as many. -/
def forward (s : Spot) : Nat → Spot
  | 0 => s
  | count + 1 =>
    match s.rest with
    | [] => s
    | c :: rest => forward ⟨s.index + 1, some c, rest⟩ count

theorem forward_of_rest_eq_nil {s : Spot} (h : s.rest = []) (count : Nat) :
    s.forward count = s := by
  cases count with
  | zero => rfl
  | succ count => rw [forward, h]

theorem rest_forward (s : Spot) (count : Nat) : (s.forward count).rest = s.rest.drop count := by
  induction count generalizing s with
  | zero => rfl
  | succ count ih =>
    rw [forward]
    cases h : s.rest with
    | nil => exact h
    | cons c rest => exact ih _

/-- What comes after the text that has been read. -/
theorem rest_forward_of_eq_append {s : Spot} (text : List Char) {rest : List Char}
    (h : s.rest = text ++ rest) : (s.forward text.length).rest = rest := by
  rw [rest_forward, h, List.drop_left]

theorem not_mem_rest_forward {s : Spot} {c : Char} (h : c ∉ s.rest) (count : Nat) :
    c ∉ (s.forward count).rest := by
  rw [rest_forward]
  exact fun hmem => h (List.mem_of_mem_drop hmem)

theorem index_forward {s : Spot} {count : Nat} (h : count ≤ s.rest.length) :
    (s.forward count).index = s.index + count := by
  induction count generalizing s with
  | zero => rfl
  | succ count ih =>
    rw [forward]
    cases hrest : s.rest with
    | nil =>
      rw [hrest] at h
      exact absurd h (Nat.not_succ_le_zero count)
    | cons c rest =>
      rw [hrest] at h
      exact (ih (Nat.le_of_succ_le_succ h)).trans (Nat.succ_add_eq_add_succ s.index count)

theorem forward_forward (s : Spot) (m n : Nat) : (s.forward m).forward n = s.forward (m + n) := by
  induction m generalizing s with
  | zero => rw [forward, Nat.zero_add]
  | succ m ih =>
    rw [Nat.succ_add, forward, forward]
    cases h : s.rest with
    | nil => exact forward_of_rest_eq_nil h n
    | cons c rest => exact ih _

/-- The end of the text, from a place further on. -/
theorem forward_length_rest {s : Spot} {count : Nat} (h : count ≤ s.rest.length) :
    (s.forward count).forward (s.forward count).rest.length = s.forward s.rest.length := by
  rw [forward_forward, rest_forward, List.length_drop, Nat.add_sub_of_le h]

/-- Reading a character of a set moves on by one. -/
theorem read_eq (s : Spot) (set : CharSet) :
    s.read set = if s.rest.head?.any set.holds then some (s.forward 1) else none := by
  rw [read]
  cases h : s.rest with
  | nil => rfl
  | cons c rest =>
    have hf : s.forward 1 = ⟨s.index + 1, some c, rest⟩ := by
      rw [forward, h]
      rfl
    rw [hf]
    rfl

/-- Reading a text moves on by its length. -/
theorem readText_eq (s : Spot) (text : List Char) :
    s.readText text = if text.isPrefixOf s.rest then some (s.forward text.length) else none := by
  induction text generalizing s with
  | nil => rfl
  | cons c text ih =>
    rw [readText]
    cases h : s.rest with
    | nil => rfl
    | cons d rest =>
      have hf : s.forward (text.length + 1)
          = forward ⟨s.index + 1, some d, rest⟩ text.length := by rw [forward, h]
      rw [List.length_cons, hf, List.isPrefixOf_cons_cons]
      show (if c = d then readText ⟨s.index + 1, some d, rest⟩ text else none) = _
      by_cases hcd : c = d
      · rw [if_pos hcd, ih, beq_iff_eq.2 hcd, Bool.true_and]
      · rw [if_neg hcd, beq_eq_false_iff_ne.2 hcd, Bool.false_and, if_neg Bool.false_ne_true]

/-- The place `t` is reached from `s` by going forward. -/
def Ahead (s t : Spot) : Prop := ∃ count, count ≤ s.rest.length ∧ t = s.forward count

theorem Ahead.refl (s : Spot) : s.Ahead s := ⟨0, Nat.zero_le _, rfl⟩

theorem Ahead.trans {s t u : Spot} (hst : s.Ahead t) (htu : t.Ahead u) : s.Ahead u := by
  obtain ⟨m, hm, rfl⟩ := hst
  obtain ⟨n, hn, rfl⟩ := htu
  rw [rest_forward, List.length_drop] at hn
  exact ⟨m + n, by omega, forward_forward s m n⟩

/-- What is behind a place is no longer ahead of it. -/
theorem Ahead.index_add {s t : Spot} (h : s.Ahead t) :
    s.index ≤ t.index ∧ t.index + t.rest.length = s.index + s.rest.length := by
  obtain ⟨n, hn, rfl⟩ := h
  rw [index_forward hn, rest_forward, List.length_drop]
  omega

/-- Of the places ahead, each has its own number of characters before it. -/
theorem Ahead.eq_of_index_eq {s t u : Spot} (ht : s.Ahead t) (hu : s.Ahead u)
    (h : t.index = u.index) : t = u := by
  obtain ⟨m, hm, rfl⟩ := ht
  obtain ⟨n, hn, rfl⟩ := hu
  rw [index_forward hm, index_forward hn] at h
  rw [Nat.add_left_cancel h]

theorem ahead_of_read {s t : Spot} {set : CharSet} (h : s.read set = some t) :
    s.Ahead t ∧ t.rest.length < s.rest.length := by
  rw [read_eq] at h
  split at h
  · rename_i hhead
    have hlen : 1 ≤ s.rest.length := by
      cases hrest : s.rest with
      | nil => rw [hrest] at hhead; cases hhead
      | cons c rest => exact Nat.succ_le_succ (Nat.zero_le _)
    obtain rfl := Option.some.inj h
    refine ⟨⟨1, hlen, rfl⟩, ?_⟩
    rw [rest_forward, List.length_drop]
    omega
  · cases h

theorem ahead_of_readText {s t : Spot} {text : List Char} (h : s.readText text = some t) :
    s.Ahead t ∧ t.rest.length + text.length = s.rest.length := by
  rw [readText_eq] at h
  split at h
  · rename_i hpre
    have hlen : text.length ≤ s.rest.length := (List.isPrefixOf_iff_prefix.1 hpre).length_le
    obtain rfl := Option.some.inj h
    refine ⟨⟨text.length, hlen, rfl⟩, ?_⟩
    rw [rest_forward, List.length_drop]
    omega
  · cases h

/-! ## Repetitions -/

/-- The ways to go on and the ways to stop, those to go on first if greedy. -/
def prefer (greedy : Bool) (more stop : List Spot) : List Spot :=
  if greedy then more ++ stop else stop ++ more

/-- The ways through any number of rounds, each of which has to use up text. -/
def loop (round : Spot → List Spot) (greedy : Bool) (s : Spot) : List Spot :=
  prefer greedy
    ((round s).flatMap fun t => if t.rest.length < s.rest.length then loop round greedy t else [])
    [s]
termination_by s.rest.length

/-- The ways through a fixed number of rounds. -/
def exactly (round : Spot → List Spot) : Nat → Spot → List Spot
  | 0, s => [s]
  | count + 1, s => (round s).flatMap (exactly round count)

/-- The ways through at most the given number of rounds. -/
def upTo (round : Spot → List Spot) (greedy : Bool) : Nat → Spot → List Spot
  | 0, s => [s]
  | count + 1, s => prefer greedy ((round s).flatMap (upTo round greedy count)) [s]

@[simp]
theorem mem_prefer {greedy : Bool} {more stop : List Spot} {t : Spot} :
    t ∈ prefer greedy more stop ↔ t ∈ more ∨ t ∈ stop := by
  cases greedy
  · rw [prefer, if_neg Bool.false_ne_true, List.mem_append, or_comm]
  · rw [prefer, if_pos rfl, List.mem_append]

/-- Where every round uses up text, no round is left out. -/
theorem loop_eq {round : Spot → List Spot}
    (hround : ∀ s, ∀ t ∈ round s, t.rest.length < s.rest.length) (greedy : Bool) (s : Spot) :
    loop round greedy s = prefer greedy ((round s).flatMap (loop round greedy)) [s] := by
  rw [loop]
  congr 1
  refine List.flatMap_congr fun t ht => ?_
  rw [if_pos (hround s t ht)]

theorem exactly_succ (round : Spot → List Spot) (count : Nat) (s : Spot) :
    exactly round (count + 1) s = (exactly round count s).flatMap round := by
  induction count generalizing s with
  | zero => simp [exactly]
  | succ count ih =>
    rw [exactly, exactly, List.flatMap_assoc]
    exact List.flatMap_congr fun t _ => ih t

end Spot

open Spot

/-! ## Expressions -/

/-- Where a match of the expression that starts at a place can stop, in order of preference. -/
def Expr.ways : Expr → Spot → List Spot
  | .empty, s => [s]
  | .literal text, s => (s.readText text).toList
  | .chars set, s => (s.read set).toList
  | .asciiChars set, s => (s.read set).toList
  | .check a, s => if a.holds s.previous s.rest.head? then [s] else []
  | .group _ body, s => body.ways s
  | .times body least none greedy, s =>
    (exactly body.ways least s).flatMap (loop body.ways greedy)
  | .times body least (some most) greedy, s =>
    (exactly body.ways least s).flatMap (upTo body.ways greedy (most - least))
  | .seq a b, s => (a.ways s).flatMap b.ways
  | .alt a b, s => a.ways s ++ b.ways s

/-- Whether every round of a repetition without limit is known to have a character. -/
def Expr.progressive : Expr → Bool
  | .group _ body => body.progressive
  | .times body _ most _ => body.progressive && (most.isSome || body.consumes)
  | .seq a b => a.progressive && b.progressive
  | .alt a b => a.progressive && b.progressive
  | _ => true

/-! ## Plans -/

/-- The ways through a plan. -/
def Plan.ways : Plan → Spot → List Spot
  | .empty, s => [s]
  | .literal text, s => (s.readText text).toList
  | .chars set, s => (s.read set).toList
  | .check a, s => if a.holds s.previous s.rest.head? then [s] else []
  | .seq a b, s => (a.ways s).flatMap b.ways
  | .choice _ a b, s => a.ways s ++ b.ways s
  | .star _ greedy body, s => loop body.ways greedy s
  | .plus _ greedy body, s => (body.ways s).flatMap (loop body.ways greedy)
  | .atLeast _ count _ greedy body, s =>
    (exactly body.ways (count + 1) s).flatMap (loop body.ways greedy)
  | .counted _ count more _ greedy body, s =>
    (exactly body.ways count s).flatMap (upTo body.ways greedy more)

/-- The plan of an expression has the ways of the expression. -/
theorem Expr.ways_number {e : Expr} (he : e.progressive = true) (id : Nat) :
    (e.number id).1.ways = e.ways := by
  induction e generalizing id with
  | empty => rfl
  | literal text => rfl
  | chars set | asciiChars set => rfl
  | check a => rfl
  | group index body ih => exact ih he id
  | times body least most greedy ih =>
    rw [progressive, Bool.and_eq_true] at he
    obtain ⟨hbody, hmost⟩ := he
    funext s
    cases most with
    | some most =>
      rw [number]
      show (exactly _ least s).flatMap (upTo _ greedy (most - least)) = _
      rw [ih hbody, ways]
    | none =>
      have hc : body.consumes = true := by simpa using hmost
      cases least with
      | zero =>
        rw [number, if_pos hc]
        show loop _ greedy s = _
        rw [ih hbody, ways, exactly, List.flatMap_singleton]
      | succ least =>
        show (exactly _ (least + 1) s).flatMap (loop _ greedy) = _
        rw [ih hbody, ways]
  | seq a b iha ihb =>
    rw [progressive, Bool.and_eq_true] at he
    funext s
    show (Plan.ways _ s).flatMap (Plan.ways _) = _
    rw [iha he.1, ihb he.2, ways]
  | alt a b iha ihb =>
    rw [progressive, Bool.and_eq_true] at he
    funext s
    show Plan.ways _ s ++ Plan.ways _ s = _
    rw [iha he.1, ihb he.2, ways]

end EditorMode.Regex
