import EditorMode.Proofs.Regex.Wiring
import EditorMode.Regex.Simplify
import Mathlib.Data.List.Chain

/-!
# Tidy expressions

The form in which expressions are put together: no item of a sequence is itself a sequence or empty,
no two literals stand side by side, and every repetition with a limit can reach it (`Expr.Tidy`).
Tidy parts make tidy sequences, alternatives and repetitions.

A tidy expression is the sequence of its items (`Expr.ofItems_items`), and joining literals changes
nothing in it.  So an item that is no literal can be put before a tidy expression without touching
it (`Expr.sequence_check`).  This is what the form is for: a pattern that is read inside a frame is
put together a second time, together with what stands before it, and has to come out as it was.

Alternatives are not part of the form.  What they start with alike is taken out of them when they
are made, but nothing depends on whether something is left to take out.
-/

set_option autoImplicit false

namespace EditorMode.Regex.Expr

/-- Whether the expression can be an item of a sequence. -/
def isItem : Expr → Bool
  | .empty => false
  | .seq _ _ => false
  | _ => true

/-- Whether the expression is a fixed text. -/
def isLiteral : Expr → Bool
  | .literal _ => true
  | _ => false

/-- At most one of the expressions is a literal. -/
def Apart (a b : Expr) : Prop := a.isLiteral = true → b.isLiteral = false

/-- An expression in the form that the constructors of `EditorMode.Regex.Simplify` keep to. -/
def Tidy : Expr → Prop
  | .group _ body => body.Tidy
  | .times body least most _ => body.Tidy ∧ most.all (least ≤ ·) = true
  | .seq a b =>
    (a.isItem = true ∧ a.Tidy) ∧ b ≠ .empty ∧ b.Tidy ∧ ∀ c ∈ b.items.head?, Apart a c
  | .alt a b => a.Tidy ∧ b.Tidy
  | _ => True

/-- The counts of a tidy expression are in order, which is all that the search asks of it. -/
theorem Tidy.wellCounted {e : Expr} (h : e.Tidy) : e.wellCounted = true := by
  induction e with
  | group index body ih => exact ih h
  | times body least most greedy ih => exact Bool.and_eq_true_iff.2 ⟨ih h.1, h.2⟩
  | seq a b iha ihb => exact Bool.and_eq_true_iff.2 ⟨iha h.1.2, ihb h.2.2.1⟩
  | alt a b iha ihb => exact Bool.and_eq_true_iff.2 ⟨iha h.1, ihb h.2⟩
  | _ => rfl

/-! ## Sequences

A sequence is made in three steps: its parts are taken apart into items, literals side by side are
joined, and the items are put together again.  The items of tidy parts are tidy but need not be
apart from each other, since one part may end and the next one begin with a literal; joining mends
just this. -/

/-- Items that make a tidy sequence. -/
structure TidyItems (items : List Expr) : Prop where
  tidy : ∀ e ∈ items, e.isItem = true ∧ e.Tidy
  apart : items.IsChain Apart

/-- An item is its own only item. -/
theorem items_of_isItem {e : Expr} (h : e.isItem = true) : e.items = [e] := by
  cases e with
  | empty => cases h
  | seq => cases h
  | _ => rfl

/-- Only the empty expression has no items. -/
theorem items_eq_nil_iff {e : Expr} : e.items = [] ↔ e = .empty := by
  cases e <;> simp [items]

/-- The items of a tidy expression make a tidy sequence. -/
theorem Tidy.items {e : Expr} (h : e.Tidy) : TidyItems e.items := by
  induction e with
  | empty => exact ⟨List.forall_mem_nil _, .nil⟩
  | seq a b _ ihb =>
    obtain ⟨ha, -, hb, hapart⟩ := h
    have hitems := ihb hb
    exact ⟨List.forall_mem_cons.2 ⟨ha, hitems.tidy⟩, List.isChain_cons.2 ⟨hapart, hitems.apart⟩⟩
  | _ => exact ⟨List.forall_mem_singleton.2 ⟨rfl, h⟩, .singleton _⟩

/-- A tidy expression is the sequence of its items. -/
theorem ofItems_items {e : Expr} (h : e.Tidy) : ofItems e.items = e := by
  induction e with
  | seq a b _ ihb =>
    obtain ⟨-, hne, hb, -⟩ := h
    obtain ⟨c, rest, hcons⟩ := List.exists_cons_of_ne_nil (mt items_eq_nil_iff.1 hne)
    rw [items, hcons, ofItems, ← hcons, ihb hb]
    exact List.cons_ne_nil c rest
  | _ => rfl

/-- Tidy items make a tidy expression that has just these items. -/
theorem TidyItems.ofItems {items : List Expr} (h : TidyItems items) :
    (ofItems items).Tidy ∧ (ofItems items).items = items := by
  induction items with
  | nil => exact ⟨trivial, rfl⟩
  | cons a rest ih =>
    obtain ⟨ha, hrest⟩ := List.forall_mem_cons.1 h.tidy
    obtain ⟨hapart, hchain⟩ := List.isChain_cons.1 h.apart
    obtain ⟨htidy, hitems⟩ := ih ⟨hrest, hchain⟩
    cases rest with
    | nil => exact ⟨ha.2, items_of_isItem ha.1⟩
    | cons b rest =>
      have hne : Expr.ofItems (b :: rest) ≠ .empty := by
        rw [Ne, ← items_eq_nil_iff, hitems]
        exact List.cons_ne_nil b rest
      exact ⟨⟨ha, hne, htidy, hitems.symm ▸ hapart⟩, congrArg (a :: ·) hitems⟩

/-- Once literals are joined, the items are apart from each other.  The list is shorter than before
where a literal is followed by one that is joined with it, which is why the induction looks at what
has become of the rest and not at the rest. -/
theorem tidyItems_joinLiterals {items : List Expr} (h : ∀ e ∈ items, e.isItem = true ∧ e.Tidy) :
    TidyItems (joinLiterals items) := by
  fun_induction joinLiterals items with
  | case1 => exact ⟨List.forall_mem_nil _, .nil⟩
  | case2 s rest t more hjoined ih =>
    obtain ⟨htidy, hapart⟩ := ih (List.forall_mem_cons.1 h).2
    rw [hjoined] at htidy hapart
    obtain ⟨hmore, hchain⟩ := List.isChain_cons.1 hapart
    -- Whether an item is apart from a literal does not depend on its text.
    exact ⟨List.forall_mem_cons.2 ⟨⟨rfl, trivial⟩, (List.forall_mem_cons.1 htidy).2⟩,
      List.isChain_cons.2 ⟨hmore, hchain⟩⟩
  | case3 s rest hliteral ih =>
    -- A literal that stays as it is: the rest does not begin with one.
    obtain ⟨htidy, hchain⟩ := ih (List.forall_mem_cons.1 h).2
    refine ⟨List.forall_mem_cons.2 ⟨⟨rfl, trivial⟩, htidy⟩, List.isChain_cons.2 ⟨?_, hchain⟩⟩
    intro e he _
    obtain ⟨more, hmore⟩ := List.head?_eq_some_iff.1 he
    cases e with
    | literal t => exact (hliteral t more hmore).elim
    | _ => rfl
  | case4 e rest hliteral ih =>
    obtain ⟨he, hrest⟩ := List.forall_mem_cons.1 h
    obtain ⟨htidy, hchain⟩ := ih hrest
    refine ⟨List.forall_mem_cons.2 ⟨he, htidy⟩, List.isChain_cons.2 ⟨?_, hchain⟩⟩
    -- An item that is no literal is apart from everything.
    intro _ _ hel
    cases e with
    | literal t => exact (hliteral t rfl).elim
    | _ => cases hel

/-- Among items that are apart from each other there is nothing to join. -/
theorem joinLiterals_of_isChain {items : List Expr} (h : items.IsChain Apart) :
    joinLiterals items = items := by
  fun_induction joinLiterals items with
  | case1 => rfl
  | case2 s rest t more hjoined ih =>
    obtain ⟨hapart, hchain⟩ := List.isChain_cons.1 h
    have hrest : rest = .literal t :: more := (ih hchain).symm.trans hjoined
    cases hapart (.literal t) (by rw [hrest]; rfl) rfl
  | case3 s rest hliteral ih => rw [ih (List.isChain_cons.1 h).2]
  | case4 e rest hliteral ih => rw [ih (List.isChain_cons.1 h).2]

/-- **Tidy parts make a tidy sequence**, whatever literals they begin and end with. -/
theorem tidy_sequence {parts : List Expr} (h : ∀ e ∈ parts, e.Tidy) : (sequence parts).Tidy := by
  refine (tidyItems_joinLiterals fun e he => ?_).ofItems.1
  obtain ⟨part, hpart, he⟩ := List.mem_flatMap.1 he
  exact (h part hpart).items.tidy e he

/-- **An assertion before a tidy expression** leaves the expression as it is. -/
theorem sequence_check {e : Expr} (h : e.Tidy) (a : Assertion) :
    sequence [.check a, e] = if e = .empty then .check a else .seq (.check a) e := by
  have hjoined : joinLiterals (.check a :: e.items) = .check a :: e.items :=
    joinLiterals_of_isChain (List.isChain_cons.2 ⟨fun _ _ hc => Bool.noConfusion hc, h.items.apart⟩)
  have hflat : [.check a, e].flatMap items = .check a :: e.items := by
    rw [List.flatMap_cons, List.flatMap_singleton]
    rfl
  -- The assertion is an item before those of the expression, and these go together as they were.
  rw [sequence, hflat, hjoined]
  split
  next hempty =>
    rw [hempty]
    rfl
  next hne =>
    obtain ⟨b, rest, hcons⟩ := List.exists_cons_of_ne_nil (mt items_eq_nil_iff.1 hne)
    rw [hcons, ofItems, ← hcons, ofItems_items h]
    exact List.cons_ne_nil b rest

/-! ## Alternatives

Alternatives become one set if they all are sets or single characters.  If they are all sequences
that start alike, the items that they share are put before the choice of what is left of them.  All
of this is made of items of the alternatives, so it is as tidy as these. -/

/-- A set is a literal or a set, both of which are tidy. -/
theorem tidy_ofSet (set : CharSet) : (ofSet set).Tidy := by
  rw [ofSet]
  split
  · trivial
  · trivial

theorem tidy_ofAsciiSet (set : CharSet) : (ofAsciiSet set).Tidy := by
  rw [ofAsciiSet]
  split
  · trivial
  · split
    · trivial
    · trivial

/-- The alternatives of a tidy expression are tidy. -/
theorem Tidy.branches {e : Expr} (h : e.Tidy) : ∀ b ∈ e.branches, b.Tidy := by
  induction e with
  | alt a b _ ihb => exact List.forall_mem_cons.2 ⟨h.1, ihb h.2⟩
  | _ => exact List.forall_mem_singleton.2 h

theorem tidy_ofBranches {parts : List Expr} (h : ∀ e ∈ parts, e.Tidy) :
    (ofBranches parts).Tidy := by
  induction parts with
  | nil => trivial
  | cons a rest ih =>
    obtain ⟨ha, hrest⟩ := List.forall_mem_cons.1 h
    cases rest with
    | nil => exact ha
    | cons b rest => exact ⟨ha, ih hrest⟩

theorem tidy_choose {parts : List Expr} (h : ∀ e ∈ parts, e.Tidy) : (choose parts).Tidy := by
  have hparts : ∀ e ∈ parts.flatMap Expr.branches, e.Tidy := by
    intro e he
    obtain ⟨part, hpart, he⟩ := List.mem_flatMap.1 he
    exact (h part hpart).branches e he
  rw [choose]
  split
  next e heq => exact hparts e (heq ▸ List.mem_singleton_self e)
  next =>
    split
    · exact tidy_ofSet _
    · exact tidy_ofBranches hparts

/-- What two lists start with comes from the first one. -/
theorem mem_of_mem_commonStart {as bs : List Expr} {e : Expr} (h : e ∈ commonStart as bs) :
    e ∈ as := by
  fun_induction commonStart as bs with
  | case1 a as bs ih =>
    rcases List.mem_cons.1 h with rfl | h
    · exact List.mem_cons_self
    · exact List.mem_cons_of_mem _ (ih h)
  | case2 => cases h
  | case3 => cases h

/-- What all alternatives start with is what the first one starts with. -/
theorem mem_of_mem_sharedStart {first : Expr} {rest : List Expr} {e : Expr}
    (h : e ∈ sharedStart (first :: rest)) : e ∈ first.items := by
  have hfold : ∀ start : List Expr,
      e ∈ rest.foldl (fun start e => commonStart start e.items) start → e ∈ start := by
    clear h
    induction rest with
    | nil => exact fun _ h => h
    | cons b rest ih => exact fun start h => mem_of_mem_commonStart (ih _ h)
  rw [sharedStart] at h
  split at h
  · exact hfold _ h
  · cases h

/-- A tidy expression without its first items is tidy. -/
theorem Tidy.drop_items {e : Expr} (h : e.Tidy) (count : Nat) :
    (Expr.ofItems (e.items.drop count)).Tidy := by
  obtain ⟨htidy, hapart⟩ := h.items
  exact (TidyItems.ofItems
    ⟨fun x hx => htidy x (List.mem_of_mem_drop hx), hapart.drop count⟩).1

/-- **Tidy parts make tidy alternatives.** -/
theorem tidy_alternatives {parts : List Expr} (h : ∀ e ∈ parts, e.Tidy) :
    (alternatives parts).Tidy := by
  -- What is shared by the alternatives is looked for in the choice between them.
  have hchosen := tidy_choose h
  rw [alternatives]
  split
  next a b heq =>
    rw [heq] at hchosen
    have hbranches := hchosen.branches
    split
    next => exact hchosen
    next start hne =>
      refine tidy_sequence (List.forall_mem_append.2 ⟨fun e he => ?_, ?_⟩)
      · exact (hchosen.1.items.tidy e (mem_of_mem_sharedStart he)).2
      · refine List.forall_mem_singleton.2 (tidy_choose ?_)
        intro e he
        obtain ⟨branch, hbranch, rfl⟩ := List.mem_map.1 he
        exact (hbranches branch hbranch).drop_items _
  next => exact hchosen

/-! ## Repetitions -/

/-- **A tidy body makes a tidy repetition**, if it can reach its limit. -/
theorem tidy_repeated {body : Expr} (hbody : body.Tidy) {least : Nat} {most : Option Nat}
    (hcount : most.all (least ≤ ·) = true) (greedy : Bool) :
    (body.repeated least most greedy).Tidy := by
  -- The counts are changed before they are looked at, so that they are any counts in order here.
  have htimes : ∀ (least : Nat) (most : Option Nat), most.all (least ≤ ·) = true →
      (if least = 0 ∧ most = some 0 then .empty
        else if least = 1 ∧ most = some 1 then body
        else .times body least most greedy : Expr).Tidy := by
    intro least most hcount
    split
    · trivial
    · split
      · exact hbody
      · exact ⟨hbody, hcount⟩
  refine htimes _ _ ?_
  -- A body that matches nothing needs one round at most, whatever the counts were.
  cases body.alwaysEmpty with
  | false => exact hcount
  | true =>
    refine decide_eq_true ?_
    cases most with
    | none => exact Nat.min_le_right least 1
    | some most =>
      have hle : least ≤ most := of_decide_eq_true hcount
      show min least 1 ≤ min most 1
      omega

end EditorMode.Regex.Expr
