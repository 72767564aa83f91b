import EditorMode.Proofs.Line.Columns
import EditorMode.Proofs.Line.Reading
import Mathlib.Order.Bounds.Defs

/-!
# The column of a place in a line

A place in a line is given by its byte offset, and its column by the characters before it.  Going on
from one place to a later one goes on with the count of columns (`visualColumn_between`), so that
columns do not decrease along a line (`visualColumn_le`), and stay as they are past its end
(`visualColumn_past_end`).  A tab leads to the next tab stop (`isLeast_visualColumn_after_tab`).
The width of the indentation is the column of the place where it ends
(`indentationWidth_eq_visualColumn`).
-/

set_option autoImplicit false

namespace EditorMode

open Text

variable {line s t : List Char} {p q tab : Nat}

/-! ## Cutting a line at a byte offset -/

theorem Text.takeBytes_of_le {offset : Nat} (h : byteLength line ≤ offset) :
    takeBytes line offset = .ok line := by
  induction line generalizing offset with
  | nil => rfl
  | cons c rest ih =>
    have hsize := c.utf8Size_pos
    rw [byteLength_cons] at h
    rw [takeBytes, if_neg (by omega), if_neg (by omega), ih (by omega)]
    rfl

/-- A line is cut at the end of one of its characters, or past its own end. -/
theorem Text.cut_of_takeBytes {offset : Nat} (h : takeBytes line offset = .ok s) :
    s <+: line ∧ (byteLength s = offset ∨ s = line ∧ byteLength line ≤ offset) := by
  induction line generalizing s offset with
  | nil =>
    obtain rfl := Except.ok.inj h
    exact ⟨List.prefix_rfl, .inr ⟨rfl, Nat.zero_le _⟩⟩
  | cons c rest ih =>
    rw [takeBytes] at h
    split at h
    next hzero =>
      obtain rfl := Except.ok.inj h
      exact ⟨List.nil_prefix, .inl hzero.symm⟩
    next =>
      split at h
      next => cases h
      next hinside =>
        obtain ⟨s, hs, rfl⟩ := map_eq_ok_iff.1 h
        obtain ⟨hstarts, hlength⟩ := ih hs
        refine ⟨List.cons_prefix_cons.2 ⟨rfl, hstarts⟩, ?_⟩
        rw [byteLength_cons, byteLength_cons]
        rcases hlength with hlength | ⟨rfl, hlength⟩
        · exact .inl (by omega)
        · exact .inr ⟨rfl, by omega⟩

/-- What comes before a place comes before every later place. -/
theorem Text.prefix_of_takeBytes (hpq : p ≤ q) (hs : takeBytes line p = .ok s)
    (ht : takeBytes line q = .ok t) : s <+: t := by
  obtain ⟨hs, hp⟩ := cut_of_takeBytes hs
  obtain ⟨ht, hq⟩ := cut_of_takeBytes ht
  have hsline : byteLength s ≤ byteLength line :=
    (byteLength_le_iff hs List.prefix_rfl).2 hs.length_le
  have hlength : byteLength s ≤ byteLength t := by
    rcases hq with hq | ⟨rfl, -⟩
    · rcases hp with hp | ⟨rfl, hp⟩ <;> omega
    · exact hsline
  exact List.prefix_of_prefix_length_le hs ht ((byteLength_le_iff hs ht).1 hlength)

/-! ## Going on from place to place -/

theorem visualColumn_of_takeBytes (hs : takeBytes line p = .ok s) :
    visualColumn line p tab = columnAfter (max tab 1) 0 s := by
  rw [visualColumn, hs]
  rfl

/-- **From one place to a later one** the columns are counted on. -/
theorem visualColumn_between (tab : Nat) (hpq : p ≤ q) (hs : takeBytes line p = .ok s)
    (ht : takeBytes line q = .ok t) :
    ∃ between, t = s ++ between ∧
      visualColumn line q tab =
        visualColumn line p tab >>= (columnAfter (max tab 1) · between) := by
  obtain ⟨between, rfl⟩ := prefix_of_takeBytes hpq hs ht
  refine ⟨between, rfl, ?_⟩
  rw [visualColumn_of_takeBytes hs, visualColumn_of_takeBytes ht, columnAfter_append]

theorem visualColumn_le (hpq : p ≤ q) {a b : Nat} (ha : visualColumn line p tab = .ok a)
    (hb : visualColumn line q tab = .ok b) : a ≤ b := by
  obtain ⟨s, hs, -⟩ := bind_eq_ok_iff.1 ha
  obtain ⟨t, ht, -⟩ := bind_eq_ok_iff.1 hb
  obtain ⟨between, -, hbetween⟩ := visualColumn_between tab hpq hs ht
  rw [hb, ha] at hbetween
  exact le_of_columnAfter (Nat.le_max_right tab 1) hbetween.symm

theorem visualColumn_past_end (h : byteLength line ≤ q) :
    visualColumn line q tab = visualColumn line (byteLength line) tab := by
  rw [visualColumn_of_takeBytes (takeBytes_of_le h),
    visualColumn_of_takeBytes (takeBytes_of_le (Nat.le_refl _))]

/-! ## Tabs and indentation -/

/-- A tab leads to the next tab stop. -/
theorem isLeast_columnNext_tab (htab : 0 < tab) {column next : Nat}
    (h : columnNext tab column '\t' = .ok next) :
    IsLeast {stop | tab ∣ stop ∧ column < stop} next := by
  rw [columnNext, if_pos rfl] at h
  obtain ⟨sum, hsum, rfl⟩ := map_eq_ok_iff.1 h
  obtain ⟨rfl, -⟩ := addBelow_eq_ok_iff.1 hsum
  have hmod := Nat.mod_lt column htab
  have hdiv := Nat.div_add_mod column tab
  have hnext : column + tab - column % tab = tab * (column / tab + 1) := by
    rw [Nat.mul_add_one]
    omega
  refine ⟨⟨⟨_, hnext⟩, ?_⟩, ?_⟩
  · show column < column + tab - column % tab
    omega
  · rintro stop ⟨⟨count, rfl⟩, hstop⟩
    show column + tab - column % tab ≤ tab * count
    rw [hnext]
    exact Nat.mul_le_mul_left tab (Nat.div_lt_of_lt_mul hstop)

theorem isLeast_visualColumn_after_tab {before after : List Char}
    (hline : line = before ++ '\t' :: after) {a b : Nat}
    (ha : visualColumn line (byteLength before) tab = .ok a)
    (hb : visualColumn line (byteLength before + 1) tab = .ok b) :
    IsLeast {stop | max tab 1 ∣ stop ∧ a < stop} b := by
  have hbefore : takeBytes line (byteLength before) = .ok before := by
    rw [hline, takeBytes_byteLength]
  have hafter : takeBytes line (byteLength before + 1) = .ok (before ++ ['\t']) := by
    have hcut := takeBytes_byteLength (before ++ ['\t']) after
    rw [List.append_assoc, byteLength_append] at hcut
    exact hline ▸ hcut
  rw [visualColumn_of_takeBytes hbefore] at ha
  rw [visualColumn_of_takeBytes hafter, columnAfter_append, ha, ok_bind, columnAfter_cons,
    bind_eq_ok_iff] at hb
  obtain ⟨next, hnext, hb⟩ := hb
  obtain rfl := Except.ok.inj hb
  exact isLeast_columnNext_tab (Nat.le_max_right tab 1) hnext

/-- The indentation of a line ends where its first spaces and tabs end. -/
theorem indentationWidth_eq_visualColumn {rest : List Char} (hs : ∀ c ∈ s, isIndent c = true)
    (hrest : ∀ c ∈ rest.head?, isIndent c = false) :
    indentationWidth (s ++ rest) tab = visualColumn (s ++ rest) (byteLength s) tab := by
  rw [visualColumn_of_takeBytes (takeBytes_byteLength s rest), indentationWidth,
    takeWhile_append_left hrest, List.takeWhile_eq_self_iff.2 hs]

end EditorMode
